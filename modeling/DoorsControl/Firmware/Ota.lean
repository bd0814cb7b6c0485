import DoorsControl.Firmware.MainLoop
import DoorsControl.Kit.Sha256

/-!
# Updates over the air

`OtaUpdater::checkNow` and `applyUpdate` of `acs_ota.cpp`. What the network brings and what the
flash takes is as it likes: a download is any sequence of turns of the loop, with reads that are
short, writes that store less than they were given, and a connection that goes away. A write that
returns a number has stored so many bytes.

`acs_ota.h`: "The signature is checked against the completed hash before the boot partition is
switched."

* `Transfer.InStep` — the hash, the flash and the count agree;
* `InStep.poll`, `InStep.pump` — a turn keeps that or leaves the count short, and so does the loop;
* `checkNow_finishes`, `checkNow_givenUp` — **what a check comes to**;
* `Delivers.pump` — a download of an image that fits is taken in whole, however it is cut up.
-/

namespace DoorsControl.Firmware

/-- What an update uses of `config.h`. -/
structure OtaConfig extends Config where
  otaPublicKey : Bytes

/-- `kChunk` -/
def chunkBytes : Nat := 1024

/-- `app0` and `app1` of `partitions.csv` -/
def slotBytes : Nat := 0x1E0000

/-! ## The surroundings -/

/-- What one turn of the loop meets. -/
structure Poll where
  /-- `http.connected()` -/
  connected : Bool
  /-- `stream->available()` -/
  available : Nat
  /-- what `readBytes` finds until its time is up -/
  incoming : Bytes
  /-- how many bytes the flash takes -/
  flashes : Nat

/-- The download of an image. -/
structure Download where
  connects : Bool
  code : Int
  /-- `Update.begin` -/
  begins : Bool
  polls : List Poll
  /-- `Update.end` -/
  ends : Bool

/-- What a check for updates meets. -/
structure Check where
  connects : Bool
  code : Int
  body : Bytes
  serves : (url : Bytes) → Download

/-- `HTTP_CODE_OK` -/
def httpOk : Int := 200

/-- What is done to the flash, and what is reported. -/
inductive OtaAction where
  | begin (size : UInt32)
  /-- `Update.write`, with what it stored -/
  | write (stored : Bytes)
  | abort
  /-- `Update.end(true)` -/
  | finish
  | rejected (refusal : OtaRefusal)
  | applied (version : Bytes)
  | restart

/-- A check that is over. -/
structure OtaRun where
  actions : List OtaAction
  returned : Bool

def OtaAction.stored : OtaAction → Bytes
  | .write stored => stored
  | _ => []

/-- What the slot holds after these. -/
def slotOf (actions : List OtaAction) : Bytes := actions.flatMap OtaAction.stored

/-! ## The download -/

/-- `equalsConstantTime`, of two buffers of one length -/
def equalsConstantTime (a b : Bytes) : Bool :=
  (List.zipWith (· ^^^ ·) a b).foldl (· ||| ·) 0 = 0

/-- The locals of the loop: what the hash was given, what each write stored, and `received`. -/
structure Transfer where
  hashed : Bytes
  stored : List Bytes
  received : UInt32

def Transfer.start : Transfer := ⟨[], [], 0⟩

def Transfer.slot (t : Transfer) : Bytes := t.stored.flatten

/-- `stream->readBytes(buffer, toRead)` -/
def Poll.read (p : Poll) : Bytes := p.incoming.take (min p.available chunkBytes)

/-- What `Update.write` stores of it. -/
def Poll.stored (p : Poll) (slot : Bytes) : Bytes :=
  p.read.take (min p.flashes (slotBytes - slot.length))

/-- What one turn leads to. -/
inductive Pumped where
  | again (t : Transfer)
  | ended (t : Transfer)

/-- The loop condition and the body. -/
def Transfer.poll (imageSize : UInt32) (t : Transfer) (p : Poll) : Pumped :=
  if !(p.connected && t.received < imageSize) then .ended t
  else if p.available = 0 then .again t
  else if p.read = [] then .ended t
  else
    let hashed := t.hashed ++ p.read
    let stored := t.stored ++ [p.stored t.slot]
    if (p.stored t.slot).length ≠ p.read.length then .ended { t with hashed, stored }
    else .again ⟨hashed, stored, t.received + UInt32.ofNat p.read.length⟩

/-- The loop; `none` if it is not over. -/
def pump (imageSize : UInt32) : Transfer → List Poll → Option Transfer
  | _, [] => none
  | t, p :: rest =>
      match t.poll imageSize p with
      | .again t => pump imageSize t rest
      | .ended t => some t

/-- The end of `applyUpdate`, once the loop is over. -/
def finishUpdate (expectedSha : Bytes) (imageSize : UInt32) (version : Bytes) (ends : Bool)
    (t : Transfer) : OtaRun :=
  let written := .begin imageSize :: t.stored.map .write
  if t.received ≠ imageSize || !equalsConstantTime (Kit.Sha256.sha256 t.hashed) expectedSha then
    ⟨written ++ [.abort, .rejected .hashMismatch], false⟩
  else if !ends then ⟨written ++ [.finish, .rejected .flashFailed], false⟩
  else ⟨written ++ [.finish, .applied version, .restart], true⟩

/-- `applyUpdate`. It makes no use of the signature. -/
def applyUpdate (expectedSha : Bytes) (imageSize : UInt32) (version : Bytes)
    (download : Download) : Option OtaRun :=
  if !download.connects then some ⟨[], false⟩
  else if download.code ≠ httpOk then some ⟨[], false⟩
  else if !download.begins then some ⟨[], false⟩
  else
    (pump imageSize .start download.polls).map
      (finishUpdate expectedSha imageSize version download.ends)

/-! ## The manifest -/

/-- `document[key] | 0`, an `int` -/
def intOr (document : Json Bytes) (key : String) : Int :=
  match document.member? (ascii key) with
  | some (.int i) => if -0x80000000 ≤ i ∧ i < 0x80000000 then i else 0
  | _ => 0

/-- What is signed. -/
def signedText (version : Bytes) (size : Nat) (sha256 : Bytes) : Bytes :=
  ascii "acs-ota:v1|" ++ version ++ ascii "|" ++ decimalBytes size ++ ascii "|" ++ sha256

/-- What `checkNow` reads out of the document. -/
structure Manifest where
  version : Bytes
  url : Bytes
  size : UInt32
  sha256 : Bytes
  signature : Bytes

def readManifest (document : Json Bytes) : Manifest where
  version := stringOr document "version"
  url := stringOr document "url"
  size := UInt32.ofInt (intOr document "size")
  sha256 := stringOr document "sha256"
  signature := stringOr document "signature"

/-- `checkNow` -/
def checkNow (platform : Platform) (config : OtaConfig) (check : Check) : Option OtaRun :=
  if !check.connects then some ⟨[], false⟩
  else if check.code ≠ httpOk then some ⟨[], false⟩
  else
    match platform.deserializeJson check.body with
    | none => some ⟨[], false⟩
    | some document =>
        let manifest := readManifest document
        let expectedSha := platform.base64Decode manifest.sha256 32
        let signature := platform.base64Decode manifest.signature 64
        if manifest.version = [] ∨ manifest.version = config.firmwareVersion then some ⟨[], false⟩
        else if manifest.url = [] ∨ manifest.size = 0 then some ⟨[], false⟩
        else if expectedSha.length ≠ 32 then some ⟨[], false⟩
        else if signature.length ≠ 64 then some ⟨[], false⟩
        else if !platform.verifySignature config.otaPublicKey signature
            (signedText manifest.version manifest.size.toNat manifest.sha256) then
          some ⟨[.rejected .badManifestSignature], false⟩
        else applyUpdate expectedSha manifest.size manifest.version (check.serves manifest.url)

/-! ## The loop -/

/-- The hash, the flash and the count agree. -/
structure Transfer.InStep (t : Transfer) : Prop where
  hashed : t.hashed = t.slot
  received : t.received.toNat = t.slot.length
  fits : t.slot.length ≤ slotBytes

theorem foldl_or_eq_zero (xs : Bytes) (x : UInt8) :
    xs.foldl (· ||| ·) x = 0 ↔ x = 0 ∧ ∀ y ∈ xs, y = 0 := by
  induction xs generalizing x with
  | nil => simp
  | cons y ys ih =>
      rw [List.foldl_cons, ih, UInt8.or_eq_zero_iff, List.forall_mem_cons, and_assoc]

/-- Of one length, two buffers compare as equal if they are. -/
theorem equalsConstantTime_iff {a b : Bytes} (length : a.length = b.length) :
    equalsConstantTime a b = true ↔ a = b := by
  unfold equalsConstantTime
  rw [decide_eq_true_iff, foldl_or_eq_zero, and_iff_right rfl]
  induction a generalizing b with
  | nil => cases b with
    | nil => exact iff_of_true nofun rfl
    | cons => cases length
  | cons x xs ih =>
      cases b with
      | nil => cases length
      | cons y ys =>
          rw [List.zipWith_cons_cons, List.forall_mem_cons, UInt8.xor_eq_zero_iff,
            ih (Nat.succ.inj length), List.cons.injEq]

section Loop

variable {imageSize : UInt32} {t : Transfer} {p : Poll}

theorem length_read_le (p : Poll) : p.read.length ≤ chunkBytes := by
  unfold Poll.read
  rw [List.length_take]
  omega

theorem slot_append (hashed : Bytes) (stored : List Bytes) (last : Bytes) (received : UInt32) :
    (Transfer.mk hashed (stored ++ [last]) received).slot = stored.flatten ++ last := by
  unfold Transfer.slot
  rw [List.flatten_append, List.flatten_singleton]

/-- A write that stored as much as it was given stored what it was given, and had room for it. -/
theorem stored_eq_read {slot : Bytes} (whole : (p.stored slot).length = p.read.length) :
    p.stored slot = p.read ∧ p.read.length ≤ slotBytes - slot.length := by
  unfold Poll.stored at whole ⊢
  rw [List.length_take] at whole
  exact ⟨List.take_of_length_le (by omega), by omega⟩

/-- One turn: what goes on is in step, and what is over is in step or has not got all. -/
theorem Transfer.InStep.poll (inStep : t.InStep) (imageSize : UInt32) (p : Poll) :
    match t.poll imageSize p with
    | .again t' => t'.InStep
    | .ended t' => t'.InStep ∨ t'.received < imageSize := by
  unfold Transfer.poll
  split_ifs with stops idle closed short
  · exact .inl inStep
  · exact inStep
  · exact .inl inStep
  · right
    simp only [Bool.not_eq_true, Bool.not_eq_false', Bool.and_eq_true, decide_eq_true_eq] at stops
    exact stops.2
  · obtain ⟨same, room⟩ := stored_eq_read (not_not.mp short)
    have bound := length_read_le p
    have fits := inStep.fits
    have received := inStep.received
    have slot : (Transfer.mk (t.hashed ++ p.read) (t.stored ++ [p.stored t.slot])
        (t.received + UInt32.ofNat p.read.length)).slot = t.slot ++ p.read := by
      rw [slot_append, same]
      rfl
    refine ⟨?_, ?_, ?_⟩
    · rw [slot, inStep.hashed]
    · rw [slot, List.length_append, UInt32.toNat_add, UInt32.toNat_ofNat', received]
      unfold slotBytes at room fits
      unfold chunkBytes at bound
      omega
    · rw [slot, List.length_append]
      omega

/-- Any number of them. -/
theorem Transfer.InStep.pump {polls : List Poll} {t' : Transfer} (inStep : t.InStep)
    (ran : Firmware.pump imageSize t polls = some t') : t'.InStep ∨ t'.received < imageSize := by
  induction polls generalizing t with
  | nil => cases ran
  | cons p rest ih =>
      rw [Firmware.pump] at ran
      have one := inStep.poll imageSize p
      cases polled : t.poll imageSize p with
      | again next =>
          rw [polled] at ran one
          exact ih one ran
      | ended next =>
          rw [polled] at ran one
          obtain rfl := Option.some.inj ran
          exact one

/-- A loop that has got all of the image has it in the slot, and has hashed it. -/
theorem whole_of_received {polls : List Poll} {t' : Transfer}
    (ran : pump imageSize .start polls = some t') (all : t'.received = imageSize) :
    t'.hashed = t'.slot ∧ t'.slot.length = imageSize.toNat ∧ t'.slot.length ≤ slotBytes := by
  have start : Transfer.start.InStep := ⟨rfl, rfl, Nat.zero_le _⟩
  rcases start.pump ran with inStep | short
  · exact ⟨inStep.hashed, all ▸ inStep.received.symm, inStep.fits⟩
  · rw [all] at short
    exact absurd short (UInt32.lt_irrefl _)

end Loop

/-! ## What an update comes to -/

/-- All of the image came, and it is what was expected. -/
def Transfer.Complete (imageSize : UInt32) (expectedSha : Bytes) (t : Transfer) : Prop :=
  t.received = imageSize ∧ Kit.Sha256.sha256 t.hashed = expectedSha

/-- What follows `Update.end`. -/
def finishing (version : Bytes) (ends : Bool) : List OtaAction :=
  if ends then [.finish, .applied version, .restart] else [.finish, .rejected .flashFailed]

section Update

variable {expectedSha version : Bytes} {imageSize : UInt32} {download : Download} {run : OtaRun}

theorem finishUpdate_cases (version : Bytes) (length : expectedSha.length = 32) (ends : Bool)
    (t : Transfer) :
    (¬ t.Complete imageSize expectedSha ∧
        (finishUpdate expectedSha imageSize version ends t).actions =
          .begin imageSize :: t.stored.map .write ++ [.abort, .rejected .hashMismatch]) ∨
      t.Complete imageSize expectedSha ∧
        (finishUpdate expectedSha imageSize version ends t).actions =
          .begin imageSize :: t.stored.map .write ++ finishing version ends := by
  have complete : (t.received ≠ imageSize ||
      !equalsConstantTime (Kit.Sha256.sha256 t.hashed) expectedSha) = true ↔
        ¬ t.Complete imageSize expectedSha := by
    rw [Bool.or_eq_true, decide_eq_true_iff, Bool.not_eq_true', ← Bool.not_eq_true,
      equalsConstantTime_iff ((Kit.Sha256.sha256_length _).trans length.symm)]
    exact not_and_or.symm
  unfold finishUpdate
  by_cases isComplete : t.Complete imageSize expectedSha
  · right
    rw [if_neg (mt complete.mp (not_not.mpr isComplete))]
    refine ⟨isComplete, ?_⟩
    cases ends <;> rfl
  · left
    rw [if_pos (complete.mpr isComplete)]
    exact ⟨isComplete, rfl⟩

/-- An update is not begun, or aborted after the loop, or finished with the image in its slot. -/
theorem applyUpdate_cases (length : expectedSha.length = 32)
    (ran : applyUpdate expectedSha imageSize version download = some run) :
    run.actions = [] ∨ ∃ t, pump imageSize .start download.polls = some t ∧
      ((¬ t.Complete imageSize expectedSha ∧ run.actions =
          .begin imageSize :: t.stored.map .write ++ [.abort, .rejected .hashMismatch]) ∨
        t.Complete imageSize expectedSha ∧ run.actions =
          .begin imageSize :: t.stored.map .write ++ finishing version download.ends) := by
  unfold applyUpdate at ran
  split_ifs at ran
  · exact .inl (Option.some.inj ran ▸ rfl)
  · exact .inl (Option.some.inj ran ▸ rfl)
  · exact .inl (Option.some.inj ran ▸ rfl)
  · obtain ⟨t, pumped, rfl⟩ := Option.map_eq_some_iff.mp ran
    exact .inr ⟨t, pumped, finishUpdate_cases version length download.ends t⟩

/-- A loop that takes in what is expected is followed by `Update.end`. -/
theorem applyUpdate_complete {t : Transfer} (version : Bytes) (length : expectedSha.length = 32)
    (connects : download.connects = true) (code : download.code = httpOk)
    (begins : download.begins = true) (pumped : pump imageSize .start download.polls = some t)
    (complete : t.Complete imageSize expectedSha) :
    ∃ run, applyUpdate expectedSha imageSize version download = some run ∧
      run.actions = .begin imageSize :: t.stored.map .write ++ finishing version download.ends := by
  unfold applyUpdate
  rw [if_neg (by rw [connects]; decide), if_neg (not_not.mpr code), if_neg (by rw [begins]; decide),
    pumped]
  refine ⟨_, rfl, ?_⟩
  rcases finishUpdate_cases version length download.ends t with ⟨broken, -⟩ | ⟨-, same⟩
  · exact absurd complete broken
  · exact same

/-- What the slot holds in the end is what the loop has stored. -/
theorem slotOf_written (imageSize : UInt32) (t : Transfer) {after : List OtaAction}
    (quiet : ∀ a ∈ after, a.stored = []) :
    slotOf (.begin imageSize :: t.stored.map .write ++ after) = t.slot := by
  unfold slotOf Transfer.slot
  rw [List.flatMap_append, List.flatMap_cons, List.flatMap_map, List.flatMap_eq_nil_iff.mpr quiet,
    List.append_nil]
  exact t.stored.flatMap_id

end Update

/-! ## The check -/

/-- A manifest whose image is downloaded. -/
structure Manifest.Accepted (platform : Platform) (config : OtaConfig) (manifest : Manifest) :
    Prop where
  version : manifest.version ≠ []
  newer : manifest.version ≠ config.firmwareVersion
  url : manifest.url ≠ []
  size : manifest.size ≠ 0
  digest : (platform.base64Decode manifest.sha256 32).length = 32
  encoded : (platform.base64Decode manifest.signature 64).length = 64
  signed : platform.verifySignature config.otaPublicKey
    (platform.base64Decode manifest.signature 64)
    (signedText manifest.version manifest.size.toNat manifest.sha256) = true

section Check

variable {platform : Platform} {config : OtaConfig} {check : Check} {document : Json Bytes}

theorem checkNow_accepted (connects : check.connects = true) (code : check.code = httpOk)
    (parsed : platform.deserializeJson check.body = some document)
    (accepted : (readManifest document).Accepted platform config) :
    checkNow platform config check =
      applyUpdate (platform.base64Decode (readManifest document).sha256 32)
        (readManifest document).size (readManifest document).version
        (check.serves (readManifest document).url) := by
  unfold checkNow
  rw [if_neg (by rw [connects]; decide), if_neg (not_not.mpr code), parsed]
  dsimp only
  rw [if_neg (not_or.mpr ⟨accepted.version, accepted.newer⟩),
    if_neg (not_or.mpr ⟨accepted.url, accepted.size⟩), if_neg (not_not.mpr accepted.digest),
    if_neg (not_not.mpr accepted.encoded), accepted.signed]
  rfl

/-- A check that does not come to a download leaves the flash alone. -/
theorem checkNow_cases {run : OtaRun} (ran : checkNow platform config check = some run) :
    (∀ a ∈ run.actions, ∃ refusal, a = .rejected refusal) ∨
      ∃ document, platform.deserializeJson check.body = some document ∧
        (readManifest document).Accepted platform config ∧
          applyUpdate (platform.base64Decode (readManifest document).sha256 32)
            (readManifest document).size (readManifest document).version
            (check.serves (readManifest document).url) = some run := by
  have nothing : some (⟨[], false⟩ : OtaRun) = some run →
      ∀ a ∈ run.actions, ∃ refusal, a = .rejected refusal := by
    rintro ⟨⟩
    exact nofun
  unfold checkNow at ran
  split_ifs at ran with offline missing
  · exact .inl (nothing ran)
  · exact .inl (nothing ran)
  cases parsed : platform.deserializeJson check.body with
  | none =>
      rw [parsed] at ran
      exact .inl (nothing ran)
  | some document =>
      rw [parsed] at ran
      dsimp only at ran
      split at ran
      · exact .inl (nothing ran)
      rename_i named
      split at ran
      · exact .inl (nothing ran)
      rename_i given
      split at ran
      · exact .inl (nothing ran)
      rename_i digest
      split at ran
      · exact .inl (nothing ran)
      rename_i encoded
      split at ran
      · left
        obtain rfl := Option.some.inj ran
        intro a mem
        exact ⟨_, List.mem_singleton.mp mem⟩
      rename_i signed
      right
      rw [Bool.not_eq_true, Bool.not_eq_false'] at signed
      obtain ⟨version, newer⟩ := not_or.mp named
      obtain ⟨url, size⟩ := not_or.mp given
      exact ⟨document, rfl, ⟨version, newer, url, size, not_not.mp digest, not_not.mp encoded,
        signed⟩, ran⟩

/-- `Update.end(true)` is reached. -/
def OtaRun.Finishes (run : OtaRun) : Prop := .finish ∈ run.actions

/-- The update is not begun, or aborted. -/
def OtaRun.GivenUp (run : OtaRun) : Prop :=
  (∀ size, .begin size ∉ run.actions) ∨ .abort ∈ run.actions

theorem finish_mem_finishing (version : Bytes) (ends : Bool) :
    .finish ∈ finishing version ends ∧ .abort ∉ finishing version ends ∧
      ∀ a ∈ finishing version ends, a.stored = [] := by
  unfold finishing
  cases ends <;> simp [OtaAction.stored]

/-- **A run that ends the update** has the image of the manifest in its slot, and no abort. -/
theorem checkNow_finishes {run : OtaRun} (ran : checkNow platform config check = some run)
    (finishes : run.Finishes) :
    ∃ document, platform.deserializeJson check.body = some document ∧
      (readManifest document).Accepted platform config ∧ .abort ∉ run.actions ∧
      (slotOf run.actions).length = (readManifest document).size.toNat ∧
      (slotOf run.actions).length ≤ slotBytes ∧
      Kit.Sha256.sha256 (slotOf run.actions) =
        platform.base64Decode (readManifest document).sha256 32 := by
  rcases checkNow_cases ran with refused | ⟨document, parsed, accepted, ran⟩
  · obtain ⟨refusal, isRefusal⟩ := refused _ finishes
    cases isRefusal
  refine ⟨document, parsed, accepted, ?_⟩
  unfold OtaRun.Finishes at finishes
  rcases applyUpdate_cases accepted.digest ran with
    none | ⟨t, pumped, ⟨-, aborts⟩ | ⟨complete, ends⟩⟩
  · rw [none] at finishes
    cases finishes
  · rw [aborts] at finishes
    simp at finishes
  · obtain ⟨-, notAborted, quiet⟩ :=
      finish_mem_finishing (readManifest document).version
        (check.serves (readManifest document).url).ends
    obtain ⟨received, digest⟩ := complete
    obtain ⟨hashed, length, fits⟩ := whole_of_received pumped received
    rw [ends, slotOf_written _ t quiet, ← hashed]
    refine ⟨?_, hashed ▸ length, hashed ▸ fits, digest⟩
    simp [notAborted]

/-- Every other run that is over leaves the boot partition alone. -/
theorem checkNow_givenUp {run : OtaRun} (ran : checkNow platform config check = some run)
    (notFinished : ¬ run.Finishes) : run.GivenUp := by
  rcases checkNow_cases ran with refused | ⟨document, -, accepted, ran⟩
  · left
    intro size mem
    obtain ⟨refusal, isRefusal⟩ := refused _ mem
    cases isRefusal
  rcases applyUpdate_cases accepted.digest ran with none | ⟨t, -, ⟨-, aborts⟩ | ⟨-, ends⟩⟩
  · left
    rw [none]
    exact fun size => List.not_mem_nil
  · right
    rw [aborts]
    exact List.mem_append_right _ List.mem_cons_self
  · refine absurd ?_ notFinished
    unfold OtaRun.Finishes
    rw [ends]
    exact List.mem_append_right _ (finish_mem_finishing _ _).1

end Check

/-! ## A download that goes well -/

/-- The turns bring exactly these bytes, in pieces of any size. -/
inductive Delivers : Bytes → List Poll → Prop
  | nothing {p : Poll} {rest : List Poll} : Delivers [] (p :: rest)
  | wait {image : Bytes} {p : Poll} {rest : List Poll} (missing : image ≠ [])
      (connected : p.connected = true) (idle : p.available = 0) (later : Delivers image rest) :
      Delivers image (p :: rest)
  | piece {image : Bytes} {p : Poll} {rest : List Poll} (connected : p.connected = true)
      (comes : p.read ≠ []) (flashed : p.read.length ≤ p.flashes) (later : Delivers image rest) :
      Delivers (p.read ++ image) (p :: rest)

/-- While bytes are missing, the loop goes on. -/
theorem stays {imageSize : UInt32} {t : Transfer} {p : Poll} (inStep : t.InStep)
    (missing : t.slot.length < imageSize.toNat) (connected : p.connected = true) :
    (!(p.connected && t.received < imageSize)) = false := by
  have short : t.received < imageSize := by
    rw [UInt32.lt_iff_toNat_lt, inStep.received]
    exact missing
  rw [connected, Bool.true_and, Bool.not_eq_false', decide_eq_true short]

/-- A piece that the flash takes is behind what was there. -/
theorem poll_piece {imageSize : UInt32} {t : Transfer} {p : Poll} (inStep : t.InStep)
    (connected : p.connected = true) (comes : p.read ≠ []) (flashed : p.read.length ≤ p.flashes)
    (size : t.slot.length + p.read.length ≤ imageSize.toNat) (fits : imageSize.toNat ≤ slotBytes) :
    ∃ next, t.poll imageSize p = .again next ∧ next.InStep ∧ next.slot = t.slot ++ p.read := by
  have stored : p.stored t.slot = p.read := by
    unfold Poll.stored
    exact List.take_of_length_le (by omega)
  have busy : p.available ≠ 0 := by
    intro idle
    refine comes ?_
    unfold Poll.read
    rw [idle, Nat.zero_min, List.take_zero]
  have again : t.poll imageSize p = .again ⟨t.hashed ++ p.read, t.stored ++ [p.read],
      t.received + UInt32.ofNat p.read.length⟩ := by
    have more := List.length_pos_of_ne_nil comes
    unfold Transfer.poll
    rw [stays inStep (by omega) connected, if_neg (by decide), if_neg busy, if_neg comes, stored]
    exact if_neg (not_not.mpr rfl)
  have next := inStep.poll imageSize p
  rw [again] at next
  exact ⟨_, again, next, slot_append _ _ _ _⟩

/-- **A download of an image that fits is taken in whole**, however it is cut up. -/
theorem Delivers.pump {image : Bytes} {polls : List Poll} (delivers : Delivers image polls)
    {imageSize : UInt32} {t : Transfer} (inStep : t.InStep)
    (size : t.slot.length + image.length = imageSize.toNat) (fits : imageSize.toNat ≤ slotBytes) :
    ∃ t', Firmware.pump imageSize t polls = some t' ∧ t'.received = imageSize ∧
      t'.slot = t.slot ++ image := by
  induction delivers generalizing t with
  | @nothing p rest =>
      have all : t.received = imageSize := by
        refine UInt32.toNat_inj.mp ?_
        rw [inStep.received, ← size]
        rfl
      refine ⟨t, ?_, all, (List.append_nil _).symm⟩
      have done : t.poll imageSize p = .ended t := by
        unfold Transfer.poll
        rw [all]
        simp
      rw [Firmware.pump, done]
  | @wait image p rest missing connected idle later ih =>
      have again : t.poll imageSize p = .again t := by
        have more := List.length_pos_of_ne_nil missing
        unfold Transfer.poll
        rw [stays inStep (by omega) connected, if_neg (by decide), if_pos idle]
      rw [Firmware.pump, again]
      exact ih inStep size
  | @piece image p rest connected comes flashed later ih =>
      rw [List.length_append] at size
      obtain ⟨next, again, nextInStep, slot⟩ := poll_piece inStep connected comes flashed
        (by omega) fits
      rw [Firmware.pump, again]
      obtain ⟨t', pumped, received, same⟩ := ih nextInStep (by
        rw [slot, List.length_append]
        omega)
      refine ⟨t', pumped, received, ?_⟩
      rw [same, slot, List.append_assoc]

end DoorsControl.Firmware
