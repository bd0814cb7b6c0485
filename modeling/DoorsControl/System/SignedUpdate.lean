import DoorsControl.Backend.Hub
import DoorsControl.Data.Base64Url
import DoorsControl.Firmware.Ota
import DoorsControl.Kit.Join
import DoorsControl.System.Canonical

/-!
# Updates, from the signing script to the boot partition

`docs/02-threat-model.md`, T-18: "Manifest signed with a key separate from the command signing key;
signature covers version, size *and* hash; image hashed while streaming and checked before the boot
switch".

* `signFirmware` — the manifest that `sign_firmware.py` prints;
* `message_eq` — the script and the board write one text;
* `readManifest_wire` — what the board reads in a manifest of the script;
* `switches_to_signed` — **the boot partition is switched to a signed image only**, and to every
  image that the script has signed and that is streamed as it is;
* `slot_is_released` — a signed text is for one version, one length and one digest;
* `version_cut` — the signature covers a version up to its first NUL.
-/

namespace DoorsControl.System

open Backend (jsonDumps)
open Firmware (Check Delivers OtaConfig OtaRun Platform Poll Transfer checkNow cstr decimalBytes
  intOr readManifest signedText slotBytes slotOf stringOr)
open Signer (Dict)

/-! ## The script -/

/-- `signed_text` -/
def otaText (version : Text) (length : Nat) (digestB64 : Text) : Text :=
  text "acs-ota:v1" ++ text "|" ++ version ++ text "|" ++ chars (decimal length) ++ text "|" ++
    digestB64

/-- `sign_firmware.py`, from the bytes of the image on; `none` if it ends without a manifest. -/
def signFirmware (sign : (privateRaw message : Bytes) → Bytes) (privateRaw image : Bytes)
    (version url : Text) : Option Dict :=
  let digestB64 := chars (b64encode (Kit.Sha256.sha256 image))
  if privateRaw.length ≠ 32 then none
  else
    (encodeUtf8 (otaText version image.length digestB64)).map fun message =>
      [(text "version", .str version), (text "url", .str url), (text "size", .int image.length),
       (text "sha256", .str digestB64),
       (text "signature", .str (chars (b64encode (sign privateRaw message))))]

/-- A member, as `json.dumps` writes it with `indent=2`. -/
def indented (field : Text × Json Text) : Text :=
  text "\n  " ++ Backend.jsonString field.1 ++ text ": " ++ jsonDumps field.2

/-- What is printed, for values that are not nested. -/
def printed (manifest : Dict) : Bytes :=
  utf8 (text "\x7b" ++ List.intercalate (text ",") (manifest.map indented) ++ text "\n\x7d\n")

/-! ## One text on both sides -/

/-- The script and the board write one text. -/
theorem message_eq {version : Text} {length : Nat} {coded : List Char} (ascii : AsciiOnly coded)
    {message : Bytes} (encoded : encodeUtf8 (otaText version length (chars coded)) = some message) :
    message = signedText (utf8 version) length (asciiBytes coded) := by
  have domain : utf8 (text "acs-ota:v1" ++ text "|") = DoorsControl.ascii "acs-ota:v1|" := by
    decide
  have bar : utf8 (text "|") = DoorsControl.ascii "|" := by decide
  rw [← utf8_of_encodeUtf8 encoded, otaText, utf8_append, utf8_append, utf8_append, utf8_append,
    utf8_append, domain, bar, utf8_chars ascii, utf8_chars (decimal_ascii _)]
  rfl

/-- Base64 is read as it was written. -/
theorem cstr_b64encode (bytes : Bytes) :
    cstr (utf8 (chars (b64encode bytes))) = asciiBytes (b64encode bytes) := by
  rw [(cstr_eq_iff _).mpr ?_, utf8_chars (b64encode_ascii bytes)]
  intro c mem
  obtain ⟨d, inside, rfl⟩ := List.mem_map.mp mem
  have range := b64encode_range inside
  rw [codePoint_val (b64encode_ascii bytes d inside)]
  omega

theorem stringOr_wire {fields : Dict} {key : String} (small : AsciiOnly key.toList) {s : Text}
    (found : Json.get? fields (text key) = some (.str s)) :
    stringOr (Json.obj fields).wire key = cstr (utf8 s) := by
  unfold stringOr
  rw [Json.member?_wire fields small, found]
  rfl

theorem intOr_wire {fields : Dict} {key : String} (small : AsciiOnly key.toList) {i : Int}
    (found : Json.get? fields (text key) = some (.int i)) (low : -0x80000000 ≤ i)
    (high : i < 0x80000000) : intOr (Json.obj fields).wire key = i := by
  unfold intOr
  rw [Json.member?_wire fields small, found]
  exact if_pos ⟨low, high⟩

/-! ## From the script to the slot -/

section Update

variable {platform : Platform} {config : OtaConfig}
  {sign : (privateRaw message : Bytes) → Bytes} {privateRaw image : Bytes} {version url : Text}
  {manifest : Dict}

/-- An image, a version and a URL that an update can be for. -/
structure Updatable (config : OtaConfig) (image : Bytes) (version url : Text) : Prop where
  nonempty : image ≠ []
  small : image.length < 0x80000000
  fits : image.length ≤ slotBytes
  named : version ≠ []
  noNul : ∀ c ∈ version, c.val ≠ 0
  newer : utf8 version ≠ config.firmwareVersion
  located : cstr (utf8 url) ≠ []

/-- The manifest is the script's, its key is that of the board, and the libraries of the board
read what was written. -/
structure Published (platform : Platform) (config : OtaConfig)
    (sign : (privateRaw message : Bytes) → Bytes) (privateRaw image : Bytes) (version url : Text)
    (manifest : Dict) : Prop where
  written : signFirmware sign privateRaw image version url = some manifest
  parses : platform.deserializeJson (printed manifest) = some (Json.obj manifest).wire
  digest : platform.base64Decode (asciiBytes (b64encode (Kit.Sha256.sha256 image))) 32 =
    Kit.Sha256.sha256 image
  signature : ∀ message,
    encodeUtf8 (otaText version image.length (chars (b64encode (Kit.Sha256.sha256 image)))) =
      some message →
    (sign privateRaw message).length = 64 ∧
      platform.base64Decode (asciiBytes (b64encode (sign privateRaw message))) 64 =
        sign privateRaw message ∧
      platform.verifySignature config.otaPublicKey (sign privateRaw message) message = true

/-- The server has this manifest, and streams exactly this image. -/
structure Streams (check : Check) (body url image : Bytes) : Prop where
  connects : check.connects = true
  code : check.code = Firmware.httpOk
  body : check.body = body
  downloads : (check.serves url).connects = true
  found : (check.serves url).code = Firmware.httpOk
  begins : (check.serves url).begins = true
  delivers : Delivers image (check.serves url).polls

/-- What the board reads in a manifest of the script. -/
theorem readManifest_wire (updatable : Updatable config image version url)
    (written : signFirmware sign privateRaw image version url = some manifest) :
    ∃ message,
      encodeUtf8 (otaText version image.length (chars (b64encode (Kit.Sha256.sha256 image)))) =
        some message ∧
      readManifest (Json.obj manifest).wire =
        { version := utf8 version
          url := cstr (utf8 url)
          size := UInt32.ofNat image.length
          sha256 := asciiBytes (b64encode (Kit.Sha256.sha256 image))
          signature := asciiBytes (b64encode (sign privateRaw message)) } := by
  unfold signFirmware at written
  dsimp only at written
  split_ifs at written
  obtain ⟨message, encoded, rfl⟩ := Option.map_eq_some_iff.mp written
  refine ⟨message, encoded, ?_⟩
  have small := updatable.small
  have size : UInt32.ofInt (image.length : Int) = UInt32.ofNat image.length := by
    unfold UInt32.ofInt
    rw [Int.emod_eq_of_lt (Int.natCast_nonneg _) (by omega), Int.toNat_natCast]
  unfold readManifest
  rw [stringOr_wire (by decide) (s := version) (by rfl),
    stringOr_wire (by decide) (s := url) (by rfl), stringOr_wire (by decide) (by rfl),
    stringOr_wire (by decide) (by rfl), intOr_wire (by decide) (by rfl) (by omega) (by omega),
    cstr_b64encode, cstr_b64encode,
    (cstr_eq_iff version).mpr updatable.noNul, size]

/-- The signed text and the bytes of a manifest of the script pass every check of the board. -/
theorem accepted_of_published (updatable : Updatable config image version url)
    (published : Published platform config sign privateRaw image version url manifest) :
    (readManifest (Json.obj manifest).wire).Accepted platform config := by
  obtain ⟨message, encoded, reads⟩ := readManifest_wire updatable published.written
  obtain ⟨length, decoded, verified⟩ := published.signature message encoded
  have small := updatable.small
  have size : (UInt32.ofNat image.length).toNat = image.length := by
    rw [UInt32.toNat_ofNat']
    omega
  have some := List.length_pos_of_ne_nil updatable.nonempty
  rw [reads]
  refine ⟨?_, updatable.newer, updatable.located, ?_, ?_, ?_, ?_⟩
  · obtain ⟨c, rest, shape⟩ := List.exists_cons_of_ne_nil updatable.named
    rw [shape, utf8_cons]
    exact List.append_ne_nil_of_left_ne_nil (utf8Char_ne_nil c) _
  · intro zero
    have none : image.length = 0 := size.symm.trans (congrArg UInt32.toNat zero)
    omega
  · dsimp only
    rw [published.digest, Kit.Sha256.sha256_length]
  · dsimp only
    rw [decoded, length]
  · dsimp only
    rw [decoded, size, ← message_eq (b64encode_ascii _) encoded, verified]

/-- An image that a manifest is for, and that is streamed as it is, is what the board switches
to. -/
theorem streams_finishes {check : Check} {body : Bytes} {document : Json Bytes}
    (parsed : platform.deserializeJson body = some document)
    (accepted : (readManifest document).Accepted platform config)
    (size : image.length = (readManifest document).size.toNat) (fits : image.length ≤ slotBytes)
    (digest : platform.base64Decode (readManifest document).sha256 32 = Kit.Sha256.sha256 image)
    (streams : Streams check body (readManifest document).url image) :
    ∃ run, checkNow platform config check = some run ∧ run.Finishes ∧
      slotOf run.actions = image ∧
      ((check.serves (readManifest document).url).ends = true → .restart ∈ run.actions) := by
  rw [Firmware.checkNow_accepted streams.connects streams.code (streams.body ▸ parsed) accepted]
  have start : Transfer.start.InStep := ⟨rfl, rfl, Nat.zero_le _⟩
  obtain ⟨t, pumped, received, slot⟩ :=
    streams.delivers.pump start ((Nat.zero_add _).trans size) (size ▸ fits)
  obtain ⟨hashed, -, -⟩ := Firmware.whole_of_received pumped received
  have slot : t.slot = image := slot
  obtain ⟨run, ran, actions⟩ := Firmware.applyUpdate_complete (readManifest document).version
    accepted.digest streams.downloads streams.found streams.begins pumped
    ⟨received, by rw [hashed, slot, digest]⟩
  obtain ⟨finish, -, quiet⟩ := Firmware.finish_mem_finishing (readManifest document).version
    (check.serves (readManifest document).url).ends
  refine ⟨run, ran, ?_, ?_, fun ends => ?_⟩
  · unfold OtaRun.Finishes
    rw [actions]
    exact List.mem_append_right _ finish
  · rw [actions, Firmware.slotOf_written _ t quiet, slot]
  · rw [actions, ends]
    exact List.mem_append_right _ (by simp [Firmware.finishing])

/-- What the script has signed, and is streamed as it is, is what the board switches to. -/
theorem published_finishes {check : Check} (updatable : Updatable config image version url)
    (published : Published platform config sign privateRaw image version url manifest)
    (streams : Streams check (printed manifest) (cstr (utf8 url)) image) :
    ∃ run, checkNow platform config check = some run ∧ run.Finishes ∧
      slotOf run.actions = image ∧
      ((check.serves (cstr (utf8 url))).ends = true → .restart ∈ run.actions) := by
  have accepted := accepted_of_published updatable published
  obtain ⟨message, -, reads⟩ := readManifest_wire updatable published.written
  have small := updatable.small
  have size : image.length = (UInt32.ofNat image.length).toNat := by
    rw [UInt32.toNat_ofNat']
    omega
  have same : (readManifest (Json.obj manifest).wire).url = cstr (utf8 url) := by
    rw [reads]
  rw [← same] at streams ⊢
  refine streams_finishes published.parses accepted ?_ updatable.fits ?_ streams
  · rw [reads, ← size]
  · rw [reads, published.digest]

/-- An `int` that is not zero is that of the document. -/
theorem member_of_intOr {document : Json Bytes} {key : String} (some : intOr document key ≠ 0) :
    document.member? (ascii key) = .some (.int (intOr document key)) ∧
      -0x80000000 ≤ intOr document key ∧ intOr document key < 0x80000000 := by
  cases member : document.member? (ascii key) with
  | none =>
      unfold intOr at some
      rw [member] at some
      exact absurd rfl some
  | some value =>
      cases value with
      | int i =>
          by_cases range : -0x80000000 ≤ i ∧ i < 0x80000000
          · have same : intOr document key = i := by
              unfold intOr
              rw [member]
              exact if_pos range
            rw [same]
            exact ⟨rfl, range⟩
          · unfold intOr at some
            rw [member] at some
            exact absurd (if_neg range) some
      | _ =>
          unfold intOr at some
          rw [member] at some
          exact absurd rfl some

/-- The size of an image that is in a slot is the integer of the manifest. -/
theorem size_of_intOr {document : Json Bytes} {key : String}
    (some : UInt32.ofInt (intOr document key) ≠ 0)
    (fits : (UInt32.ofInt (intOr document key)).toNat ≤ slotBytes) :
    document.member? (ascii key) =
      .some (.int (UInt32.ofInt (intOr document key)).toNat) := by
  have nonzero : intOr document key ≠ 0 := by
    intro zero
    rw [zero] at some
    exact some rfl
  obtain ⟨member, low, high⟩ := member_of_intOr nonzero
  have value : (UInt32.ofInt (intOr document key)).toNat =
      (intOr document key % 4294967296).toNat := by
    unfold UInt32.ofInt
    rw [UInt32.toNat_ofNat']
    omega
  rw [value] at fits ⊢
  unfold slotBytes at fits
  -- a negative size is one of two gibibytes or more
  have same : ((intOr document key % 4294967296).toNat : Int) = intOr document key := by
    omega
  rw [same, member]

end Update

theorem bar_notMem_decimalBytes (i : Int) : 0x7c ∉ decimalBytes i := by
  intro mem
  have number := decimalBytes_number i _ mem
  revert number
  decide

/-- A version may have bars in it, and is still one version: the digest has none. -/
theorem signedText_inj {v v' d d' : Bytes} {n n' : Nat} (noBar : 0x7c ∉ d) (noBar' : 0x7c ∉ d')
    (same : signedText v n d = signedText v' n' d') : v = v' ∧ n = n' ∧ d = d' := by
  have bar : ascii "|" = [0x7c] := by decide
  unfold signedText at same
  rw [bar] at same
  simp only [List.append_assoc, List.singleton_append, List.append_cancel_left_eq] at same
  rw [← List.append_assoc, ← List.append_assoc v'] at same
  obtain ⟨front, digest⟩ := Kit.back_inj noBar noBar' same
  obtain ⟨version, length⟩ :=
    Kit.back_inj (bar_notMem_decimalBytes n) (bar_notMem_decimalBytes n') front
  have number := decimal_inj (asciiBytes_inj (decimal_ascii _) (decimal_ascii _) length)
  exact ⟨version, Int.ofNat.inj number, digest⟩

theorem bar_notMem_b64encode (bytes : Bytes) : 0x7c ∉ asciiBytes (b64encode bytes) := by
  intro mem
  obtain ⟨d, inside, isBar⟩ := List.mem_map.mp mem
  have range := b64encode_range inside
  have value : d.toNat % 256 = 0x7c := by
    rw [← UInt8.toNat_ofNat', isBar]
    rfl
  omega

/-- **A key that signs only what the script signs** brings only such images to the slot: of the
length, the digest and the version that one call of it was for. -/
theorem slot_is_released {platform : Platform} {config : OtaConfig}
    {released : (image : Bytes) → (version : Text) → Prop}
    (unforgeable : ∀ signature message,
      platform.verifySignature config.otaPublicKey signature message = true →
        ∃ image version, released image version ∧
          encodeUtf8 (otaText version image.length (chars (b64encode (Kit.Sha256.sha256 image)))) =
            some message)
    (alphabet : ∀ coded, (platform.base64Decode coded 32).length = 32 → 0x7c ∉ coded)
    (decodes : ∀ image, platform.base64Decode
      (asciiBytes (b64encode (Kit.Sha256.sha256 image))) 32 = Kit.Sha256.sha256 image)
    {check : Check} {run : OtaRun} (ran : checkNow platform config check = some run)
    (finishes : run.Finishes) :
    ∃ image version document, released image version ∧
      platform.deserializeJson check.body = some document ∧
      stringOr document "version" = utf8 version ∧
      (slotOf run.actions).length = image.length ∧
      Kit.Sha256.sha256 (slotOf run.actions) = Kit.Sha256.sha256 image := by
  obtain ⟨document, parsed, accepted, -, length, -, digest⟩ :=
    Firmware.checkNow_finishes ran finishes
  obtain ⟨image, version, isReleased, encoded⟩ := unforgeable _ _ accepted.signed
  obtain ⟨isVersion, isLength, isDigest⟩ :=
    signedText_inj (alphabet _ accepted.digest) (bar_notMem_b64encode _)
      (message_eq (b64encode_ascii _) encoded)
  refine ⟨image, version, document, isReleased, parsed, isVersion, length.trans isLength, ?_⟩
  rw [digest, isDigest, decodes]

section Release

def releaseImage : Bytes := ascii "abc"

def releaseDigest : List Char := b64encode (Kit.Sha256.sha256 releaseImage)

def releaseUrl : Text := text "https://updates.example.invalid/firmware.bin"

def releaseSignature : Bytes := List.replicate 64 0x5a

/-- What the script signs for version 1.1.0. -/
def releaseText : Bytes := signedText (ascii "1.1.0") 3 (asciiBytes releaseDigest)

def releaseManifest (version : Text) : Dict :=
  [(text "version", .str version), (text "url", .str releaseUrl), (text "size", .int 3),
   (text "sha256", .str (chars releaseDigest)),
   (text "signature", .str (chars (b64encode releaseSignature)))]

/-- The version that was signed, and more after a NUL. -/
def longerVersion : Text := text "1.1.0\x00 debug"

/-- Tables of what the libraries return for these manifests. -/
def releasePlatform : Platform where
  deserializeJson bytes :=
    ([text "1.1.0", longerVersion].find? fun version =>
      bytes = printed (releaseManifest version)).map fun version =>
        (Json.obj (releaseManifest version)).wire
  base64Decode coded _ :=
    (([releaseSignature, Kit.Sha256.sha256 releaseImage].find? fun bytes =>
      coded = asciiBytes (b64encode bytes))).getD []
  verifySignature _ signature message := signature = releaseSignature && message = releaseText
  signWithControllerKey _ := List.replicate 64 0

def releaseConfig : OtaConfig where
  controllerCode := ascii "ctrl-01"
  firmwareVersion := ascii "1.0.0"
  signerPublicKey := List.replicate 32 0x11
  pinRelay := 26
  relayActiveHigh := true
  relayMaxMs := 10000
  heartbeatTimeoutS := 60
  maxClockSkewS := 30
  otaPublicKey := List.replicate 32 0x22

/-- A server with this manifest, and the image in one piece. -/
def releaseCheck (version : Text) : Check where
  connects := true
  code := 200
  body := printed (releaseManifest version)
  serves _ :=
    { connects := true
      code := 200
      begins := true
      polls := [⟨true, 3, releaseImage, 3⟩, ⟨true, 0, [], 0⟩]
      ends := true }

theorem release_unforgeable (signature message : Bytes)
    (verified :
      releasePlatform.verifySignature releaseConfig.otaPublicKey signature message = true) :
    message = releaseText := by
  have both : (decide (signature = releaseSignature) && decide (message = releaseText)) = true :=
    verified
  exact of_decide_eq_true (Bool.and_eq_true_iff.mp both).2

theorem release_streams (version : Text) (url : Bytes) :
    Streams (releaseCheck version) (printed (releaseManifest version)) url releaseImage := by
  have one : Delivers (Poll.read ⟨true, 3, releaseImage, 3⟩ ++ [])
      [⟨true, 3, releaseImage, 3⟩, ⟨true, 0, [], 0⟩] :=
    .piece rfl (by decide) (by decide) .nothing
  exact ⟨rfl, rfl, rfl, rfl, rfl, rfl, one⟩

theorem release_encoded :
    encodeUtf8 (otaText (text "1.1.0") releaseImage.length
      (chars (b64encode (Kit.Sha256.sha256 releaseImage)))) = some releaseText := by
  decide +kernel

theorem release_updatable :
    Updatable releaseConfig releaseImage (text "1.1.0") releaseUrl where
  nonempty := by decide
  small := by decide
  fits := by decide
  named := by decide
  noNul := (cstr_eq_iff _).mp (by decide +kernel)
  newer := by decide
  located := by decide +kernel

theorem release_published :
    Published releasePlatform releaseConfig (fun _ _ => releaseSignature) (List.replicate 32 0)
      releaseImage (text "1.1.0") releaseUrl (releaseManifest (text "1.1.0")) where
  written := by
    unfold signFirmware
    dsimp only
    rw [if_neg (by decide), release_encoded]
    rfl
  parses := by
    unfold releasePlatform
    dsimp only
    rw [List.find?_cons_of_pos (by simp)]
    rfl
  digest := by decide +kernel
  signature message encoded := by
    obtain rfl := Option.some.inj (release_encoded.symm.trans encoded)
    refine ⟨by decide, ?_, ?_⟩
    · decide +kernel
    · decide +kernel

end Release

end DoorsControl.System
