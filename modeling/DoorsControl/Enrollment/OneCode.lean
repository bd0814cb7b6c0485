import DoorsControl.Enrollment.Accounts
import DoorsControl.Enrollment.Binding

/-!
# One code, one device

Any number of clients that ask for challenges and enrol, in any order of their operations.

* `serve_fits` — what one call has done when it comes to an operation;
* `Effect` — what one operation can do to challenges, codes and devices;
* `ProperDeeds` — **the invariant**: every deed was as it should be when it was done;
* `one_code_one_device` — **one device for a code**, by a call that took the latest challenge.
-/

namespace DoorsControl.Enrollment

open DoorsControl.Audit (Timestamp)
open DoorsControl.Auth (AuthOp AuthError AuthRequest)
open DoorsControl.Backend (strip)
open Kit.Prog

/-! ## One call -/

section Calls

variable {Cert Key Hash : Type} (lib : X509 Cert Key Hash) (py : Python)
  (settings : EnrollSettings Cert)

/-- What a device stands on: the code was claimed, and the challenge that was presented was
taken. -/
def Entitled (args : EnrollArgs) (hist : List EnrollEvent) : Prop :=
  ∃ codeHash value claimed, hashCode args.enrollmentCode = .ok codeHash ∧
    b64decodeStrict args.presentedChallenge = some value ∧
    ⟨.take codeHash, some value⟩ ∈ hist ∧ ⟨.claim codeHash, some claimed⟩ ∈ hist

/-- No device was created yet. -/
def Uncreated (hist : List EnrollEvent) : Prop :=
  ∀ device id, ⟨.createDevice device, .ok id⟩ ∉ hist

/-- Challenges and claims are those of the code, and one device is created at most. -/
def InOrder (args : EnrollArgs) (hist : List EnrollEvent) : EnrollOp → Prop
  | .take codeHash => hashCode args.enrollmentCode = .ok codeHash
  | .claim codeHash => hashCode args.enrollmentCode = .ok codeHash
  | .createDevice _ => Entitled args hist ∧ Uncreated hist
  | _ => True

variable {args : EnrollArgs} {hist : List EnrollEvent}

theorem Entitled.cons (e : EnrollEvent) (entitled : Entitled args hist) :
    Entitled args (e :: hist) := by
  obtain ⟨codeHash, value, claimed, isHash, isValue, took, did⟩ := entitled
  exact ⟨codeHash, value, claimed, isHash, isValue, List.mem_cons_of_mem _ took,
    List.mem_cons_of_mem _ did⟩

theorem Uncreated.cons {e : EnrollEvent} (uncreated : Uncreated hist)
    (other : ∀ device id, e ≠ ⟨.createDevice device, .ok id⟩) : Uncreated (e :: hist) := by
  intro device id mem
  rcases List.mem_cons.mp mem with same | earlier
  · exact other device id same.symm
  · exact uncreated device id earlier

theorem checkCode_inOrder :
    Always (InOrder args) (OnOk fun hist _ => Entitled args hist ∧ Uncreated hist) []
      (checkCode args).run := by
  refine always_seq (always_ofExcept (hashCode args.enrollmentCode)) ?_
  rintro _ codeHash ⟨rfl, isHash⟩
  refine (always_callBind _ _).mpr ⟨isHash, fun expected => ?_⟩
  cases isValue : b64decodeStrict args.presentedChallenge with
  | none => trivial
  | some presented =>
      refine always_ifThenBind ⟨trivial, fun _ => trivial⟩ fun same => ?_
      obtain rfl : expected = some presented := by simpa using same
      refine (always_callBind _ _).mpr ⟨isHash, ?_⟩
      rintro (_ | claimed)
      · exact ⟨trivial, fun _ => trivial⟩
      · refine ⟨⟨codeHash, presented, claimed, isHash, isValue, ?_, List.mem_cons_self⟩, ?_⟩
        · exact List.mem_cons_of_mem _ List.mem_cons_self
        · rintro device id mem
          rcases List.mem_cons.mp mem with same | earlier
          · cases same
          · cases List.mem_singleton.mp earlier

/-- What both verdicts cost: reading a clock, and a record. -/
theorem decideStatus_inOrder {claimed : Claimed} {assessment : Assessment}
    (entitled : Entitled args hist) (uncreated : Uncreated hist) :
    Always (InOrder args) (OnOk fun hist _ => Entitled args hist ∧ Uncreated hist) hist
      (decideStatus settings args claimed assessment).run := by
  refine always_ifThenBind ⟨trivial, fun _ => ⟨trivial, fun _ => trivial⟩⟩ fun _ => ?_
  exact ⟨entitled, uncreated⟩

theorem tryCreate_inOrder {claimed : Claimed} {assessment : Assessment}
    {status : Auth.AttestationStatus} (entitled : Entitled args hist)
    (uncreated : Uncreated hist) :
    Always (InOrder args) (OnOk fun _ _ => True) hist
      (tryCreate settings args claimed assessment status).run := by
  unfold tryCreate
  cases b64decodeStrict args.devicePublicKey with
  | none => trivial
  | some publicKey =>
      refine (always_callBind _ _).mpr ⟨trivial, fun _ => ?_⟩
      refine ⟨⟨entitled.cons _, uncreated.cons ?_⟩, fun _ => trivial⟩
      rintro device id ⟨⟩

theorem enroll_inOrder :
    Always (InOrder args) (OnOk fun _ _ => True) [] (enroll lib py settings args).run := by
  refine always_seq checkCode_inOrder ?_
  rintro hist ⟨presented, claimed⟩ ⟨entitled, uncreated⟩
  refine always_seq (always_ofExcept _) ?_
  rintro _ assessment ⟨rfl, -⟩
  refine always_seq (decideStatus_inOrder settings entitled uncreated) ?_
  rintro hist status ⟨entitled, uncreated⟩
  refine always_seq (tryCreate_inOrder settings entitled uncreated) ?_
  rintro hist (name | deviceId) -
  · exact ⟨trivial, fun _ => trivial⟩
  · refine (always_callBind _ _).mpr ⟨trivial, fun _ => ?_⟩
    refine always_seq (fromAuth_performs (fun _ _ => trivial) _) ?_
    intro hist pair _
    exact ⟨trivial, fun _ => trivial⟩

/-- What `enroll` sees of the history of its call. -/
def ownEvents (hist : List AccountEvent) : List EnrollEvent :=
  hist.filterMap fun
    | ⟨.inner o, r⟩ => some ⟨o, r⟩
    | _ => none

theorem ownEvents_inner (hist : List AccountEvent) (o : EnrollOp) (r : o.Res) :
    ownEvents (⟨.inner o, r⟩ :: hist) = ⟨o, r⟩ :: ownEvents hist := rfl

theorem mem_ownEvents {hist : List AccountEvent} {o : EnrollOp} {r : o.Res} :
    ⟨o, r⟩ ∈ ownEvents hist ↔ ⟨.inner o, r⟩ ∈ hist := by
  unfold ownEvents
  rw [List.mem_filterMap]
  constructor
  · rintro ⟨⟨op, answer⟩, mem, same⟩
    cases op <;> cases same
    exact mem
  · exact fun mem => ⟨_, mem, rfl⟩

/-- An operation of a call, and its request. -/
def Fits (req : AccountRequest) (hist : List AccountEvent) : AccountOp → Prop
  | .issue codeHash => ∃ code, req = .challenge code ∧ hashCode code = .ok codeHash
  | .inner (.auth _) => True
  | .inner o => ∃ args, req = .enroll args ∧ InOrder args (ownEvents hist) o
  | _ => True

theorem always_replied {α : Type} {ok : List AccountEvent → AccountOp → Prop}
    {hist : List AccountEvent} (f : α → AccountReply) {p : Kit.Prog AccountOp AccountOp.Res α}
    (h : Always ok (fun _ _ => True) hist p) : Always ok (fun _ _ => True) hist (f <$> p) :=
  (always_bind p _).mpr (h.mono fun _ _ _ => trivial)

theorem fromSession_fits {α : Type} {req : AccountRequest} {hist : List AccountEvent}
    (p : Kit.Prog AuthOp AuthOp.Res α) :
    Always (Fits req) (fun _ _ => True) hist (fromSession p) := by
  unfold fromSession
  induction p generalizing hist with
  | pure value => trivial
  | op o next ih => exact ⟨trivial, fun r => ih _⟩

theorem issueChallenge_fits (code : Text) :
    Always (Fits (.challenge code)) (fun _ _ => True) [] (issueChallenge code).run := by
  unfold issueChallenge
  cases isHash : hashCode code with
  | error e => trivial
  | ok codeHash => exact ⟨⟨code, rfl, isHash⟩, fun _ => trivial⟩

/-- What one call has done when it comes to an operation. -/
theorem serve_fits (req : AccountRequest) :
    Always (Fits req) (fun _ _ => True) [] (serve lib py settings req) := by
  cases req with
  | challenge code => exact always_replied _ (issueChallenge_fits code)
  | enroll args =>
      apply always_replied
      refine Always.embed ownEvents_inner ?_ (fun _ _ _ => trivial)
        (enroll_inOrder lib py settings)
      intro hist o inOrder
      cases o <;> first | exact ⟨args, rfl, inOrder⟩ | trivial
  | auth request => exact always_replied _ (fromSession_fits _)
  | resolve bearer => exact always_replied _ (fromSession_fits _)
  | createCode code => exact ⟨trivial, fun _ => trivial⟩
  | block device reason => exact ⟨trivial, fun _ => trivial⟩
  | setActive user active => exact ⟨trivial, fun _ => trivial⟩

end Calls

/-! ## Deeds -/

def Deed.caller : Deed → Nat
  | .issued i _ _ _ => i
  | .took i _ _ _ => i
  | .claimed i _ _ => i
  | .created i _ => i

/-- `value` was issued for this code at that time, and none was after it. -/
def LatestIssue (deeds : List Deed) (codeHash value : Bytes) (issuedAt : ℚ) : Prop :=
  ∃ later k earlier, deeds = later ++ .issued k codeHash value issuedAt :: earlier ∧
    ∀ k' value' time, .issued k' codeHash value' time ∉ later

/-- No call took it. -/
def Untaken (deeds : List Deed) (value : Bytes) : Prop :=
  ∀ j codeHash time, .took j codeHash value time ∉ deeds

/-- A deed that was as it should be, after the deeds `before`. -/
def Deed.Proper (before : List Deed) : Deed → Prop
  | .issued _ _ value _ => ∀ k codeHash time, .issued k codeHash value time ∉ before
  | .took _ codeHash value time =>
      (∃ issuedAt, LatestIssue before codeHash value issuedAt ∧ issuedAt ≤ time ∧
        time ≤ issuedAt + challengeTtlSeconds) ∧ Untaken before value
  | .claimed _ code time =>
      code.usedAt = none ∧ time < code.expiresAt ∧
        ∀ j code' time', .claimed j code' time' ∈ before → code'.codeHash ≠ code.codeHash
  | .created i _ => ∀ id, .created i id ∉ before

/-- Every deed was as it should be when it was done. -/
def ProperDeeds : List Deed → Prop
  | [] => True
  | deed :: before => deed.Proper before ∧ ProperDeeds before

section Deeds

variable {deeds : List Deed}

theorem ProperDeeds.proper {later before : List Deed} {deed : Deed}
    (proper : ProperDeeds (later ++ deed :: before)) : deed.Proper before := by
  induction later with
  | nil => exact proper.1
  | cons _ later ih => exact ih proper.2

theorem LatestIssue.mem {codeHash value : Bytes} {issuedAt : ℚ}
    (latest : LatestIssue deeds codeHash value issuedAt) :
    ∃ k, .issued k codeHash value issuedAt ∈ deeds := by
  obtain ⟨later, k, earlier, rfl, -⟩ := latest
  exact ⟨k, List.mem_append_right _ List.mem_cons_self⟩

theorem LatestIssue.cons {codeHash value : Bytes} {issuedAt : ℚ} {deed : Deed}
    (latest : LatestIssue deeds codeHash value issuedAt)
    (other : ∀ k value' time, deed ≠ .issued k codeHash value' time) :
    LatestIssue (deed :: deeds) codeHash value issuedAt := by
  obtain ⟨later, k, earlier, rfl, last⟩ := latest
  refine ⟨deed :: later, k, earlier, rfl, ?_⟩
  intro k' value' time mem
  rcases List.mem_cons.mp mem with same | after
  · exact other k' value' time same.symm
  · exact last k' value' time after

/-- What was taken had been issued. -/
theorem ProperDeeds.issued (proper : ProperDeeds deeds) {j : Nat} {codeHash value : Bytes}
    {time : ℚ} (took : .took j codeHash value time ∈ deeds) :
    ∃ k codeHash' time', .issued k codeHash' value time' ∈ deeds := by
  obtain ⟨later, before, rfl⟩ := List.append_of_mem took
  obtain ⟨⟨issuedAt, latest, -⟩, -⟩ := proper.proper
  obtain ⟨k, mem⟩ := latest.mem
  exact ⟨k, codeHash, issuedAt, List.mem_append_right _ (List.mem_cons_of_mem _ mem)⟩

/-- One of two deeds in the record is the later one, unless they are the same. -/
theorem eq_or_before {a b : Deed} (memA : a ∈ deeds) (memB : b ∈ deeds) :
    a = b ∨ (∃ later before, deeds = later ++ a :: before ∧ b ∈ before) ∨
      ∃ later before, deeds = later ++ b :: before ∧ a ∈ before := by
  induction deeds with
  | nil => cases memA
  | cons d rest ih =>
      rcases List.mem_cons.mp memA with rfl | insideA
      · rcases List.mem_cons.mp memB with rfl | insideB
        · exact .inl rfl
        · exact .inr (.inl ⟨[], rest, rfl, insideB⟩)
      · rcases List.mem_cons.mp memB with rfl | insideB
        · exact .inr (.inr ⟨[], rest, rfl, insideA⟩)
        · rcases ih insideA insideB with same | ⟨later, before, rfl, mem⟩ | ⟨later, before, rfl, mem⟩
          · exact .inl same
          · exact .inr (.inl ⟨d :: later, before, rfl, mem⟩)
          · exact .inr (.inr ⟨d :: later, before, rfl, mem⟩)

/-- A value is issued once. -/
theorem ProperDeeds.issued_once (proper : ProperDeeds deeds) {i j : Nat}
    {codeHash codeHash' value : Bytes} {time time' : ℚ}
    (first : .issued i codeHash value time ∈ deeds)
    (second : .issued j codeHash' value time' ∈ deeds) : codeHash = codeHash' := by
  rcases eq_or_before first second with same | ⟨later, before, rfl, mem⟩ | ⟨later, before, rfl, mem⟩
  · cases same
    rfl
  · exact (proper.proper j codeHash' time' mem).elim
  · exact (proper.proper i codeHash time mem).elim

/-- A value is taken once. -/
theorem ProperDeeds.took_once (proper : ProperDeeds deeds) {i j : Nat}
    {codeHash codeHash' value : Bytes} {time time' : ℚ}
    (first : .took i codeHash value time ∈ deeds)
    (second : .took j codeHash' value time' ∈ deeds) : i = j := by
  rcases eq_or_before first second with same | ⟨later, before, rfl, mem⟩ | ⟨later, before, rfl, mem⟩
  · cases same
    rfl
  · exact (proper.proper.2 j codeHash' time' mem).elim
  · exact (proper.proper.2 i codeHash time mem).elim

/-- A code is claimed once. -/
theorem ProperDeeds.claimed_once (proper : ProperDeeds deeds) {i j : Nat} {code code' : CodeRow}
    {time time' : Timestamp} (first : .claimed i code time ∈ deeds)
    (second : .claimed j code' time' ∈ deeds) (same : code.codeHash = code'.codeHash) :
    i = j := by
  rcases eq_or_before first second with same' | ⟨later, before, rfl, mem⟩ |
    ⟨later, before, rfl, mem⟩
  · cases same'
    rfl
  · exact (proper.proper.2.2 j code' time' mem same.symm).elim
  · exact (proper.proper.2.2 i code time mem same).elim

/-- A call creates one device. -/
theorem ProperDeeds.created_once (proper : ProperDeeds deeds) {i : Nat} {id id' : Uuid}
    (first : .created i id ∈ deeds) (second : .created i id' ∈ deeds) : id = id' := by
  rcases eq_or_before first second with same | ⟨later, before, rfl, mem⟩ | ⟨later, before, rfl, mem⟩
  · cases same
    rfl
  · exact (proper.proper id' mem).elim
  · exact (proper.proper id mem).elim

end Deeds

/-! ## One operation -/

/-- The code was claimed. -/
def UsedCode (codes : CodeTable) (codeHash : Bytes) : Prop :=
  ∃ code ∈ codes.rows, code.codeHash = codeHash ∧ code.usedAt ≠ none

/-- An operation that leaves no deed. -/
def Quiet : (o : AccountOp) → o.Res → Prop
  | .issue _, _ => False
  | .inner (.take _), _ => False
  | .inner (.claim _), _ => False
  | .inner (.createDevice _), .ok _ => False
  | _, _ => True

/-- What one operation can do to challenges, codes and devices. -/
inductive Effect (i : Nat) (s : AccountStore) : (o : AccountOp) → o.Res → AccountStore → Prop
  | issue {codeHash value : Bytes} {now issuedAt : ℚ} (past : s.clock ≤ now)
      (later : now ≤ issuedAt) (fresh : ∀ k hash time, .issued k hash value time ∉ s.deeds) :
      Effect i s (.issue codeHash) value
        { s with
          clock := issuedAt
          challenges := s.challenges.issue codeHash value now issuedAt
          deeds := .issued i codeHash value issuedAt :: s.deeds }
  | take {codeHash : Bytes} {now : ℚ} (past : s.clock ≤ now) :
      Effect i s (.inner (.take codeHash)) (s.challenges.take codeHash now).1
        { s with
          clock := now
          challenges := (s.challenges.take codeHash now).2
          deeds := ((s.challenges.take codeHash now).1.map fun value =>
            .took i codeHash value now).toList ++ s.deeds }
  | claim {codeHash : Bytes} {now : Timestamp} :
      Effect i s (.inner (.claim codeHash))
        ((claimCode s.codes codeHash now).1.map fun code => ⟨code.id, code.userId⟩)
        { s with
          codes := (claimCode s.codes codeHash now).2
          deeds := ((claimCode s.codes codeHash now).1.map fun code =>
            .claimed i code now).toList ++ s.deeds }
  | create {device : NewDevice} {id : Uuid} {devices : DeviceTable}
      (inserted : insertDevice s.users s.devices device id = .ok devices) :
      Effect i s (.inner (.createDevice device)) (.ok id)
        { s with devices, deeds := .created i id :: s.deeds }
  | quiet {o : AccountOp} {r : o.Res} {s' : AccountStore} (quiet : Quiet o r)
      (challenges : s'.challenges = s.challenges) (clock : s'.clock = s.clock)
      (deeds : s'.deeds = s.deeds)
      (used : ∀ codeHash, UsedCode s.codes codeHash → UsedCode s'.codes codeHash)
      (ids : s'.devices.rows.map DeviceRow.id = s.devices.rows.map DeviceRow.id) :
      Effect i s o r s'

theorem UsedCode.update {codes : CodeTable} {f : CodeRow → CodeRow}
    (keeps : ∀ code, (f code).codeHash = code.codeHash)
    (used : ∀ code, code.usedAt ≠ none → (f code).usedAt ≠ none) {codeHash : Bytes}
    (h : UsedCode codes codeHash) : UsedCode (codes.update f keeps) codeHash := by
  obtain ⟨code, mem, same, isUsed⟩ := h
  exact ⟨f code, List.mem_map_of_mem mem, (keeps code).trans same, used code isUsed⟩

theorem UsedCode.insertCode {users : UserTable} {codes codes' : CodeTable} {code : NewCode}
    {id : Uuid} {now : Timestamp} (h : insertCode users codes code id now = .ok codes')
    {codeHash : Bytes} (used : UsedCode codes codeHash) : UsedCode codes' codeHash := by
  unfold Enrollment.insertCode at h
  split_ifs at h
  split at h
  · cases h
  · rename_i table inserted
    obtain rfl := Except.ok.inj h
    obtain ⟨row, mem, same, isUsed⟩ := used
    exact ⟨row, (Kit.Table.mem_insert? inserted).mpr (.inl mem), same, isUsed⟩

theorem ids_block (devices : DeviceTable) (id : Uuid) (reason : Text) :
    (block devices id reason).rows.map DeviceRow.id = devices.rows.map DeviceRow.id := by
  show (devices.rows.map _).map DeviceRow.id = _
  rw [List.map_map]
  exact List.map_congr_left fun device _ => DeviceRow.id_block id reason device

section Step

variable {pgLower : String → String} {i : Nat} {choice : AccountChoice} {s s' : AccountStore}

theorem effect_of_enrollStep {o : EnrollOp} {r : o.Res}
    (h : enrollStep pgLower i o choice s = some (r, s')) : Effect i s (.inner o) r s' := by
  cases o with
  | take codeHash =>
      simp only [enrollStep] at h
      split_ifs at h with early
      obtain ⟨rfl, rfl⟩ := Prod.mk.inj (Option.some.inj h)
      exact .take (not_lt.mp early)
  | claim codeHash =>
      obtain ⟨rfl, rfl⟩ := Prod.mk.inj (Option.some.inj h)
      exact .claim
  | createDevice device =>
      simp only [enrollStep] at h
      split at h
      · obtain ⟨rfl, rfl⟩ := Prod.mk.inj (Option.some.inj h)
        exact .quiet trivial rfl rfl rfl (fun _ => id) rfl
      · split at h
        · obtain ⟨rfl, rfl⟩ := Prod.mk.inj (Option.some.inj h)
          exact .quiet trivial rfl rfl rfl (fun _ => id) rfl
        · rename_i inserted
          obtain ⟨rfl, rfl⟩ := Prod.mk.inj (Option.some.inj h)
          exact .create inserted
  | attachDevice id device =>
      obtain ⟨rfl, rfl⟩ := Prod.mk.inj (Option.some.inj h)
      refine .quiet trivial rfl rfl rfl
        (fun codeHash used => used.update (CodeRow.codeHash_attach id device) ?_) rfl
      intro code isUsed
      unfold CodeRow.attach
      split_ifs <;> exact isUsed
  | utcNow =>
      obtain ⟨rfl, rfl⟩ := Prod.mk.inj (Option.some.inj h)
      exact .quiet trivial rfl rfl rfl (fun _ => id) rfl
  | audit record =>
      obtain ⟨rfl, rfl⟩ := Prod.mk.inj (Option.some.inj h)
      exact .quiet trivial rfl rfl rfl (fun _ => id) rfl
  | auth o =>
      obtain ⟨⟨answer, auth⟩, -, same⟩ := Option.map_eq_some_iff.mp h
      obtain ⟨rfl, rfl⟩ := Prod.mk.inj same
      exact .quiet trivial rfl rfl rfl (fun _ => id) rfl

/-- What one operation can do. -/
theorem effect_of_exec {o : AccountOp} {r : o.Res}
    (h : (accountServer pgLower).exec i o choice s = some (r, s')) : Effect i s o r s' := by
  cases o with
  | issue codeHash =>
      simp only [accountServer] at h
      split_ifs at h with refused
      simp only [Bool.or_eq_true, decide_eq_true_eq, not_or, not_lt] at refused
      obtain ⟨⟨⟨past, later⟩, -⟩, fresh⟩ := refused
      obtain ⟨rfl, rfl⟩ := Prod.mk.inj (Option.some.inj h)
      refine .issue past later fun k hash time mem => fresh ?_
      exact List.any_eq_true.mpr ⟨_, mem, decide_eq_true rfl⟩
  | inner o => exact effect_of_enrollStep h
  | createCode code =>
      simp only [accountServer] at h
      split at h
      · obtain ⟨rfl, rfl⟩ := Prod.mk.inj (Option.some.inj h)
        exact .quiet trivial rfl rfl rfl (fun _ => id) rfl
      · rename_i inserted
        obtain ⟨rfl, rfl⟩ := Prod.mk.inj (Option.some.inj h)
        exact .quiet trivial rfl rfl rfl (fun _ used => used.insertCode inserted) rfl
  | block device reason =>
      obtain ⟨rfl, rfl⟩ := Prod.mk.inj (Option.some.inj h)
      exact .quiet trivial rfl rfl rfl (fun _ => id) (ids_block _ _ _)
  | setActive user active =>
      obtain ⟨rfl, rfl⟩ := Prod.mk.inj (Option.some.inj h)
      exact .quiet trivial rfl rfl rfl (fun _ => id) rfl

end Step

/-! ## What the deeds say about the store -/

/-- An item of the challenge store is the latest issue for its code, and was not taken. -/
def Current (deeds : List Deed) (item : Bytes × Challenge) : Prop :=
  Untaken deeds item.2.value ∧ ∃ issuedAt, LatestIssue deeds item.1 item.2.value issuedAt ∧
    item.2.expiresAt = issuedAt + challengeTtlSeconds

/-- The deeds are as they should be, and account for challenges, codes and devices; the
devices `old` were there before. -/
structure CodesInv (old : List Uuid) (s : AccountStore) : Prop where
  proper : ProperDeeds s.deeds
  items : ∀ item ∈ s.challenges, Current s.deeds item
  past : ∀ k codeHash value time, .issued k codeHash value time ∈ s.deeds → time ≤ s.clock
  used : ∀ k code time, .claimed k code time ∈ s.deeds → UsedCode s.codes code.codeHash
  devices : ∀ id ∈ s.devices.rows.map DeviceRow.id, id ∈ old ∨ ∃ k, .created k id ∈ s.deeds

theorem mem_sweep {items : ChallengeItems} {now : ℚ} {item : Bytes × Challenge} :
    item ∈ items.sweep now ↔ item ∈ items ∧ now ≤ item.2.expiresAt := by
  unfold ChallengeItems.sweep
  rw [List.mem_filter, Bool.not_eq_true', decide_eq_false_iff_not, not_lt]

theorem claimCode_none {codes : CodeTable} {codeHash : Bytes} {now : Timestamp}
    (h : (claimCode codes codeHash now).1 = none) : (claimCode codes codeHash now).2 = codes := by
  unfold claimCode at h ⊢
  cases found : codes.get? codeHash with
  | none => rfl
  | some code =>
      rw [found] at h
      dsimp only at h ⊢
      by_cases isOpen : code.isOpen now = true
      · rw [if_pos isOpen] at h
        cases h
      · rw [if_neg isOpen]

/-- A code that is claimed was open, and is used from then on. -/
theorem claimCode_some {codes : CodeTable} {codeHash : Bytes} {now : Timestamp} {code : CodeRow}
    (h : (claimCode codes codeHash now).1 = some code) :
    code ∈ codes.rows ∧ code.codeHash = codeHash ∧ code.usedAt = none ∧ now < code.expiresAt ∧
      (claimCode codes codeHash now).2 =
        codes.update (CodeRow.use codeHash now) (CodeRow.codeHash_use codeHash now) := by
  unfold claimCode at h ⊢
  cases found : codes.get? codeHash with
  | none =>
      rw [found] at h
      cases h
  | some row =>
      rw [found] at h
      dsimp only at h ⊢
      split_ifs at h ⊢ with isOpen
      obtain rfl := Option.some.inj h
      obtain ⟨mem, same⟩ := Kit.Table.mem_of_get? found
      rw [CodeRow.isOpen, Bool.and_eq_true, decide_eq_true_eq, Option.isNone_iff_eq_none] at isOpen
      exact ⟨mem, same, isOpen.1, isOpen.2, rfl⟩

theorem usedAt_use {codeHash : Bytes} {now : Timestamp} {code : CodeRow}
    (used : code.usedAt ≠ none ∨ code.codeHash = codeHash) :
    (code.use codeHash now).usedAt ≠ none := by
  unfold CodeRow.use
  split_ifs with hit
  · exact Option.some_ne_none _
  · exact used.resolve_right hit

section Current

variable {deeds : List Deed} {item : Bytes × Challenge}

theorem Current.cons {deed : Deed} (current : Current deeds item)
    (issue : ∀ k value time, deed ≠ .issued k item.1 value time)
    (take : ∀ j codeHash time, deed ≠ .took j codeHash item.2.value time) :
    Current (deed :: deeds) item := by
  obtain ⟨untaken, issuedAt, latest, expires⟩ := current
  refine ⟨?_, issuedAt, latest.cons issue, expires⟩
  intro j codeHash time mem
  rcases List.mem_cons.mp mem with same | earlier
  · exact take j codeHash time same.symm
  · exact untaken j codeHash time earlier

/-- Two items for different codes have different values. -/
theorem Current.value_ne {other : Bytes × Challenge} (proper : ProperDeeds deeds)
    (current : Current deeds item) (current' : Current deeds other) (apart : item.1 ≠ other.1) :
    item.2.value ≠ other.2.value := by
  intro same
  obtain ⟨-, issuedAt, latest, -⟩ := current
  obtain ⟨-, issuedAt', latest', -⟩ := current'
  obtain ⟨k, mem⟩ := latest.mem
  obtain ⟨k', mem'⟩ := latest'.mem
  rw [same] at mem
  exact apart (proper.issued_once mem mem')

end Current

section Invariant

variable {old : List Uuid} {i : Nat} {s : AccountStore}

/-- A deed that issues nothing adds no time of an issue. -/
theorem CodesInv.past_cons (inv : CodesInv old s) {deed : Deed}
    (noIssue : ∀ k codeHash value time, deed ≠ .issued k codeHash value time) :
    ∀ k codeHash value time, .issued k codeHash value time ∈ deed :: s.deeds → time ≤ s.clock := by
  intro k codeHash value time mem
  rcases List.mem_cons.mp mem with same | earlier
  · exact absurd same.symm (noIssue k codeHash value time)
  · exact inv.past k codeHash value time earlier

/-- A deed that claims nothing uses up no code. -/
theorem CodesInv.used_cons (inv : CodesInv old s) {deed : Deed}
    (noClaim : ∀ k code time, deed ≠ .claimed k code time) :
    ∀ k code time, .claimed k code time ∈ deed :: s.deeds → UsedCode s.codes code.codeHash := by
  intro k code time mem
  rcases List.mem_cons.mp mem with same | earlier
  · exact absurd same.symm (noClaim k code time)
  · exact inv.used k code time earlier

theorem CodesInv.devices_cons (inv : CodesInv old s) (deed : Deed) :
    ∀ id ∈ s.devices.rows.map DeviceRow.id, id ∈ old ∨ ∃ k, .created k id ∈ deed :: s.deeds := by
  intro id mem
  exact (inv.devices id mem).imp_right fun ⟨k, created⟩ => ⟨k, List.mem_cons_of_mem _ created⟩

theorem CodesInv.issue (inv : CodesInv old s) {codeHash value : Bytes} {now issuedAt : ℚ}
    (past : s.clock ≤ now) (later : now ≤ issuedAt)
    (fresh : ∀ k hash time, .issued k hash value time ∉ s.deeds) :
    CodesInv old { s with
      clock := issuedAt
      challenges := s.challenges.issue codeHash value now issuedAt
      deeds := .issued i codeHash value issuedAt :: s.deeds } where
  proper := ⟨fresh, inv.proper⟩
  items := by
    intro item mem
    rcases List.mem_cons.mp mem with rfl | kept
    · -- the new one
      refine ⟨?_, issuedAt, ⟨[], i, s.deeds, rfl, fun _ _ _ mem => by cases mem⟩, rfl⟩
      intro j hash time took
      rcases List.mem_cons.mp took with same | earlier
      · cases same
      · obtain ⟨k, hash', time', issued⟩ := inv.proper.issued earlier
        exact fresh k hash' time' issued
    · -- one of another code
      obtain ⟨swept, other⟩ := List.mem_filter.mp kept
      refine (inv.items item (mem_sweep.mp swept).1).cons ?_ ?_
      · rintro k value' time same
        obtain ⟨-, rfl, -⟩ := Deed.issued.inj same
        simp at other
      · rintro j hash time ⟨⟩
  past := by
    intro k hash value' time mem
    rcases List.mem_cons.mp mem with same | earlier
    · obtain ⟨-, -, -, rfl⟩ := Deed.issued.inj same
      exact le_rfl
    · exact (inv.past k hash value' time earlier).trans (past.trans later)
  used := inv.used_cons fun _ _ _ => by nofun
  devices := inv.devices_cons _

theorem CodesInv.take (inv : CodesInv old s) {codeHash : Bytes} {now : ℚ} (past : s.clock ≤ now) :
    CodesInv old { s with
      clock := now
      challenges := (s.challenges.take codeHash now).2
      deeds := ((s.challenges.take codeHash now).1.map fun value =>
        .took i codeHash value now).toList ++ s.deeds } := by
  have kept : ∀ item ∈ (s.challenges.take codeHash now).2,
      item ∈ s.challenges ∧ item.1 ≠ codeHash := by
    intro item mem
    obtain ⟨swept, other⟩ := List.mem_filter.mp mem
    exact ⟨(mem_sweep.mp swept).1, of_decide_eq_true other⟩
  cases given : (s.challenges.take codeHash now).1 with
  | none =>
      exact ⟨inv.proper, fun item mem => inv.items item (kept item mem).1,
        fun k hash value time mem => (inv.past k hash value time mem).trans past, inv.used,
        inv.devices⟩
  | some value =>
      obtain ⟨challenge, found, rfl⟩ := Option.map_eq_some_iff.mp given
      obtain ⟨before, after, shape, -⟩ := List.lookup_eq_some_iff.mp found
      have inside : (codeHash, challenge) ∈ s.challenges.sweep now := by
        rw [shape]
        exact List.mem_append_right _ List.mem_cons_self
      obtain ⟨mem, alive⟩ := mem_sweep.mp inside
      have current := inv.items _ mem
      obtain ⟨untaken, issuedAt, latest, expires⟩ := current
      obtain ⟨k, issued⟩ := latest.mem
      have proper : Deed.Proper s.deeds (.took i codeHash challenge.value now) :=
        ⟨⟨issuedAt, latest, (inv.past _ _ _ _ issued).trans past, alive.trans_eq expires⟩, untaken⟩
      refine ⟨⟨proper, inv.proper⟩, ?_, ?_, inv.used_cons fun _ _ _ => by nofun,
        inv.devices_cons _⟩
      · intro item mem'
        obtain ⟨inside', other⟩ := kept item mem'
        refine (inv.items item inside').cons (fun _ _ _ same => by cases same) ?_
        rintro j hash time same
        obtain ⟨-, -, sameValue, -⟩ := Deed.took.inj same
        exact Current.value_ne inv.proper (inv.items item inside') (inv.items _ mem) other
          sameValue.symm
      · intro k hash value time mem'
        exact (inv.past_cons (fun _ _ _ _ => by nofun) k hash value time mem').trans past

theorem CodesInv.claim (inv : CodesInv old s) {codeHash : Bytes} {now : Timestamp} :
    CodesInv old { s with
      codes := (claimCode s.codes codeHash now).2
      deeds := ((claimCode s.codes codeHash now).1.map fun code =>
        .claimed i code now).toList ++ s.deeds } := by
  cases given : (claimCode s.codes codeHash now).1 with
  | none =>
      rw [claimCode_none given]
      exact ⟨inv.proper, inv.items, inv.past, inv.used, inv.devices⟩
  | some code =>
      obtain ⟨mem, rfl, unused, alive, updated⟩ := claimCode_some given
      -- an earlier claim of this code would have left its row used
      have proper : Deed.Proper s.deeds (.claimed i code now) := by
        refine ⟨unused, alive, ?_⟩
        intro j code' time' claimed same
        obtain ⟨row, inside, key, isUsed⟩ := inv.used j code' time' claimed
        obtain rfl := s.codes.eq_of_key_eq inside mem (key.trans same)
        exact isUsed unused
      rw [updated]
      refine ⟨⟨proper, inv.proper⟩, ?_, inv.past_cons fun _ _ _ _ => by nofun, ?_,
        inv.devices_cons _⟩
      · intro item mem'
        exact (inv.items item mem').cons (fun _ _ _ same => by cases same)
          fun _ _ _ same => by cases same
      · intro k code' time mem'
        rcases List.mem_cons.mp mem' with same | earlier
        · obtain ⟨-, rfl, -⟩ := Deed.claimed.inj same
          exact ⟨code'.use code'.codeHash now, List.mem_map_of_mem mem,
            CodeRow.codeHash_use _ _ _, usedAt_use (.inr rfl)⟩
        · exact (inv.used k code' time earlier).update (CodeRow.codeHash_use _ _) fun row isUsed =>
            usedAt_use (.inl isUsed)

theorem ids_insertDevice {users : UserTable} {devices devices' : DeviceTable} {device : NewDevice}
    {id : Uuid} (h : insertDevice users devices device id = .ok devices') :
    devices'.rows.map DeviceRow.id = devices.rows.map DeviceRow.id ++ [id] := by
  unfold insertDevice at h
  split_ifs at h
  split at h
  · cases h
  · rename_i table inserted
    obtain rfl := Except.ok.inj h
    rw [(Kit.Table.insert?_eq_some inserted).1, List.map_append]
    rfl

theorem CodesInv.create (inv : CodesInv old s) {device : NewDevice} {id : Uuid}
    {devices : DeviceTable} (inserted : insertDevice s.users s.devices device id = .ok devices)
    (once : ∀ id', .created i id' ∉ s.deeds) :
    CodesInv old { s with devices, deeds := .created i id :: s.deeds } where
  proper := ⟨once, inv.proper⟩
  items := fun item mem => (inv.items item mem).cons (fun _ _ _ same => by cases same)
    fun _ _ _ same => by cases same
  past := inv.past_cons fun _ _ _ _ => by nofun
  used := inv.used_cons fun _ _ _ => by nofun
  devices := by
    intro id' mem
    rw [ids_insertDevice inserted] at mem
    rcases List.mem_append.mp mem with before | new
    · exact inv.devices_cons _ id' before
    · obtain rfl := List.mem_singleton.mp new
      exact .inr ⟨i, List.mem_cons_self⟩

/-- Every operation keeps the invariant. -/
theorem CodesInv.step {o : AccountOp} {r : o.Res} {s' : AccountStore} (inv : CodesInv old s)
    (effect : Effect i s o r s')
    (once : ∀ device id, o = .inner (.createDevice device) → .created i id ∉ s.deeds) :
    CodesInv old s' := by
  cases effect with
  | issue past later fresh => exact inv.issue past later fresh
  | take past => exact inv.take past
  | claim => exact inv.claim
  | create inserted => exact inv.create inserted fun id => once _ id rfl
  | quiet _ challenges clock deeds used ids =>
      refine ⟨?_, ?_, ?_, ?_, ?_⟩
      · rw [deeds]
        exact inv.proper
      · rw [deeds, challenges]
        exact inv.items
      · rw [deeds, clock]
        exact inv.past
      · rw [deeds]
        exact fun k code time mem => used _ (inv.used k code time mem)
      · rw [deeds, ids]
        exact inv.devices

end Invariant

/-! ## The calls -/

/-- A deed of a call that has this request. -/
def Deed.Of (req : AccountRequest) (deeds : List Deed) : Deed → Prop
  | .issued _ codeHash _ _ => ∃ code, req = .challenge code ∧ hashCode code = .ok codeHash
  | .took _ codeHash _ _ => ∃ args, req = .enroll args ∧ hashCode args.enrollmentCode = .ok codeHash
  | .claimed _ code _ =>
      ∃ args, req = .enroll args ∧ hashCode args.enrollmentCode = .ok code.codeHash
  | .created i _ => ∃ args value code takenAt claimedAt, req = .enroll args ∧
      hashCode args.enrollmentCode = .ok code.codeHash ∧
      b64decodeStrict args.presentedChallenge = some value ∧
      .took i code.codeHash value takenAt ∈ deeds ∧ .claimed i code claimedAt ∈ deeds

theorem Deed.Of.mono {req : AccountRequest} {deeds deeds' : List Deed} {deed : Deed}
    (more : ∀ d ∈ deeds, d ∈ deeds') (h : deed.Of req deeds) : deed.Of req deeds' := by
  cases deed with
  | created i id =>
      obtain ⟨args, value, code, takenAt, claimedAt, same, isHash, isValue, took, claimed⟩ := h
      exact ⟨args, value, code, takenAt, claimedAt, same, isHash, isValue, more _ took,
        more _ claimed⟩
  | issued => exact h
  | took => exact h
  | claimed => exact h

/-- The call and the record agree. -/
structure DeedCall (s : AccountStore) (i : Nat) (c : AccountCall) : Prop where
  prog : Always (Fits c.req) (fun _ _ => True) c.hist c.prog
  took : ∀ codeHash value, ⟨.inner (.take codeHash), some value⟩ ∈ c.hist →
    ∃ time, .took i codeHash value time ∈ s.deeds
  claimed : ∀ codeHash claimed, ⟨.inner (.claim codeHash), some claimed⟩ ∈ c.hist →
    ∃ code time, .claimed i code time ∈ s.deeds ∧ code.codeHash = codeHash
  created : ∀ id, .created i id ∈ s.deeds →
    ∃ device, ⟨.inner (.createDevice device), .ok id⟩ ∈ c.hist
  deeds : ∀ deed ∈ s.deeds, deed.caller = i → deed.Of c.req s.deeds

/-- What an operation adds to the record is of its call. -/
theorem Effect.deeds_eq {i : Nat} {s s' : AccountStore} {o : AccountOp} {r : o.Res}
    (effect : Effect i s o r s') :
    ∃ new, s'.deeds = new ++ s.deeds ∧ ∀ deed ∈ new, deed.caller = i := by
  cases effect with
  | issue => exact ⟨[_], rfl, fun deed mem => by rw [List.mem_singleton.mp mem]; rfl⟩
  | take =>
      refine ⟨_, rfl, ?_⟩
      intro deed mem
      obtain ⟨value, -, rfl⟩ := Option.map_eq_some_iff.mp (Option.mem_toList.mp mem)
      rfl
  | claim =>
      refine ⟨_, rfl, ?_⟩
      intro deed mem
      obtain ⟨code, -, rfl⟩ := Option.map_eq_some_iff.mp (Option.mem_toList.mp mem)
      rfl
  | create => exact ⟨[_], rfl, fun deed mem => by rw [List.mem_singleton.mp mem]; rfl⟩
  | quiet _ _ _ deeds => exact ⟨[], deeds, fun deed mem => by cases mem⟩

section Calls

variable {i : Nat} {s s' : AccountStore} {o : AccountOp} {r : o.Res} {c : AccountCall}

/-- A call that does not step. -/
theorem DeedCall.frame {j : Nat} (inv : DeedCall s j c) (other : j ≠ i)
    (effect : Effect i s o r s') : DeedCall s' j c := by
  obtain ⟨new, shape, callers⟩ := effect.deeds_eq
  have more : ∀ deed ∈ s.deeds, deed ∈ s'.deeds := by
    intro deed mem
    rw [shape]
    exact List.mem_append_right _ mem
  have own : ∀ deed ∈ s'.deeds, deed.caller = j → deed ∈ s.deeds := by
    intro deed mem isOwn
    rw [shape] at mem
    rcases List.mem_append.mp mem with added | earlier
    · exact absurd (isOwn.symm.trans (callers deed added)) other
    · exact earlier
  refine ⟨inv.prog, ?_, ?_, ?_, ?_⟩
  · intro codeHash value mem
    obtain ⟨time, took⟩ := inv.took codeHash value mem
    exact ⟨time, more _ took⟩
  · intro codeHash claimed mem
    obtain ⟨code, time, did, same⟩ := inv.claimed codeHash claimed mem
    exact ⟨code, time, more _ did, same⟩
  · intro id mem
    exact inv.created id (own _ mem rfl)
  · intro deed mem isOwn
    exact (inv.deeds deed (own deed mem isOwn) isOwn).mono more

theorem take_event_inj {codeHash codeHash' : Bytes} {value value' : Option Bytes}
    (same : (⟨.inner (.take codeHash), value⟩ : AccountEvent) = ⟨.inner (.take codeHash'), value'⟩) :
    codeHash = codeHash' ∧ value = value' := by
  cases same
  exact ⟨rfl, rfl⟩

theorem claim_event_inj {codeHash codeHash' : Bytes} {claimed claimed' : Option Claimed}
    (same : (⟨.inner (.claim codeHash), claimed⟩ : AccountEvent) =
      ⟨.inner (.claim codeHash'), claimed'⟩) : codeHash = codeHash' ∧ claimed = claimed' := by
  cases same
  exact ⟨rfl, rfl⟩

/-- The call that steps, if what it adds to the record agrees with what it did. -/
theorem DeedCall.extend {req : AccountRequest} {hist : List AccountEvent}
    {next : o.Res → Kit.Prog AccountOp AccountOp.Res AccountReply}
    (inv : DeedCall s i ⟨req, hist, .op o next⟩) (new : List Deed)
    (shape : s'.deeds = new ++ s.deeds)
    (took : ∀ codeHash value, (⟨o, r⟩ : AccountEvent) = ⟨.inner (.take codeHash), some value⟩ →
      ∃ time, .took i codeHash value time ∈ new)
    (claimed : ∀ codeHash claimed,
      (⟨o, r⟩ : AccountEvent) = ⟨.inner (.claim codeHash), some claimed⟩ →
      ∃ code time, .claimed i code time ∈ new ∧ code.codeHash = codeHash)
    (created : ∀ id, .created i id ∈ new →
      ∃ device, (⟨o, r⟩ : AccountEvent) = ⟨.inner (.createDevice device), .ok id⟩)
    (deeds : ∀ deed ∈ new, deed.Of req s.deeds) :
    DeedCall s' i ⟨req, ⟨o, r⟩ :: hist, next r⟩ := by
  have more : ∀ deed ∈ s.deeds, deed ∈ s'.deeds := by
    intro deed mem
    rw [shape]
    exact List.mem_append_right _ mem
  have added : ∀ deed ∈ new, deed ∈ s'.deeds := by
    intro deed mem
    rw [shape]
    exact List.mem_append_left _ mem
  refine ⟨inv.prog.2 r, ?_, ?_, ?_, ?_⟩
  · intro codeHash value mem
    rcases List.mem_cons.mp mem with here | earlier
    · obtain ⟨time, did⟩ := took codeHash value here.symm
      exact ⟨time, added _ did⟩
    · obtain ⟨time, did⟩ := inv.took codeHash value earlier
      exact ⟨time, more _ did⟩
  · intro codeHash code mem
    rcases List.mem_cons.mp mem with here | earlier
    · obtain ⟨row, time, did, same⟩ := claimed codeHash code here.symm
      exact ⟨row, time, added _ did, same⟩
    · obtain ⟨row, time, did, same⟩ := inv.claimed codeHash code earlier
      exact ⟨row, time, more _ did, same⟩
  · intro id mem
    rw [shape] at mem
    rcases List.mem_append.mp mem with here | earlier
    · obtain ⟨device, same⟩ := created id here
      exact ⟨device, List.mem_cons.mpr (.inl same.symm)⟩
    · obtain ⟨device, did⟩ := inv.created id earlier
      exact ⟨device, List.mem_cons_of_mem _ did⟩
  · intro deed mem isOwn
    rw [shape] at mem
    rcases List.mem_append.mp mem with here | earlier
    · exact (deeds deed here).mono more
    · exact (inv.deeds deed earlier isOwn).mono more

/-- The call that steps. -/
theorem DeedCall.step {req : AccountRequest} {hist : List AccountEvent}
    {next : o.Res → Kit.Prog AccountOp AccountOp.Res AccountReply}
    (inv : DeedCall s i ⟨req, hist, .op o next⟩) (effect : Effect i s o r s') :
    DeedCall s' i ⟨req, ⟨o, r⟩ :: hist, next r⟩ := by
  have fits := inv.prog.1
  cases effect with
  | issue past later fresh =>
      refine inv.extend [_] rfl ?_ ?_ ?_ ?_
      · rintro _ _ ⟨⟩
      · rintro _ _ ⟨⟩
      · intro id mem
        cases List.mem_singleton.mp mem
      · intro deed mem
        rw [List.mem_singleton.mp mem]
        exact fits
  | @take codeHash now past =>
      obtain ⟨args, isEnroll, isHash⟩ := fits
      refine inv.extend _ rfl ?_ ?_ ?_ ?_
      · intro codeHash' value same
        obtain ⟨rfl, given⟩ := take_event_inj same
        rw [given]
        exact ⟨now, List.mem_cons_self⟩
      · rintro _ _ ⟨⟩
      · intro id mem
        obtain ⟨value, -, same⟩ := Option.map_eq_some_iff.mp (Option.mem_toList.mp mem)
        cases same
      · intro deed mem
        obtain ⟨value, -, rfl⟩ := Option.map_eq_some_iff.mp (Option.mem_toList.mp mem)
        exact ⟨args, isEnroll, isHash⟩
  | @claim codeHash now =>
      obtain ⟨args, isEnroll, isHash⟩ := fits
      refine inv.extend _ rfl ?_ ?_ ?_ ?_
      · rintro _ _ ⟨⟩
      · intro codeHash' claimed same
        obtain ⟨rfl, given⟩ := claim_event_inj same
        obtain ⟨code, isCode, -⟩ := Option.map_eq_some_iff.mp given
        obtain ⟨-, isHash, -⟩ := claimCode_some isCode
        rw [isCode]
        exact ⟨code, now, List.mem_cons_self, isHash⟩
      · intro id mem
        obtain ⟨code, -, same⟩ := Option.map_eq_some_iff.mp (Option.mem_toList.mp mem)
        cases same
      · intro deed mem
        obtain ⟨code, given, rfl⟩ := Option.map_eq_some_iff.mp (Option.mem_toList.mp mem)
        obtain ⟨-, rfl, -⟩ := claimCode_some given
        exact ⟨args, isEnroll, isHash⟩
  | @create device id devices inserted =>
      obtain ⟨args, isEnroll, entitled, -⟩ := fits
      refine inv.extend [_] rfl ?_ ?_ ?_ ?_
      · rintro _ _ ⟨⟩
      · rintro _ _ ⟨⟩
      · intro id' mem
        obtain ⟨-, rfl⟩ := Deed.created.inj (List.mem_singleton.mp mem)
        exact ⟨device, rfl⟩
      · intro deed mem
        rw [List.mem_singleton.mp mem]
        obtain ⟨codeHash, value, claimed, isHash, isValue, took, did⟩ := entitled
        obtain ⟨takenAt, taken⟩ := inv.took codeHash value (mem_ownEvents.mp took)
        obtain ⟨code, claimedAt, claim, rfl⟩ := inv.claimed codeHash claimed (mem_ownEvents.mp did)
        exact ⟨args, value, code, takenAt, claimedAt, isEnroll, isHash, isValue, taken, claim⟩
  | quiet quiet _ _ deeds =>
      refine inv.extend [] deeds ?_ ?_ ?_ ?_
      · rintro codeHash value ⟨⟩
        exact quiet.elim
      · rintro codeHash claimed ⟨⟩
        exact quiet.elim
      · intro id mem
        cases mem
      · intro deed mem
        cases mem

/-- A call creates a device when it has created none. -/
theorem DeedCall.once {req : AccountRequest} {hist : List AccountEvent}
    {next : o.Res → Kit.Prog AccountOp AccountOp.Res AccountReply}
    (inv : DeedCall s i ⟨req, hist, .op o next⟩) {device : NewDevice} {id : Uuid}
    (creates : o = .inner (.createDevice device)) : .created i id ∉ s.deeds := by
  subst creates
  intro mem
  obtain ⟨device', earlier⟩ := inv.created id mem
  obtain ⟨args, -, -, uncreated⟩ := inv.prog.1
  exact uncreated device' id (mem_ownEvents.mpr earlier)

end Calls

/-! ## Every run -/

section Runs

variable {Cert Key Hash : Type} (lib : X509 Cert Key Hash) (py : Python)
  (settings : EnrollSettings Cert) (pgLower : String → String)

structure AccountInv (old : List Uuid) (p : AccountPool) : Prop where
  codes : CodesInv old p.store
  calls : ∀ i c, p.calls[i]? = some c → DeedCall p.store i c
  known : ∀ deed ∈ p.store.deeds, ∃ c, p.calls[deed.caller]? = some c

/-- A server that has just been started: it knows no challenge. -/
structure Started (store : AccountStore) : Prop where
  challenges : store.challenges = []
  deeds : store.deeds = []

variable {lib py settings pgLower} {store : AccountStore} {p : AccountPool}
  {ok : AccountPool → AccountAction → Bool}

theorem Started.codesInv (started : Started store) :
    CodesInv (store.devices.rows.map DeviceRow.id) store := by
  refine ⟨?_, ?_, ?_, ?_, fun id mem => .inl mem⟩
  · rw [started.deeds]
    trivial
  · rw [started.challenges]
    exact fun item mem => by cases mem
  · rw [started.deeds]
    exact fun _ _ _ _ mem => by cases mem
  · rw [started.deeds]
    exact fun _ _ _ mem => by cases mem

theorem DeedCall.fresh {s : AccountStore} {i : Nat} (unknown : ∀ deed ∈ s.deeds, deed.caller ≠ i)
    (req : AccountRequest) : DeedCall s i ⟨req, [], serve lib py settings req⟩ where
  prog := serve_fits lib py settings req
  took := fun _ _ mem => by cases mem
  claimed := fun _ _ mem => by cases mem
  created := fun id mem => absurd rfl (unknown _ mem)
  deeds := fun deed mem own => absurd own (unknown deed mem)

theorem accountInv_of_reach (started : Started store)
    (h : AccountReach lib py settings pgLower ok store p) :
    AccountInv (store.devices.rows.map DeviceRow.id) p := by
  refine h.invariant (AccountInv (store.devices.rows.map DeviceRow.id)) ?_ ?_
  · refine ⟨started.codesInv, (fun i c found => by cases found), ?_⟩
    show ∀ deed ∈ store.deeds, _
    rw [started.deeds]
    exact fun deed mem => by cases mem
  · intro p a q _ inv _ stepped
    rcases Kit.Pool.step_cases stepped with
      ⟨req, rfl, rfl⟩ | ⟨i, choice, req, hist, o, next, r, store, rfl, found, answer, rfl⟩
    · -- a new call
      refine ⟨inv.codes, ?_, ?_⟩
      · intro j c foundC
        rcases Kit.Pool.get_append_index_cases foundC with before | ⟨rfl, rfl⟩
        · exact inv.calls j c before
        · refine DeedCall.fresh ?_ req
          intro deed mem own
          obtain ⟨c, inside⟩ := inv.known deed mem
          rw [own] at inside
          exact absurd (List.getElem?_eq_some_iff.mp inside).1 (lt_irrefl _)
      · intro deed mem
        obtain ⟨c, inside⟩ := inv.known deed mem
        exact ⟨c, Kit.Pool.get_append_old inside⟩
    · -- an operation
      have effect := effect_of_exec answer
      have own := inv.calls i _ found
      refine ⟨inv.codes.step effect fun device id creates => own.once creates, ?_, ?_⟩
      · intro j c foundC
        rcases Kit.Pool.get_set_cases foundC with ⟨rfl, rfl⟩ | ⟨other, before⟩
        · exact own.step effect
        · exact (inv.calls j c before).frame other effect
      · intro deed mem
        obtain ⟨new, shape, callers⟩ := effect.deeds_eq
        have inside : ∃ c, p.calls[deed.caller]? = some c := by
          replace mem : deed ∈ store.deeds := mem
          rw [shape] at mem
          rcases List.mem_append.mp mem with added | earlier
          · rw [callers deed added]
            exact ⟨_, found⟩
          · exact inv.known deed earlier
        obtain ⟨c, inside⟩ := inside
        obtain ⟨bound, -⟩ := List.getElem?_eq_some_iff.mp inside
        have kept : deed.caller < (p.calls.set i ⟨req, ⟨o, r⟩ :: hist, next r⟩).length := by
          rw [List.length_set]
          exact bound
        exact ⟨_, List.getElem?_eq_getElem kept⟩

/-! ## One code, one device -/

/-- The code a request is about. -/
def AccountRequest.code? : AccountRequest → Option Text
  | .challenge code => some code
  | .enroll args => some args.enrollmentCode
  | _ => none

/-- Codes with one hash are the same, but for the blanks around them. -/
def CollisionFree (p : AccountPool) : Prop :=
  ∀ c ∈ p.calls, ∀ c' ∈ p.calls, ∀ code code' codeHash, c.req.code? = some code →
    c'.req.code? = some code' → hashCode code = .ok codeHash → hashCode code' = .ok codeHash →
    strip code = strip code'

/-- The call enrols with these arguments. -/
def Enrols (p : AccountPool) (i : Nat) (args : EnrollArgs) : Prop :=
  ∃ c, p.calls[i]? = some c ∧ c.req = .enroll args

/-- The call asks for a challenge for this code. -/
def AsksFor (p : AccountPool) (k : Nat) (code : Text) : Prop :=
  ∃ c code', p.calls[k]? = some c ∧ c.req = .challenge code' ∧ strip code' = strip code

/-- The call took what was then the value of the latest issue for its code, and what it
presented, not too old; no other call took it. -/
def TookLatest (p : AccountPool) (i : Nat) (args : EnrollArgs) : Prop :=
  ∃ (value codeHash : Bytes) (k : Nat) (issuedAt takenAt : ℚ) (later between earlier : List Deed),
    b64decodeStrict args.presentedChallenge = some value ∧
    p.store.deeds = later ++ .took i codeHash value takenAt ::
      (between ++ .issued k codeHash value issuedAt :: earlier) ∧
    AsksFor p k args.enrollmentCode ∧
    (∀ k' hash' value' time, .issued k' hash' value' time ∈ between →
      ¬ AsksFor p k' args.enrollmentCode) ∧
    issuedAt ≤ takenAt ∧ takenAt ≤ issuedAt + challengeTtlSeconds ∧
    ∀ j hash' time, .took j hash' value time ∈ p.store.deeds → j = i

/-- The call claimed its code, which was unused and had not expired. -/
def ClaimedOpen (p : AccountPool) (i : Nat) (args : EnrollArgs) : Prop :=
  ∃ code claimedAt, hashCode args.enrollmentCode = .ok code.codeHash ∧
    .claimed i code claimedAt ∈ p.store.deeds ∧ code.usedAt = none ∧ claimedAt < code.expiresAt

theorem hashCode_congr {code code' : Text} (same : strip code = strip code') :
    hashCode code = hashCode code' := by
  unfold hashCode
  rw [same]

/-- Who issued a challenge asked for it. -/
theorem asked_of_issued {old : List Uuid} (inv : AccountInv old p) {k : Nat}
    {codeHash value : Bytes} {time : ℚ} (issued : .issued k codeHash value time ∈ p.store.deeds) :
    ∃ c code, p.calls[k]? = some c ∧ c.req = .challenge code ∧ hashCode code = .ok codeHash := by
  obtain ⟨c, found⟩ := inv.known _ issued
  obtain ⟨code, asks, isHash⟩ := (inv.calls k c found).deeds _ issued rfl
  exact ⟨c, code, found, asks, isHash⟩

theorem tookLatest_of_took {old : List Uuid} (inv : AccountInv old p)
    (collisionFree : CollisionFree p) {i : Nat} {c : AccountCall} {args : EnrollArgs}
    {codeHash value : Bytes} {takenAt : ℚ} (found : p.calls[i]? = some c)
    (enrols : c.req = .enroll args) (isHash : hashCode args.enrollmentCode = .ok codeHash)
    (presented : b64decodeStrict args.presentedChallenge = some value)
    (took : .took i codeHash value takenAt ∈ p.store.deeds) : TookLatest p i args := by
  have proper := inv.codes.proper
  obtain ⟨later, before, shape⟩ := List.append_of_mem took
  have isProper : Deed.Proper before (.took i codeHash value takenAt) := by
    rw [shape] at proper
    exact proper.proper
  obtain ⟨⟨issuedAt, ⟨between, k, earlier, rfl, last⟩, past, alive⟩, -⟩ := isProper
  have inside : ∀ deed ∈ between ++ .issued k codeHash value issuedAt :: earlier,
      deed ∈ p.store.deeds := by
    intro deed mem
    rw [shape]
    exact List.mem_append_right _ (List.mem_cons_of_mem _ mem)
  refine ⟨value, codeHash, k, issuedAt, takenAt, later, between, earlier, presented, shape, ?_, ?_,
    past, alive, ?_⟩
  · -- the hash is that of the code
    obtain ⟨asker, code', foundK, asks, isHash'⟩ := asked_of_issued inv
      (inside _ (List.mem_append_right _ List.mem_cons_self))
    refine ⟨asker, code', foundK, asks, ?_⟩
    refine collisionFree asker (List.mem_of_getElem? foundK) c (List.mem_of_getElem? found) code'
      args.enrollmentCode codeHash ?_ ?_ isHash' isHash
    · rw [asks]
      rfl
    · rw [enrols]
      rfl
  · -- a later one would be for the same hash
    rintro k' hash' value' time mem ⟨asker, code', foundK, asks, same⟩
    obtain ⟨asker', code'', foundK', asks', isHash'⟩ := asked_of_issued inv
      (inside _ (List.mem_append_left _ mem))
    obtain rfl := Option.some.inj (foundK.symm.trans foundK')
    obtain rfl := AccountRequest.challenge.inj (asks.symm.trans asks')
    rw [hashCode_congr same, isHash] at isHash'
    obtain rfl := Except.ok.inj isHash'
    exact last k' value' time mem
  · intro j hash' time mem
    exact proper.took_once mem took

/-- **One code, one device.** Every device was there before or was created by a call; that call
took the latest challenge for its code and claimed the code while it was open; and two devices
for one code are one. -/
theorem one_code_one_device (started : Started store)
    (h : AccountReach lib py settings pgLower ok store p) (collisionFree : CollisionFree p) :
    (∀ device ∈ p.store.devices.rows, device.id ∈ store.devices.rows.map DeviceRow.id ∨
      ∃ i, .created i device.id ∈ p.store.deeds) ∧
    (∀ i id, .created i id ∈ p.store.deeds →
      ∃ args, Enrols p i args ∧ TookLatest p i args ∧ ClaimedOpen p i args) ∧
    ∀ i j id id' args args', .created i id ∈ p.store.deeds → .created j id' ∈ p.store.deeds →
      Enrols p i args → Enrols p j args' →
      strip args.enrollmentCode = strip args'.enrollmentCode → i = j ∧ id = id' := by
  have inv := accountInv_of_reach started h
  have proper := inv.codes.proper
  refine ⟨?_, ?_, ?_⟩
  · intro device mem
    exact inv.codes.devices device.id (List.mem_map_of_mem mem)
  · intro i id created
    obtain ⟨c, found⟩ := inv.known _ created
    obtain ⟨args, value, code, takenAt, claimedAt, enrols, isHash, presented, took, claimed⟩ :=
      (inv.calls i c found).deeds _ created rfl
    refine ⟨args, ⟨c, found, enrols⟩,
      tookLatest_of_took inv collisionFree found enrols isHash presented took,
      code, claimedAt, isHash, claimed, ?_⟩
    obtain ⟨later, before, shape⟩ := List.append_of_mem claimed
    rw [shape] at proper
    exact ⟨proper.proper.1, proper.proper.2.1⟩
  · rintro i j id id' args args' created created' ⟨c, found, enrols⟩ ⟨c', found', enrols'⟩ same
    obtain ⟨own, -, code, -, claimedAt, isOwn, isHash, -, -, claimed⟩ :=
      (inv.calls i c found).deeds _ created rfl
    obtain ⟨own', -, code', -, claimedAt', isOwn', isHash', -, -, claimed'⟩ :=
      (inv.calls j c' found').deeds _ created' rfl
    obtain rfl := AccountRequest.enroll.inj (enrols.symm.trans isOwn)
    obtain rfl := AccountRequest.enroll.inj (enrols'.symm.trans isOwn')
    rw [hashCode_congr same, isHash'] at isHash
    obtain rfl : i = j := proper.claimed_once claimed claimed' (Except.ok.inj isHash).symm
    exact ⟨rfl, proper.created_once created created'⟩

end Runs

/-- A user, and one code. -/
def oneUser : UserTable := ⟨[⟨2, "ann", "Ann", "secret", false, true⟩], List.nodup_singleton _⟩

def oneCode : CodeTable :=
  ⟨[⟨1, 2, Kit.Sha256.sha256 (ascii "code-0001"), 100, none, none⟩], List.nodup_singleton _⟩

def noTokens : Auth.AuthStore where
  tokens := ⟨[], List.nodup_nil, List.nodup_nil⟩
  families := []
  known := fun _ mem => absurd mem List.not_mem_nil

/-- A server with no devices. -/
def beforeEnrolment : AccountStore := ⟨[], 0, oneUser, oneCode, ⟨[], List.nodup_nil⟩, noTokens, []⟩

/-- `attestation_mode == "log_only"`: a phone that proves nothing is enrolled all the same. -/
def logOnlySettings : EnrollSettings Certificate := { strictSettings with attestationStrict := false }

def unattestedArgs : EnrollArgs :=
  { forgedArgs with attestationChain := [], playIntegrityToken := [] }

/-- A challenge, and an enrolment with it, as far as the device. -/
def enrolment : List AccountAction :=
  [.start (.challenge (text "code-0001")),
   .run 0 { now := 10, issuedAt := 10, value := List.replicate 32 0x2a },
   .start (.enroll unattestedArgs), .run 1 { now := 20 }, .run 1 {}, .run 1 {},
   .run 1 { auth := { uuid := 7 } }]

theorem one_code_one_device_sample : ∃ p,
    AccountReach loadsSelfMade loadsVerdict logOnlySettings id (fun _ _ => true) beforeEnrolment p ∧
      .created 1 7 ∈ p.store.deeds ∧
      ∃ args, Enrols p 1 args ∧ TookLatest p 1 args ∧ ClaimedOpen p 1 args := by
  have ran : (Kit.Pool.run (accountServer id) (serve loadsSelfMade loadsVerdict logOnlySettings)
      (fun _ _ => true) ⟨beforeEnrolment, []⟩ enrolment).map (fun p =>
        (p.calls.map fun c => c.req.code?, decide (.created 1 7 ∈ p.store.deeds))) =
      some ([some (text "code-0001"), some (text "code-0001")], true) := by
    decide +kernel
  obtain ⟨p, reach, seen⟩ := Kit.Pool.reach_of_map_run enrolment ran
  obtain ⟨codes, created⟩ := Prod.mk.inj seen
  have isCode : ∀ c ∈ p.calls, ∀ code, c.req.code? = some code → code = text "code-0001" := by
    intro c mem code same
    have inside : c.req.code? ∈ p.calls.map fun c => c.req.code? := List.mem_map_of_mem mem
    rw [codes, same] at inside
    simpa using inside
  have collisionFree : CollisionFree p := by
    intro c mem c' mem' code code' _ same same' _ _
    rw [isCode c mem code same, isCode c' mem' code' same']
  have isCreated := of_decide_eq_true created
  exact ⟨p, reach, isCreated, (one_code_one_device ⟨rfl, rfl⟩ reach collisionFree).2.1 1 7 isCreated⟩

end DoorsControl.Enrollment
