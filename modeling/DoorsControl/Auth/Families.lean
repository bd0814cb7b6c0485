import Mathlib.Data.List.Chain
import DoorsControl.Auth.Revocation
import DoorsControl.Enrollment.Service
import DoorsControl.Kit.Serial

/-!
# Token families, one call at a time

Enrolment, login, refresh, logout and `revoke_family`, each run to its end before the
next one starts. The other tables and the clock still change as they like in between;
a token's user and device exist, which the foreign keys of `acs.tokens` say (`Linked`).

* `Orderly` — **the invariant**: a family has one owner, and its refresh tokens, in the
  order of their insertion, are a chain of parents in which all but the last one are
  used and revoked;
* `serve_holds`, `enroll_holds` — every call keeps it, and keeps a dead family dead;
* `family_linear` — the invariant of every run, and **what a replayed token does**.
-/

namespace DoorsControl.Auth

open DoorsControl.Audit
open DoorsControl.Enrollment (X509 Python EnrollSettings EnrollArgs EnrollOp Claimed enroll)
open Kit.Prog

/-! ## The calls -/

/-- What is decided outside of an enrolment. -/
structure EnrollChoice extends AuthChoice where
  challenge : Option Bytes := none
  claimed : Option Claimed := none
  created : Except Text Uuid := .ok 0

/-- The statements of an enrolment; only those of `issue_pair` touch the tokens. -/
def enrollServer : Kit.Server AuthStore EnrollOp EnrollOp.Res EnrollChoice where
  exec
    | _, .take _, choice, s => some (choice.challenge, s)
    | _, .claim _, choice, s => some (choice.claimed, s)
    | _, .createDevice _, choice, s => some (choice.created, s)
    | _, .attachDevice _ _, _, s => some ((), s)
    | _, .utcNow, choice, s => some (choice.now, s)
    | _, .audit _, choice, s => some (choice.seq, s)
    | i, .auth o, choice, s => authServer.exec i o choice.toAuthChoice s

inductive Operation where
  | enroll (args : EnrollArgs)
  | request (req : AuthRequest)
  | revokeFamily (family : Uuid) (reason : String)

section Run

variable {Cert Key Hash : Type} (lib : X509 Cert Key Hash) (py : Python)
  (settings : EnrollSettings Cert)

/-- The store after the call, whatever the call returned or raised. -/
def perform (choices : Nat → EnrollChoice) (s : AuthStore) : Operation → Option AuthStore
  | .enroll args => (serial enrollServer choices s (enroll lib py settings args).run).map Prod.fst
  | .request req =>
      (serial authServer (fun n => (choices n).toAuthChoice) s
        (serve settings.toAuthSettings req)).map Prod.fst
  | .revokeFamily family reason =>
      (serial authServer (fun n => (choices n).toAuthChoice) s
        (revokeFamily family reason).run).map Prod.fst

/-- The foreign keys: the join of a lookup finds a user and a device. -/
def Linked (choice : AuthChoice) : Prop := choice.joined.isSome = true

/-- The stores that calls, run one at a time, lead to. -/
inductive Later (s : AuthStore) : AuthStore → Prop
  | here : Later s s
  | next {mid s' : AuthStore} (op : Operation) (choices : Nat → EnrollChoice) :
      Later s mid → (∀ n, Linked (choices n).toAuthChoice) →
      perform lib py settings choices mid op = some s' → Later s s'

end Run

/-- Before the first enrolment. -/
def emptyStore : AuthStore where
  tokens := ⟨[], List.nodup_nil, List.nodup_nil⟩
  families := []
  known := by simp

/-! ## The invariant -/

/-- The refresh tokens of a family, oldest first. -/
def refreshTokens (t : TokenTable) (family : Uuid) : List TokenRow :=
  t.rows.filter fun r => r.familyId = family && r.kind = .refresh

/-- One chain of parents; all but the last token are used and revoked. -/
structure Linear (chain : List TokenRow) : Prop where
  first : ∀ r, chain.head? = some r → r.parentId = none
  parents : chain.IsChain fun a b => b.parentId = some a.id
  spent : ∀ r ∈ chain.dropLast, r.usedAt ≠ none ∧ r.revokedAt ≠ none

structure Orderly (t : TokenTable) : Prop where
  owner : ∀ r ∈ t.rows, ∀ r' ∈ t.rows, r.familyId = r'.familyId →
    r.userId = r'.userId ∧ r.deviceId = r'.deviceId
  linear : ∀ family, Linear (refreshTokens t family)

/-- The invariant, with families that are dead. -/
structure Holds (dead : Uuid → Prop) (s : AuthStore) : Prop where
  orderly : Orderly s.tokens
  known : ∀ family, dead family → family ∈ s.families
  revoked : ∀ family, dead family → ∀ r ∈ s.tokens.rows, r.familyId = family → r.revokedAt ≠ none

/-- What an update leaves alone, beyond `RowAdvances`. -/
structure RowKeeps (r r' : TokenRow) : Prop extends RowAdvances r r' where
  kind_eq : r'.kind = r.kind
  parent_eq : r'.parentId = r.parentId
  user_eq : r'.userId = r.userId
  device_eq : r'.deviceId = r.deviceId

theorem RowKeeps.refl (r : TokenRow) : RowKeeps r r :=
  ⟨.refl r, rfl, rfl, rfl, rfl⟩

theorem RowKeeps.trans {a b c : TokenRow} (h : RowKeeps a b) (h' : RowKeeps b c) : RowKeeps a c where
  id_eq := h'.id_eq.trans h.id_eq
  hash_eq := h'.hash_eq.trans h.hash_eq
  family_eq := h'.family_eq.trans h.family_eq
  used := fun used => h'.used (h.used used)
  revoked := fun revoked => h'.revoked (h.revoked revoked)
  kind_eq := h'.kind_eq.trans h.kind_eq
  parent_eq := h'.parent_eq.trans h.parent_eq
  user_eq := h'.user_eq.trans h.user_eq
  device_eq := h'.device_eq.trans h.device_eq

theorem Linear.map {chain : List TokenRow} (linear : Linear chain) {f : TokenRow → TokenRow}
    (keeps : ∀ r, RowKeeps r (f r)) : Linear (chain.map f) := by
  refine ⟨?_, ?_, ?_⟩
  · intro r first
    rw [List.head?_map, Option.map_eq_some_iff] at first
    obtain ⟨r₀, first, rfl⟩ := first
    rw [(keeps r₀).parent_eq]
    exact linear.first r₀ first
  · rw [List.isChain_map]
    refine linear.parents.imp ?_
    intro a b parent
    rw [(keeps b).parent_eq, (keeps a).id_eq, parent]
  · intro r mem
    rw [← List.map_dropLast] at mem
    obtain ⟨r₀, inside, rfl⟩ := List.mem_map.mp mem
    obtain ⟨used, revoked⟩ := linear.spent r₀ inside
    exact ⟨(keeps r₀).used used, (keeps r₀).revoked revoked⟩

/-- What the next token of a chain has for a parent. -/
def NextParent (chain : List TokenRow) (parent : Option Uuid) : Prop :=
  match chain.getLast? with
  | none => parent = none
  | some r => parent = some r.id ∧ r.usedAt ≠ none ∧ r.revokedAt ≠ none

theorem nextParent_of_getLast? {chain : List TokenRow} {r : TokenRow}
    (isLast : chain.getLast? = some r) (used : r.usedAt ≠ none) (revoked : r.revokedAt ≠ none) :
    NextParent chain (some r.id) := by
  unfold NextParent
  rw [isLast]
  exact ⟨rfl, used, revoked⟩

theorem Linear.snoc {chain : List TokenRow} (linear : Linear chain) {new : TokenRow}
    (next : NextParent chain new.parentId) : Linear (chain ++ [new]) := by
  rcases List.eq_nil_or_concat chain with rfl | ⟨init, last, rfl⟩
  · refine ⟨?_, .singleton _, by simp⟩
    intro r first
    obtain rfl := Option.some.inj first
    exact next
  · simp only [NextParent, List.concat_eq_append, List.getLast?_append, List.getLast?_singleton,
      Option.some_or] at next
    obtain ⟨parent, used, revoked⟩ := next
    rw [List.concat_eq_append] at linear ⊢
    refine ⟨?_, ?_, ?_⟩
    · intro r first
      refine linear.first r ?_
      rw [List.head?_append_of_ne_nil _ (by simp)] at first
      exact first
    · refine List.isChain_append.mpr ⟨linear.parents, .singleton _, ?_⟩
      simp [parent]
    · intro r mem
      rw [List.dropLast_concat] at mem
      rcases List.mem_append.mp mem with early | isLast
      · exact linear.spent r (by rwa [List.dropLast_concat])
      · obtain rfl := List.mem_singleton.mp isLast
        exact ⟨used, revoked⟩

/-- An unused token is the last one. -/
theorem Linear.getLast?_of_unused {chain : List TokenRow} (linear : Linear chain) {r : TokenRow}
    (mem : r ∈ chain) (unused : r.usedAt = none) : chain.getLast? = some r := by
  rcases List.eq_nil_or_concat chain with rfl | ⟨init, last, rfl⟩
  · cases mem
  · rw [List.concat_eq_append] at linear mem ⊢
    rcases List.mem_append.mp mem with early | isLast
    · exact absurd unused (linear.spent r (by rwa [List.dropLast_concat])).1
    · obtain rfl := List.mem_singleton.mp isLast
      simp

/-! ## What statements do to it -/

section Statements

variable {t t' : TokenTable} {s s' : AuthStore} {dead : Uuid → Prop}

theorem refreshTokens_update {f : TokenRow → TokenRow}
    (keys : ∀ r, (f r).id = r.id ∧ (f r).tokenHash = r.tokenHash)
    (keeps : ∀ r, RowKeeps r (f r)) (family : Uuid) :
    refreshTokens (t.update f keys) family = (refreshTokens t family).map f := by
  show (t.rows.map f).filter _ = _
  rw [List.filter_map]
  congr 2
  funext r
  show (decide ((f r).familyId = family) && decide ((f r).kind = .refresh)) = _
  rw [(keeps r).family_eq, (keeps r).kind_eq]

theorem Orderly.update (orderly : Orderly t) {f : TokenRow → TokenRow}
    (keys : ∀ r, (f r).id = r.id ∧ (f r).tokenHash = r.tokenHash)
    (keeps : ∀ r, RowKeeps r (f r)) : Orderly (t.update f keys) := by
  refine ⟨?_, ?_⟩
  · intro r mem r' mem' same
    obtain ⟨r₀, inside, rfl⟩ := List.mem_map.mp mem
    obtain ⟨r₁, inside', rfl⟩ := List.mem_map.mp mem'
    rw [(keeps r₀).family_eq, (keeps r₁).family_eq] at same
    rw [(keeps r₀).user_eq, (keeps r₁).user_eq, (keeps r₀).device_eq, (keeps r₁).device_eq]
    exact orderly.owner r₀ inside r₁ inside' same
  · intro family
    rw [refreshTokens_update keys keeps]
    exact (orderly.linear family).map keeps

/-- Marks and revocations. -/
theorem Holds.update (holds : Holds dead s) {f : TokenRow → TokenRow}
    (keys : ∀ r, (f r).id = r.id ∧ (f r).tokenHash = r.tokenHash)
    (keeps : ∀ r, RowKeeps r (f r))
    (advances : TableAdvances s.tokens (s.tokens.update f keys) none) :
    Holds dead (s.withTokens _ advances) := by
  refine ⟨holds.orderly.update keys keeps, holds.known, ?_⟩
  intro family isDead r mem ofFamily
  obtain ⟨r₀, inside, rfl⟩ := List.mem_map.mp mem
  rw [(keeps r₀).family_eq] at ofFamily
  exact (keeps r₀).revoked (holds.revoked family isDead r₀ inside ofFamily)

theorem markUsed_keeps (id : Uuid) (now : Timestamp) (r : TokenRow) :
    RowKeeps r (if r.id = id ∧ r.usedAt = none then { r with usedAt := some now } else r) := by
  split
  · exact ⟨⟨rfl, rfl, rfl, by simp, by simp⟩, rfl, rfl, rfl, rfl⟩
  · exact .refl r

theorem revokeWhere_keeps (which : TokenRow → Bool) (reason : String) (now : Timestamp)
    (r : TokenRow) :
    RowKeeps r (if which r && r.revokedAt.isNone then
      { r with revokedAt := some now, revokedReason := some reason } else r) := by
  split
  · exact ⟨⟨rfl, rfl, rfl, by simp, by simp⟩, rfl, rfl, rfl, rfl⟩
  · exact .refl r

/-- Where a pair can be issued: the family is this user's on this device, its next token
has this parent, and it is not dead. -/
structure Ready (dead : Uuid → Prop) (t : TokenTable) (family userId deviceId : Uuid)
    (parentId : Option Uuid) : Prop where
  owner : ∀ r ∈ t.rows, r.familyId = family → r.userId = userId ∧ r.deviceId = deviceId
  parent : NextParent (refreshTokens t family) parentId
  alive : ¬ dead family

theorem refreshTokens_insert {token : NewToken} {id : Uuid} {now : Timestamp}
    (shape : t'.rows = t.rows ++ [TokenTable.newRow token id now]) (family : Uuid) :
    refreshTokens t' family = refreshTokens t family ++
      if token.familyId = family ∧ token.kind = .refresh then [TokenTable.newRow token id now]
      else [] := by
  unfold refreshTokens
  rw [shape, List.filter_append]
  congr 1
  by_cases fits : token.familyId = family ∧ token.kind = .refresh
  · simp [TokenTable.newRow, fits]
  · rw [if_neg fits, List.filter_eq_nil_iff]
    simpa [TokenTable.newRow] using fits

section Inserting

variable {token : NewToken} {id : Uuid} {now : Timestamp}
  (shape : t'.rows = t.rows ++ [TokenTable.newRow token id now])
  (ready : Ready dead t token.familyId token.userId token.deviceId token.parentId)

include shape ready

theorem Orderly.insert (orderly : Orderly t) : Orderly t' := by
  refine ⟨?_, ?_⟩
  · intro r mem r' mem' same
    rw [shape] at mem mem'
    -- two old rows agree already, and `ready` says what an old row of the family shares with the new
    rcases List.mem_append.mp mem with old | new
    · rcases List.mem_append.mp mem' with old' | new'
      · exact orderly.owner r old r' old' same
      · obtain rfl := List.mem_singleton.mp new'
        exact ready.owner r old same
    · obtain rfl := List.mem_singleton.mp new
      rcases List.mem_append.mp mem' with old' | new'
      · obtain ⟨user, device⟩ := ready.owner r' old' same.symm
        exact ⟨user.symm, device.symm⟩
      · obtain rfl := List.mem_singleton.mp new'
        exact ⟨rfl, rfl⟩
  · intro family
    rw [refreshTokens_insert shape]
    split_ifs with fits
    · obtain ⟨rfl, -⟩ := fits
      exact (orderly.linear _).snoc ready.parent
    -- an access token, or a row of another family
    · rw [List.append_nil]
      exact orderly.linear family

/-- After the access token, the refresh token can follow. -/
theorem Ready.after_access (access : token.kind = .access) :
    Ready dead t' token.familyId token.userId token.deviceId token.parentId := by
  refine ⟨?_, ?_, ready.alive⟩
  · intro r mem ofFamily
    rw [shape] at mem
    rcases List.mem_append.mp mem with old | new
    · exact ready.owner r old ofFamily
    · obtain rfl := List.mem_singleton.mp new
      exact ⟨rfl, rfl⟩
  · rw [refreshTokens_insert shape, if_neg (by simp [access]), List.append_nil]
    exact ready.parent

end Inserting

/-- An insert is refused, or adds its row. -/
theorem exec_insert {i : Nat} {token : NewToken} {choice : AuthChoice}
    {r : Except DbError Uuid}
    (h : authServer.exec i (.insert token) choice s = some (r, s')) :
    (s' = s ∧ ∃ error, r = .error error) ∨
      (r = .ok choice.uuid ∧ s'.families = token.familyId :: s.families ∧
        s'.tokens.rows = s.tokens.rows ++ [TokenTable.newRow token choice.uuid choice.now]) := by
  simp only [authServer] at h
  split at h
  · rename_i inserted
    obtain ⟨rfl, rfl⟩ := Prod.mk.inj (Option.some.inj h)
    exact .inr ⟨rfl, rfl, (insert_rows_eq inserted).1⟩
  · obtain ⟨rfl, rfl⟩ := Prod.mk.inj (Option.some.inj h)
    exact .inl ⟨rfl, _, rfl⟩

theorem Holds.insert (holds : Holds dead s) {token : NewToken} {id : Uuid} {now : Timestamp}
    (families : s'.families = token.familyId :: s.families)
    (shape : s'.tokens.rows = s.tokens.rows ++ [TokenTable.newRow token id now])
    (ready : Ready dead s.tokens token.familyId token.userId token.deviceId token.parentId) :
    Holds dead s' := by
  refine ⟨holds.orderly.insert shape ready, ?_, ?_⟩
  · intro family isDead
    rw [families]
    exact List.mem_cons_of_mem _ (holds.known family isDead)
  · intro family isDead r mem ofFamily
    rw [shape] at mem
    rcases List.mem_append.mp mem with old | new
    · exact holds.revoked family isDead r old ofFamily
    · obtain rfl := List.mem_singleton.mp new
      obtain rfl : token.familyId = family := ofFamily
      exact absurd isDead ready.alive

end Statements

/-! ## What calls do to it -/

section Calls

variable {dead : Uuid → Prop} {s : AuthStore} (settings : AuthSettings)

/-- An insert, and what follows it when it succeeds. -/
theorem surely_insert {α : Type} {Q : AuthStore → Prop} {token : NewToken} {f : Uuid → Py α}
    (refused : Q s)
    (added : ∀ s' id now, s'.families = token.familyId :: s.families →
      s'.tokens.rows = s.tokens.rows ++ [TokenTable.newRow token id now] →
      Surely authServer Linked (fun s _ => Q s) s' (f id).run) :
    Surely authServer Linked (fun s _ => Q s) s (insert token >>= f).run := by
  refine (surely_exceptBind _ _).mpr ?_
  intro choice r s' _ answer
  rcases exec_insert answer with ⟨rfl, error, rfl⟩ | ⟨rfl, families, shape⟩
  · exact refused
  · exact added s' _ _ families shape

theorem issuePair_holds (holds : Holds dead s) {family userId deviceId : Uuid}
    {parentId : Option Uuid} (ready : Ready dead s.tokens family userId deviceId parentId) :
    Surely authServer Linked (fun s _ => Holds dead s) s
      (issuePair settings userId deviceId (some family) parentId).run := by
  refine surely_call ?_
  intro choice access s₁ _ drawn
  obtain ⟨rfl, rfl⟩ := Prod.mk.inj (Option.some.inj drawn)
  refine surely_call ?_
  intro choice' refresh s₂ _ drawn'
  obtain ⟨rfl, rfl⟩ := Prod.mk.inj (Option.some.inj drawn')
  refine surely_insert holds ?_
  intro s₃ id now families shape
  have holds₃ := holds.insert families shape ready
  have ready₃ := ready.after_access shape rfl
  refine surely_insert holds₃ ?_
  intro s₄ id' now' families' shape'
  exact holds₃.insert families' shape' ready₃

/-- A family that was drawn is new. -/
theorem ready_of_drawn (holds : Holds dead s) {i : Nat} {choice : AuthChoice} {s' : AuthStore}
    {family : Uuid} (drawn : authServer.exec i .uuid4 choice s = some (family, s'))
    (userId deviceId : Uuid) :
    Holds dead s' ∧ Ready dead s'.tokens family userId deviceId none := by
  have fresh := exec_uuid4 drawn
  have grown := exec_families drawn
  simp only [authServer] at drawn
  split at drawn
  · cases drawn
  · obtain ⟨-, rfl⟩ := Prod.mk.inj (Option.some.inj drawn)
    have none : ∀ r ∈ s.tokens.rows, r.familyId ≠ family := by
      intro r mem same
      exact fresh (same ▸ s.known r mem)
    refine ⟨⟨holds.orderly, fun family isDead => grown (holds.known family isDead),
      holds.revoked⟩, ?_, ?_, fun isDead => fresh (holds.known family isDead)⟩
    · intro r mem ofFamily
      exact absurd ofFamily (none r mem)
    · have empty : refreshTokens s.tokens family = [] := by
        rw [refreshTokens, List.filter_eq_nil_iff]
        intro r mem
        simp [none r mem]
      show NextParent (refreshTokens s.tokens family) Option.none
      rw [empty]
      rfl

theorem issuePair_new_holds (holds : Holds dead s) (userId deviceId : Uuid) :
    Surely authServer Linked (fun s _ => Holds dead s) s
      (issuePair settings userId deviceId none none).run := by
  refine surely_call ?_
  intro choice family s' _ drawn
  obtain ⟨holds', ready⟩ := ready_of_drawn holds drawn userId deviceId
  exact issuePair_holds settings holds' ready

/-- A statement that leaves the tokens alone. -/
def readsOnly : AuthOp → Bool
  | .insert _ => false
  | .markUsed _ => false
  | .revoke _ _ => false
  | .revokeFamily _ _ => false
  | .revokeDeviceSessions _ _ => false
  | .uuid4 => false
  | _ => true

theorem exec_readsOnly {i : Nat} {o : AuthOp} {choice : AuthChoice} {s s' : AuthStore} {r : o.Res}
    (reads : readsOnly o = true) (h : authServer.exec i o choice s = some (r, s')) : s' = s := by
  cases o with
  | insert | markUsed | revoke | revokeFamily | revokeDeviceSessions | uuid4 => cases reads
  | byUsername | deviceById | touchLogin | touchSeen | lookup | utcNow | newToken | audit =>
      exact (Prod.mk.inj (Option.some.inj h)).2.symm

theorem surely_reads {α : Type} {Q : AuthStore → Except AuthError α → Prop} {o : AuthOp}
    {f : o.Res → Py α} (reads : readsOnly o = true)
    (rest : ∀ r, Surely authServer Linked Q s (f r).run) :
    Surely authServer Linked Q s (call o >>= f).run := by
  refine surely_call ?_
  intro choice r s' _ answer
  obtain rfl := exec_readsOnly reads answer
  exact rest r

/-- Any update of the tokens, and what follows it. -/
theorem surely_updates {α : Type} {Q : AuthStore → Except AuthError α → Prop} {o : AuthOp}
    {f : o.Res → Py α} (holds : Holds dead s) (writes : added o = none) (kept : o ≠ .uuid4)
    (rest : ∀ r s', Holds dead s' → Surely authServer Linked Q s' (f r).run) :
    Surely authServer Linked Q s (call o >>= f).run := by
  refine surely_call ?_
  intro choice r s' _ answer
  refine rest r s' ?_
  cases o with
  | insert => cases writes
  | uuid4 => exact absurd rfl kept
  | markUsed id =>
      obtain ⟨-, rfl⟩ := Prod.mk.inj (Option.some.inj answer)
      exact holds.update _ (markUsed_keeps id choice.now) _
  | revoke id reason =>
      obtain ⟨-, rfl⟩ := Prod.mk.inj (Option.some.inj answer)
      exact holds.update _ (revokeWhere_keeps _ reason choice.now) _
  | revokeFamily family reason =>
      obtain ⟨-, rfl⟩ := Prod.mk.inj (Option.some.inj answer)
      exact holds.update _ (revokeWhere_keeps _ reason choice.now) _
  | revokeDeviceSessions device reason =>
      obtain ⟨-, rfl⟩ := Prod.mk.inj (Option.some.inj answer)
      exact holds.update _ (revokeWhere_keeps _ reason choice.now) _
  | byUsername | deviceById | touchLogin | touchSeen | lookup | utcNow | newToken | audit =>
      obtain rfl := exec_readsOnly rfl answer
      exact holds

theorem login_holds (holds : Holds dead s) (username password : String) (deviceId : Uuid)
    (clientIp : Option Text) :
    Surely authServer Linked (fun s _ => Holds dead s) s
      (login settings username password deviceId clientIp).run := by
  refine surely_reads rfl ?_
  rintro (_ | user)
  · exact holds
  dsimp only
  split
  · exact holds
  split
  · exact holds
  refine surely_reads rfl ?_
  rintro (_ | device)
  · exact holds
  dsimp only
  split_ifs
  · exact holds
  · exact holds
  · exact holds
  · refine surely_seq (issuePair_new_holds settings holds user.id deviceId) ?_
    intro s pair holds
    exact surely_reads rfl fun _ => surely_reads rfl fun _ => surely_reads rfl fun _ => holds

theorem logout_holds (holds : Holds dead s) (bearer : String) (allDevices : Bool)
    (clientIp : Option Text) :
    Surely authServer Linked (fun s _ => Holds dead s) s
      (serve settings (.logout bearer allDevices clientIp)) := by
  refine (surely_exceptBind _ _).mpr (surely_reads rfl ?_)
  rintro (_ | record)
  · exact holds
  refine surely_reads rfl fun now => ?_
  split_ifs
  · exact holds
  · exact holds
  refine (surely_exceptMap _ _).mpr ?_
  cases allDevices with
  | true => exact surely_updates holds rfl nofun fun _ s holds => surely_reads rfl fun _ => holds
  | false => exact surely_updates holds rfl nofun fun _ s holds => surely_reads rfl fun _ => holds

theorem mem_of_getLast? {t : TokenTable} {family : Uuid} {row : TokenRow}
    (isLast : (refreshTokens t family).getLast? = some row) :
    row ∈ t.rows ∧ row.familyId = family := by
  have mem := List.mem_filter.mp (List.mem_of_getLast? isLast)
  simp only [Bool.and_eq_true, decide_eq_true_eq] at mem
  exact ⟨mem.1, mem.2.1⟩

/-- The last token of a chain stays the last one in an update. -/
theorem getLast?_update {t : TokenTable} {family : Uuid} {row : TokenRow} {f : TokenRow → TokenRow}
    (keys : ∀ r, (f r).id = r.id ∧ (f r).tokenHash = r.tokenHash)
    (keeps : ∀ r, RowKeeps r (f r)) (isLast : (refreshTokens t family).getLast? = some row) :
    ∃ row', (refreshTokens (t.update f keys) family).getLast? = some row' ∧ RowKeeps row row' := by
  refine ⟨f row, ?_, keeps row⟩
  rw [refreshTokens_update keys keeps, List.getLast?_map, isLast]
  rfl

/-- Once the last token of a chain is used and revoked, its child can be issued. -/
theorem ready_of_rotated {t : TokenTable} (orderly : Orderly t) {row : TokenRow}
    (isLast : (refreshTokens t row.familyId).getLast? = some row)
    (alive : ¬ dead row.familyId) (now₁ now₂ : Timestamp) :
    Ready dead ((t.markUsed row.id now₁).revokeWhere (fun r => r.id = row.id) "rotated" now₂)
      row.familyId row.userId row.deviceId (some row.id) := by
  have keeps₁ := markUsed_keeps row.id now₁
  have keeps₂ := revokeWhere_keeps (fun r => r.id = row.id) "rotated" now₂
  have orderly₁ : Orderly (t.markUsed row.id now₁) := orderly.update _ keeps₁
  have orderly₂ : Orderly ((t.markUsed row.id now₁).revokeWhere (fun r => r.id = row.id)
    "rotated" now₂) := orderly₁.update _ keeps₂
  obtain ⟨row₁, isLast₁, kept₁⟩ := getLast?_update _ keeps₁ isLast
  obtain ⟨row₂, isLast₂, kept₂⟩ := getLast?_update _ keeps₂ isLast₁
  have kept := kept₁.trans kept₂
  have used := used_of_markUsed (mem_of_getLast? isLast₁).1 kept₁.id_eq
  have inside := mem_of_getLast? isLast₂
  refine ⟨?_, ?_, alive⟩
  · intro r mem ofFamily
    obtain ⟨user, device⟩ := orderly₂.owner r mem row₂ inside.1 (ofFamily.trans inside.2.symm)
    exact ⟨user.trans kept.user_eq, device.trans kept.device_eq⟩
  · have revoked := revoked_of_revokeWhere inside.1 (decide_eq_true kept.id_eq)
    have next := nextParent_of_getLast? isLast₂ (kept₂.used used) revoked
    rw [kept.id_eq] at next
    exact next

/-- The rotation of a live token: it is the last of its chain, and used and revoked
before its child comes. -/
theorem refreshRotate_holds (holds : Holds dead s) {row : TokenRow} (mem : row ∈ s.tokens.rows)
    (kind : row.kind = .refresh) (unused : row.usedAt = none) (unrevoked : row.revokedAt = none)
    (joined : Joined) (clientIp : Option Text) :
    Surely authServer Linked (fun s _ => Holds dead s) s
      (refreshRotate settings (row.record joined) clientIp).run := by
  have alive : ¬ dead row.familyId := fun isDead => holds.revoked _ isDead row mem rfl unrevoked
  have isLast : (refreshTokens s.tokens row.familyId).getLast? = some row := by
    refine (holds.orderly.linear row.familyId).getLast?_of_unused ?_ unused
    simp [refreshTokens, mem, kind]
  refine surely_call ?_
  intro choice₁ _ s₁ _ marked
  obtain ⟨-, rfl⟩ := Prod.mk.inj (Option.some.inj marked)
  refine surely_call ?_
  intro choice₂ _ s₂ _ revoked
  obtain ⟨-, rfl⟩ := Prod.mk.inj (Option.some.inj revoked)
  have holds₁ := holds.update _ (markUsed_keeps row.id choice₁.now)
    (tableAdvances_markUsed s.tokens row.id choice₁.now)
  have holds₂ := holds₁.update _ (revokeWhere_keeps (fun r => r.id = row.id) "rotated" choice₂.now)
    (tableAdvances_revokeWhere _ _ _ _)
  have ready := ready_of_rotated holds.orderly isLast alive choice₁.now choice₂.now
  refine surely_seq (issuePair_holds settings holds₂ ready) ?_
  intro s pair holds
  exact surely_reads rfl fun _ => holds

theorem kind_of_find? {t : TokenTable} {hash : Bytes} {kind : TokenKind} {row : TokenRow}
    (found : t.find? hash kind = some row) : row.kind = kind := by
  have is := List.find?_some found
  simp only [Bool.and_eq_true, decide_eq_true_eq] at is
  exact is.2

theorem refresh_holds (holds : Holds dead s) (token : String) (clientIp : Option Text) :
    Surely authServer Linked (fun s _ => Holds dead s) s
      (refresh settings token clientIp).run := by
  refine surely_call ?_
  intro choice result s' _ answer
  cases result with
  | none =>
      obtain rfl := exec_readsOnly rfl answer
      exact holds
  | some record =>
      obtain ⟨rfl, row, joined, found, rfl⟩ := exec_lookup answer
      dsimp only
      split
      · exact surely_updates holds rfl nofun fun _ s holds => surely_reads rfl fun _ => holds
      · rename_i unused
        refine surely_reads rfl fun now => ?_
        split
        · exact holds
        · rename_i live
          have unrevoked : row.revokedAt = none := by
            simp only [isLive, Bool.not_eq_true', Bool.not_eq_false, Bool.and_eq_true,
              Option.isNone_iff_eq_none] at live
            exact live.1.1.1
          exact refreshRotate_holds settings holds (find?_spec found).1 (kind_of_find? found) unused
            unrevoked joined clientIp

/-- Every request keeps the invariant. -/
theorem serve_holds (holds : Holds dead s) (req : AuthRequest) :
    Surely authServer Linked (fun s _ => Holds dead s) s (serve settings req) := by
  cases req with
  | login username password deviceId clientIp =>
      exact (surely_exceptMap _ _).mpr
        (login_holds settings holds username password deviceId clientIp)
  | refresh token clientIp =>
      exact (surely_exceptMap _ _).mpr (refresh_holds settings holds token clientIp)
  | logout bearer allDevices clientIp =>
      exact logout_holds settings holds bearer allDevices clientIp

/-! ### Enrolment -/

def LinkedEnroll (choice : EnrollChoice) : Prop := Linked choice.toAuthChoice

/-- What `issue_pair` keeps by itself, it keeps in an enrolment. -/
theorem surely_fromAuth {α : Type} {P : AuthStore → Prop}
    {p : Kit.Prog AuthOp AuthOp.Res (Except AuthError α)}
    (h : Surely authServer Linked (fun s _ => P s) s p) :
    Surely enrollServer LinkedEnroll (fun s _ => P s) s (Enrollment.fromAuth p) := by
  induction p generalizing s with
  | pure result => cases result <;> exact h
  | op o next ih =>
      intro choice r s' linked answer
      exact ih r (h choice.toAuthChoice r s' linked answer)

/-- A statement that is none of `issue_pair`. -/
def notIssuing : EnrollOp → Bool
  | .auth _ => false
  | _ => true

theorem surely_others {α : Type} {Q : AuthStore → Except Enrollment.EnrollError α → Prop}
    {o : EnrollOp} {f : o.Res → Enrollment.Py α} (other : notIssuing o = true)
    (rest : ∀ r, Surely enrollServer LinkedEnroll Q s (f r).run) :
    Surely enrollServer LinkedEnroll Q s (call o >>= f).run := by
  refine surely_call ?_
  intro choice r s' _ answer
  have same : s' = s := by
    cases o with
    | auth => cases other
    | take | claim | createDevice | attachDevice | utcNow | audit =>
        exact (Prod.mk.inj (Option.some.inj answer)).2.symm
  subst same
  exact rest r

theorem surely_ofExcept {α : Type} {P : AuthStore → Prop} (holds : P s)
    (result : Except Enrollment.EnrollError α) :
    Surely enrollServer LinkedEnroll (fun s _ => P s) s
      (MonadExcept.ofExcept result : Enrollment.Py α).run := by
  cases result <;> exact holds

theorem checkCode_holds (holds : Holds dead s) (args : EnrollArgs) :
    Surely enrollServer LinkedEnroll (fun s _ => Holds dead s) s
      (Enrollment.checkCode args).run := by
  refine surely_seq (surely_ofExcept holds _) ?_
  intro s codeHash holds
  refine surely_others rfl fun expected => ?_
  cases Enrollment.b64decodeStrict args.presentedChallenge with
  | none => exact holds
  | some presented =>
      refine surely_seq ?_ ?_
      · unfold ifThen
        split_ifs
        · exact surely_others rfl fun _ => holds
        · exact holds
      · intro s _ holds
        refine surely_others rfl ?_
        rintro (_ | claimed)
        · exact surely_others rfl fun _ => holds
        · exact holds

theorem enroll_holds {Cert Key Hash : Type} (lib : X509 Cert Key Hash) (py : Python)
    (settings : EnrollSettings Cert) (holds : Holds dead s) (args : EnrollArgs) :
    Surely enrollServer LinkedEnroll (fun s _ => Holds dead s) s
      (enroll lib py settings args).run := by
  refine surely_seq (checkCode_holds holds args) ?_
  rintro s ⟨presented, claimed⟩ holds
  refine surely_seq (surely_ofExcept holds _) ?_
  intro s assessment holds
  refine surely_seq ?_ ?_
  · refine surely_seq ?_ fun s _ holds => holds
    unfold ifThen
    split_ifs
    · exact surely_others rfl fun _ => surely_others rfl fun _ => holds
    · exact holds
  intro s status holds
  refine surely_seq ?_ ?_
  · unfold Enrollment.tryCreate
    cases Enrollment.b64decodeStrict args.devicePublicKey with
    | none => exact holds
    | some publicKey => exact surely_others rfl fun _ => surely_others rfl fun _ => holds
  rintro s (name | deviceId) holds
  · exact surely_others rfl fun _ => holds
  · refine surely_others rfl fun _ => ?_
    refine surely_seq (surely_fromAuth (issuePair_new_holds _ holds claimed.userId deviceId)) ?_
    intro s pair holds
    exact surely_others rfl fun _ => holds

end Calls

/-! ## Runs -/

section Runs

variable {Cert Key Hash : Type} {lib : X509 Cert Key Hash} {py : Python}
  {settings : EnrollSettings Cert} {dead : Uuid → Prop} {s s' : AuthStore}

/-- One call. -/
theorem Holds.perform (holds : Holds dead s) {choices : Nat → EnrollChoice} {op : Operation}
    (linked : ∀ n, Linked (choices n).toAuthChoice)
    (performed : perform lib py settings choices s op = some s') : Holds dead s' := by
  cases op with
  | enroll args =>
      obtain ⟨⟨end_, outcome⟩, ran, rfl⟩ := Option.map_eq_some_iff.mp performed
      exact (enroll_holds lib py settings holds args).serial linked ran
  | request req =>
      obtain ⟨⟨end_, outcome⟩, ran, rfl⟩ := Option.map_eq_some_iff.mp performed
      exact (serve_holds _ holds req).serial linked ran
  | revokeFamily family reason =>
      unfold Auth.perform at performed
      obtain ⟨⟨end_, outcome⟩, ran, rfl⟩ := Option.map_eq_some_iff.mp performed
      have sure : Surely authServer Linked (fun s _ => Holds dead s) s
          (revokeFamily family reason).run :=
        surely_updates (o := .revokeFamily family reason) (f := pure) holds rfl nofun
          fun _ s holds => holds
      exact sure.serial linked ran

/-- Any number of calls. -/
theorem Holds.later (holds : Holds dead s) (run : Later lib py settings s s') : Holds dead s' := by
  induction run with
  | here => exact holds
  | next op choices _ linked performed ih => exact ih.perform linked performed

theorem holds_empty : Holds (fun _ => False) emptyStore := by
  refine ⟨⟨?_, ?_⟩, nofun, nofun⟩
  · intro r mem
    cases mem
  · intro family
    exact ⟨nofun, .nil, nofun⟩

/-- No token of a dead family is live. -/
theorem Holds.not_live (holds : Holds dead s) {family : Uuid} (isDead : dead family) {row : TokenRow}
    (mem : row ∈ s.tokens.rows) (ofFamily : row.familyId = family) (joined : Joined)
    (now : Timestamp) : isLive (row.record joined) now = false := by
  have gone := holds.revoked family isDead row mem ofFamily
  have revoked : row.revokedAt.isNone = false := by
    rw [Option.isNone_eq_false_iff, Option.isSome_iff_ne_none]
    exact gone
  simp [isLive, TokenRow.record, revoked]

end Runs

/-! ## A token that comes again -/

section Replay

variable {dead : Uuid → Prop} {s : AuthStore} (settings : AuthSettings)

theorem find?_of_mem {t : TokenTable} {row : TokenRow} (mem : row ∈ t.rows) :
    t.find? row.tokenHash row.kind = some row := by
  have found : (t.find? row.tokenHash row.kind).isSome = true := by
    rw [TokenTable.find?, List.find?_isSome]
    exact ⟨row, mem, by simp⟩
  obtain ⟨other, isOther⟩ := Option.isSome_iff_exists.mp found
  obtain ⟨inside, hash⟩ := find?_spec isOther
  rw [isOther, row_eq_of_hash_eq t inside mem hash]

theorem Holds.revokeFamily (holds : Holds dead s) {i : Nat} {family : Uuid} {reason : String}
    {choice : AuthChoice} {s' : AuthStore} {count : Nat} (known : family ∈ s.families)
    (answer : authServer.exec i (.revokeFamily family reason) choice s = some (count, s')) :
    Holds (fun f => dead f ∨ f = family) s' := by
  obtain ⟨-, rfl⟩ := Prod.mk.inj (Option.some.inj answer)
  have holds' := holds.update _ (revokeWhere_keeps (fun r => r.familyId = family) reason choice.now)
    (tableAdvances_revokeWhere _ _ _ _)
  refine ⟨holds'.orderly, ?_, ?_⟩
  · rintro f (isDead | rfl)
    · exact holds.known f isDead
    · exact known
  · rintro f (isDead | rfl) r mem ofFamily
    · exact holds'.revoked f isDead r mem ofFamily
    · exact revoked_of_revokeWhere mem (decide_eq_true ofFamily)

/-- A used token: the call raises, and its family is dead. -/
theorem refresh_replayed (holds : Holds dead s) {row : TokenRow} (mem : row ∈ s.tokens.rows)
    (kind : row.kind = .refresh) (used : row.usedAt ≠ none) {token : String}
    (hash : hashToken settings token = row.tokenHash) (clientIp : Option Text) :
    Surely authServer Linked (fun s' outcome =>
      outcome = .error (.authentication "refresh_reuse") ∧
        Holds (fun f => dead f ∨ f = row.familyId) s') s
      (serve settings (.refresh token clientIp)) := by
  have found := find?_of_mem mem
  rw [← hash, kind] at found
  refine (surely_exceptMap _ _).mpr (surely_call ?_)
  intro choice result s' linked answer
  obtain ⟨joined, isJoined⟩ := Option.isSome_iff_exists.mp linked
  obtain ⟨rfl, rfl⟩ := Prod.mk.inj (Option.some.inj answer)
  obtain ⟨usedAt, isUsed⟩ := Option.ne_none_iff_exists'.mp used
  have recordUsed : (row.record joined).usedAt = some usedAt := isUsed
  rw [found, isJoined]
  simp only [Option.bind_some, Option.map_some, recordUsed]
  refine surely_call ?_
  intro choice' count s' _ revoked
  have holds' := holds.revokeFamily (s.known row mem) revoked
  exact surely_reads rfl fun _ => ⟨rfl, holds'⟩

/-- Every statement is answered, a draw apart. -/
theorem exec_answers {i : Nat} {o : AuthOp} (notDraw : o ≠ .uuid4) (choice : AuthChoice)
    (s : AuthStore) : ∃ r s', authServer.exec i o choice s = some (r, s') := by
  cases o with
  | uuid4 => exact absurd rfl notDraw
  | insert token =>
      simp only [authServer]
      split
      · exact ⟨_, _, rfl⟩
      · exact ⟨_, _, rfl⟩
  | byUsername | deviceById | touchLogin | touchSeen | lookup | markUsed | revoke | revokeFamily
  | revokeDeviceSessions | utcNow | newToken | audit => exact ⟨_, _, rfl⟩

/-- A call that draws no identifier comes to its end. -/
theorem serial_ends {α : Type} {p : Kit.Prog AuthOp AuthOp.Res α} {hist : List AuthEvent}
    (notDraw : Always (fun _ o => o ≠ .uuid4) (fun _ _ => True) hist p)
    (choices : Nat → AuthChoice) (s : AuthStore) :
    ∃ s' outcome, serial authServer choices s p = some (s', outcome) := by
  induction p generalizing hist choices s with
  | pure value => exact ⟨s, value, rfl⟩
  | op o next ih =>
      obtain ⟨r, mid, answer⟩ := exec_answers (i := 0) notDraw.1 (choices 0) s
      obtain ⟨s', outcome, ran⟩ := ih r (notDraw.2 r) (fun n => choices (n + 1)) mid
      refine ⟨s', outcome, ?_⟩
      unfold serial
      rw [answer]
      exact ran

theorem refresh_draws_nothing (token : String) (clientIp : Option Text) :
    Always (fun _ o => o ≠ AuthOp.uuid4) (fun _ _ => True) []
      (serve settings (.refresh token clientIp)) := by
  refine (always_exceptMap _ _).mpr ((always_callBind _ _).mpr ⟨nofun, ?_⟩)
  rintro (_ | record)
  · trivial
  dsimp only
  split
  · exact ⟨nofun, fun _ => ⟨nofun, fun _ => trivial⟩⟩
  refine (always_callBind _ _).mpr ⟨nofun, fun now => ?_⟩
  split
  · trivial
  refine (always_callBind _ _).mpr ⟨nofun, fun _ => (always_callBind _ _).mpr ⟨nofun, fun _ => ?_⟩⟩
  refine (always_exceptBind _ _).mpr ⟨nofun, fun _ => ⟨nofun, fun _ => ?_⟩⟩
  refine (always_insertBind _ _).mpr ⟨nofun, fun _ => ?_, fun _ => trivial⟩
  refine (always_insertBind _ _).mpr ⟨nofun, fun _ => ?_, fun _ => trivial⟩
  exact ⟨nofun, fun _ => trivial⟩

end Replay

/-- **Rotation is linear, and a replay ends the family.** However enrolments, logins,
refreshes, logouts and revocations follow each other: a family has one user and one
device, its refresh tokens are one chain whose tokens but the last are used and revoked,
and a refresh that presents one of these raises and leaves no token of the family that
is ever live again. -/
theorem family_linear {Cert Key Hash : Type} (lib : X509 Cert Key Hash) (py : Python)
    (settings : EnrollSettings Cert) (s : AuthStore) (run : Later lib py settings emptyStore s) :
    (∀ r ∈ s.tokens.rows, ∀ r' ∈ s.tokens.rows, r.familyId = r'.familyId →
      r.userId = r'.userId ∧ r.deviceId = r'.deviceId) ∧
    (∀ family, Linear (refreshTokens s.tokens family)) ∧
    ∀ family, ∀ row ∈ (refreshTokens s.tokens family).dropLast, ∀ token clientIp choices,
      hashToken settings.toAuthSettings token = row.tokenHash → (∀ n, Linked (choices n)) →
      ∃ s', serial authServer choices s
          (serve settings.toAuthSettings (.refresh token clientIp)) =
            some (s', .error (.authentication "refresh_reuse")) ∧
        ∀ later, Later lib py settings s' later → ∀ r ∈ later.tokens.rows, r.familyId = family →
          ∀ joined now, isLive (r.record joined) now = false := by
  have holds := holds_empty.later run
  refine ⟨holds.orderly.owner, holds.orderly.linear, ?_⟩
  intro family row early token clientIp choices hash linked
  have mem := List.mem_filter.mp ((List.dropLast_sublist _).subset early)
  simp only [Bool.and_eq_true, decide_eq_true_eq] at mem
  obtain ⟨inside, rfl, kind⟩ := mem
  have used := ((holds.orderly.linear row.familyId).spent row early).1
  obtain ⟨s', outcome, ran⟩ :=
    serial_ends (refresh_draws_nothing settings.toAuthSettings token clientIp) choices s
  obtain ⟨rfl, holds'⟩ :=
    (refresh_replayed settings.toAuthSettings holds inside kind used hash clientIp).serial linked ran
  refine ⟨s', ran, ?_⟩
  intro later more r mem ofFamily joined now
  exact (holds'.later more).not_live (.inr rfl) mem ofFamily joined now

/-! ### A login and a refresh -/

def noLibrary : X509 Empty Empty Empty where
  loadPem := fun _ => .error (.valueError [])
  publicKey := nofun
  kind := nofun
  signature := nofun
  tbsCertificateBytes := nofun
  signatureHashAlgorithm := nofun
  rsaVerify := nofun
  ecVerify := nofun
  subject := nofun
  fingerprint := nofun
  attestationExtension := nofun
  subjectPublicKeyInfo := nofun

def noJson : Python := ⟨fun _ => .ok none, fun _ => none, id⟩

def sampleEnrollSettings : EnrollSettings Empty :=
  { sampleSettings with
    playIntegrityPackageName := []
    androidCertDigest := []
    attestationRoots := [] }

/-- What the statements of a login are answered. -/
def loginChoices (n : Nat) : EnrollChoice :=
  { joined := some sampleJoined
    user := some ⟨2, "secret", true⟩
    device := some ⟨2, false, .verified⟩
    uuid := 7 + n
    token := if n = 3 then "a0" else "r0" }

/-- And those of a refresh. -/
def refreshChoices (n : Nat) : EnrollChoice :=
  { joined := some sampleJoined
    uuid := 20 + n
    token := if n = 4 then "a1" else "r1" }

def sampleLater : Option AuthStore :=
  (perform noLibrary noJson sampleEnrollSettings loginChoices emptyStore
    (.request (.login "ann" "secret" 3 none))).bind fun s =>
      perform noLibrary noJson sampleEnrollSettings refreshChoices s (.request (.refresh "r0" none))

theorem family_linear_sample : ∃ s : AuthStore, (refreshTokens s.tokens 9).length = 2 ∧
    Linear (refreshTokens s.tokens 9) := by
  have ran : (sampleLater.map fun s => (refreshTokens s.tokens 9).length) = some 2 := by
    decide +kernel
  obtain ⟨s, reached, length⟩ := Option.map_eq_some_iff.mp ran
  obtain ⟨mid, first, second⟩ := Option.bind_eq_some_iff.mp reached
  have run : Later noLibrary noJson sampleEnrollSettings emptyStore s :=
    .next _ refreshChoices (.next _ loginChoices .here (fun _ => rfl) first) (fun _ => rfl) second
  exact ⟨s, length, (family_linear noLibrary noJson sampleEnrollSettings s run).2.1 9⟩

end DoorsControl.Auth
