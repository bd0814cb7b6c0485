import DoorsControl.Audit.Service
import DoorsControl.Kit.Sha256

/-!
# The token table

`acs.tokens` of migration 003 and the statements of `TokenRepository`. A
`TokenTable` carries its primary key and its `UNIQUE (token_hash)`; an insert that
breaks one of them raises.

`RowAdvances` is what any statement can do to a row that exists: a token is never
un-used, un-revoked or moved to another family.
-/

namespace DoorsControl.Auth

open DoorsControl.Audit (Timestamp)

/-- `acs.token_kind` -/
inductive TokenKind where
  | access
  | refresh
  deriving DecidableEq, Repr

/-- A row of `acs.tokens`. -/
structure TokenRow where
  id : Uuid
  familyId : Uuid
  userId : Uuid
  deviceId : Uuid
  kind : TokenKind
  tokenHash : Bytes
  parentId : Option Uuid
  issuedAt : Timestamp
  expiresAt : Timestamp
  usedAt : Option Timestamp
  revokedAt : Option Timestamp
  revokedReason : Option String

structure TokenTable where
  rows : List TokenRow
  ids_unique : (rows.map TokenRow.id).Nodup
  hashes_unique : (rows.map TokenRow.tokenHash).Nodup

/-- What a statement of the database raises when a constraint refuses it. -/
inductive DbError where
  | uniqueViolation (constraint : String)
  | checkViolation (constraint : String)
  deriving DecidableEq, Repr

/-- The columns `TokenRepository.insert` gives. -/
structure NewToken where
  familyId : Uuid
  userId : Uuid
  deviceId : Uuid
  kind : TokenKind
  tokenHash : Bytes
  ttlSeconds : Int
  parentId : Option Uuid

namespace TokenTable

/-- An `UPDATE` that leaves the keys alone. -/
def update (table : TokenTable) (f : TokenRow → TokenRow)
    (keeps : ∀ r, (f r).id = r.id ∧ (f r).tokenHash = r.tokenHash) : TokenTable where
  rows := table.rows.map f
  ids_unique := by
    have same : TokenRow.id ∘ f = TokenRow.id := funext fun r => (keeps r).1
    rw [List.map_map, same]
    exact table.ids_unique
  hashes_unique := by
    have same : TokenRow.tokenHash ∘ f = TokenRow.tokenHash := funext fun r => (keeps r).2
    rw [List.map_map, same]
    exact table.hashes_unique

/-- The row an insert at `now` makes. -/
def newRow (token : NewToken) (id : Uuid) (now : Timestamp) : TokenRow where
  id := id
  familyId := token.familyId
  userId := token.userId
  deviceId := token.deviceId
  kind := token.kind
  tokenHash := token.tokenHash
  parentId := token.parentId
  issuedAt := now
  expiresAt := now + token.ttlSeconds * 1000000
  usedAt := none
  revokedAt := none
  revokedReason := none

/-- `TokenRepository.insert`, with the identifier `gen_random_uuid()` gave. -/
def insert (table : TokenTable) (token : NewToken) (id : Uuid) (now : Timestamp) :
    Except DbError TokenTable :=
  let row := newRow token id now
  if row.expiresAt ≤ row.issuedAt then .error (.checkViolation "tokens_expiry_order")
  else if freshId : row.id ∈ table.rows.map TokenRow.id then
    .error (.uniqueViolation "tokens_pkey")
  else if freshHash : row.tokenHash ∈ table.rows.map TokenRow.tokenHash then
    .error (.uniqueViolation "tokens_token_hash_key")
  else .ok
    { rows := table.rows ++ [row]
      ids_unique := by
        rw [List.map_append, List.nodup_append]
        refine ⟨table.ids_unique, by simp, ?_⟩
        rintro a mem b last rfl
        exact freshId (List.mem_singleton.mp last ▸ mem)
      hashes_unique := by
        rw [List.map_append, List.nodup_append]
        refine ⟨table.hashes_unique, by simp, ?_⟩
        rintro a mem b last rfl
        exact freshHash (List.mem_singleton.mp last ▸ mem) }

/-- The row `TokenRepository.lookup` starts from. -/
def find? (table : TokenTable) (hash : Bytes) (kind : TokenKind) : Option TokenRow :=
  table.rows.find? fun r => r.tokenHash = hash && r.kind = kind

/-- `TokenRepository.mark_used`: nothing happens to a token that is used. -/
def markUsed (table : TokenTable) (id : Uuid) (now : Timestamp) : TokenTable :=
  table.update (fun r => if r.id = id ∧ r.usedAt = none then { r with usedAt := some now } else r)
    fun r => by split <;> simp

/-- `SET revoked_at = now(), revoked_reason = $2 WHERE .. AND revoked_at IS NULL` -/
def revokeWhere (table : TokenTable) (which : TokenRow → Bool) (reason : String)
    (now : Timestamp) : TokenTable :=
  table.update
    (fun r => if which r && r.revokedAt.isNone then
      { r with revokedAt := some now, revokedReason := some reason } else r)
    fun r => by split <;> simp

/-- `SELECT count(*) FROM revoked` -/
def countRevoked (table : TokenTable) (which : TokenRow → Bool) : Nat :=
  (table.rows.filter fun r => which r && r.revokedAt.isNone).length

end TokenTable

/-! ## What statements do to rows -/

/-- Whatever happens to a row that exists. -/
structure RowAdvances (r r' : TokenRow) : Prop where
  id_eq : r'.id = r.id
  hash_eq : r'.tokenHash = r.tokenHash
  family_eq : r'.familyId = r.familyId
  used : r.usedAt ≠ none → r'.usedAt ≠ none
  revoked : r.revokedAt ≠ none → r'.revokedAt ≠ none

theorem RowAdvances.refl (r : TokenRow) : RowAdvances r r :=
  ⟨rfl, rfl, rfl, id, id⟩

/-- What any statement can do to the table: the rows advance, and at most one is
added, under an identifier that was free. -/
structure TableAdvances (t t' : TokenTable) (added : Option NewToken) : Prop where
  kept : ∀ r ∈ t.rows, ∃ r' ∈ t'.rows, RowAdvances r r'
  origin : ∀ r' ∈ t'.rows, (∃ r ∈ t.rows, RowAdvances r r') ∨
    ∃ token, added = some token ∧ r'.familyId = token.familyId ∧ ∀ r ∈ t.rows, r.id ≠ r'.id

theorem TableAdvances.refl (t : TokenTable) (added : Option NewToken) :
    TableAdvances t t added :=
  ⟨fun r mem => ⟨r, mem, .refl r⟩, fun r mem => .inl ⟨r, mem, .refl r⟩⟩

theorem tableAdvances_update {t : TokenTable} {f : TokenRow → TokenRow}
    (keeps : ∀ r, (f r).id = r.id ∧ (f r).tokenHash = r.tokenHash)
    (advances : ∀ r, RowAdvances r (f r)) : TableAdvances t (t.update f keeps) none := by
  refine ⟨?_, ?_⟩
  · intro r mem
    exact ⟨f r, List.mem_map_of_mem mem, advances r⟩
  · intro r' mem
    obtain ⟨r, inside, rfl⟩ := List.mem_map.mp mem
    exact .inl ⟨r, inside, advances r⟩

theorem tableAdvances_markUsed (t : TokenTable) (id : Uuid) (now : Timestamp) :
    TableAdvances t (t.markUsed id now) none := by
  refine tableAdvances_update _ ?_
  intro r
  split
  · exact ⟨rfl, rfl, rfl, by simp, by simp⟩
  · exact .refl r

theorem tableAdvances_revokeWhere (t : TokenTable) (which : TokenRow → Bool) (reason : String)
    (now : Timestamp) : TableAdvances t (t.revokeWhere which reason now) none := by
  refine tableAdvances_update _ ?_
  intro r
  split
  · exact ⟨rfl, rfl, rfl, by simp, by simp⟩
  · exact .refl r

/-- An insert that succeeds adds its row at the end. -/
theorem insert_rows_eq {t t' : TokenTable} {token : NewToken} {id : Uuid} {now : Timestamp}
    (h : t.insert token id now = .ok t') :
    t'.rows = t.rows ++ [TokenTable.newRow token id now] ∧ ∀ r ∈ t.rows, r.id ≠ id := by
  unfold TokenTable.insert at h
  simp only at h
  split at h
  · cases h
  · split at h
    · cases h
    · rename_i freshId
      split at h
      · cases h
      · obtain rfl := Except.ok.inj h
        refine ⟨rfl, ?_⟩
        intro r mem same
        exact freshId (List.mem_map.mpr ⟨r, mem, same⟩)

theorem tableAdvances_insert {t t' : TokenTable} {token : NewToken} {id : Uuid}
    {now : Timestamp} (h : t.insert token id now = .ok t') :
    TableAdvances t t' (some token) := by
  obtain ⟨shape, free⟩ := insert_rows_eq h
  refine ⟨?_, ?_⟩
  · intro r mem
    exact ⟨r, by simp [shape, mem], .refl r⟩
  · intro r' mem
    rw [shape] at mem
    rcases List.mem_append.mp mem with old | new
    · exact .inl ⟨r', old, .refl r'⟩
    · rw [List.mem_singleton.mp new]
      exact .inr ⟨token, rfl, rfl, free⟩

/-- After `mark_used`, the row is used. -/
theorem used_of_markUsed {t : TokenTable} {id : Uuid} {now : Timestamp} {r : TokenRow}
    (mem : r ∈ (t.markUsed id now).rows) (same : r.id = id) : r.usedAt ≠ none := by
  obtain ⟨r₀, -, rfl⟩ := List.mem_map.mp mem
  split
  · simp
  · rename_i not_both
    split at same
    · contradiction
    · exact fun unused => not_both ⟨same, unused⟩

/-- After a revocation, every row it is about is revoked. -/
theorem revoked_of_revokeWhere {t : TokenTable} {which : TokenRow → Bool} {reason : String}
    {now : Timestamp} {r : TokenRow}
    (mem : r ∈ (t.revokeWhere which reason now).rows) (hit : which r = true) :
    r.revokedAt ≠ none := by
  obtain ⟨r₀, -, rfl⟩ := List.mem_map.mp mem
  split
  · simp
  · rename_i not_both
    rw [if_neg not_both] at hit
    cases revoked : r₀.revokedAt with
    | none => simp [hit, revoked] at not_both
    | some _ => simp

/-- A row found is in the table under that hash. -/
theorem find?_spec {t : TokenTable} {hash : Bytes} {kind : TokenKind} {r : TokenRow}
    (h : t.find? hash kind = some r) : r ∈ t.rows ∧ r.tokenHash = hash := by
  refine ⟨List.mem_of_find?_eq_some h, ?_⟩
  have := List.find?_some h
  simp only [Bool.and_eq_true, decide_eq_true_eq] at this
  exact this.1

/-- `UNIQUE (token_hash)`: one hash, one row. -/
theorem row_eq_of_hash_eq (t : TokenTable) {a b : TokenRow} (memA : a ∈ t.rows)
    (memB : b ∈ t.rows) (same : a.tokenHash = b.tokenHash) : a = b :=
  List.inj_on_of_nodup_map t.hashes_unique memA memB same

end DoorsControl.Auth
