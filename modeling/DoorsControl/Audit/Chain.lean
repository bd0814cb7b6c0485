import DoorsControl.Kit.HashChain
import DoorsControl.Kit.Sha256
import DoorsControl.Data.Json
import Mathlib.Data.List.Nodup

/-!
# The audit table, its trigger and its verifier

Migrations 004 and 005: the columns of `acs.audit_log`, the canonical
serialisation `audit_payload`, the BEFORE INSERT trigger `audit_hash_chain`, the
verifier `verify_audit_chain` and the anchor `audit_chain_head`.

The server's own functions (`sha256`, `to_char`, `host`, `jsonb` output) are the
fields of `Postgres`. An `AuditLog` is the table as `ORDER BY seq` lists it; rows
of equal `seq`, which the primary key `(seq, occurred_at)` allows, stand in the
order the scan gives them.
-/

namespace DoorsControl.Audit

/-- `acs.audit_outcome` -/
inductive AuditOutcome where
  | success
  | failure
  | denied
  deriving DecidableEq, Repr

def AuditOutcome.label : AuditOutcome → Text
  | .success => text "success"
  | .failure => text "failure"
  | .denied => text "denied"

/-- `acs.actor_type` -/
inductive ActorType where
  | user
  | device
  | controller
  | admin
  | system
  | anonymous
  deriving DecidableEq, Repr

def ActorType.label : ActorType → Text
  | .user => text "user"
  | .device => text "device"
  | .controller => text "controller"
  | .admin => text "admin"
  | .system => text "system"
  | .anonymous => text "anonymous"

/-- `timestamptz`, in microseconds from 1970-01-01 UTC. -/
abbrev Timestamp := Int

/-- `inet`: an address with its mask length. -/
structure Inet where
  address : Bytes
  masklen : Nat
  deriving DecidableEq, Repr

/-- The server functions that the migrations call. -/
structure Postgres where
  sha256 : Bytes → Bytes
  /-- `to_char(t AT TIME ZONE 'UTC', 'YYYY-MM-DD"T"HH24:MI:SS.US"Z"')` -/
  toChar : Timestamp → Text
  host : Inet → Text
  /-- `detail::text` -/
  jsonbOut : Json Text → Text

/-- The columns an `INSERT` gives. -/
structure AuditEntry where
  eventType : Text
  outcome : AuditOutcome
  actorType : ActorType
  actorId : Option Uuid
  deviceId : Option Uuid
  doorId : Option Uuid
  controllerId : Option Uuid
  clientIp : Option Inet
  detail : Json Text

/-- The eleven columns that `audit_payload` serialises: those given and the two
that have a default. -/
structure AuditContent extends AuditEntry where
  seq : Int
  occurredAt : Timestamp

/-- A row of `acs.audit_log`. -/
structure AuditRow extends AuditContent where
  prevHash : Bytes
  rowHash : Bytes

/-- `acs.audit_genesis_hash()` -/
def auditGenesisHash : Bytes := List.replicate 32 0

/-- `coalesce(x::text, '')` -/
def coalesceText {α : Type} (out : α → Text) (value : Option α) : Text :=
  (value.map out).getD []

/-- `acs.audit_payload`. The columns that may be null are coalesced, so that
`concat_ws` skips none of them. -/
def auditPayload (pg : Postgres) (row : AuditContent) : Bytes :=
  utf8 (List.intercalate [codePoint '\x1f']
    [chars (decimal row.seq),
     pg.toChar row.occurredAt,
     row.eventType,
     row.outcome.label,
     row.actorType.label,
     coalesceText uuidText row.actorId,
     coalesceText uuidText row.deviceId,
     coalesceText uuidText row.doorId,
     coalesceText uuidText row.controllerId,
     coalesceText pg.host row.clientIp,
     pg.jsonbOut row.detail])

/-- `audit_payload(..) || v_prev`, hashed. -/
def contentHash (pg : Postgres) (row : AuditContent) (prev : Bytes) : Bytes :=
  pg.sha256 (auditPayload pg row ++ prev)

/-- The table, in the order of `seq`. -/
structure AuditLog where
  rows : List AuditRow
  ordered : rows.Pairwise fun a b => a.seq ≤ b.seq

namespace AuditLog

def empty : AuditLog := ⟨[], List.Pairwise.nil⟩

/-- Rows that satisfy a `WHERE` clause. -/
def restrict (log : AuditLog) (keep : AuditRow → Bool) : AuditLog :=
  ⟨log.rows.filter keep, log.ordered.filter _⟩

/-- The table with one more row. -/
def insert (log : AuditLog) (row : AuditRow) : AuditLog where
  rows := log.rows.filter (fun r => r.seq ≤ row.seq) ++
    row :: log.rows.filter (fun r => row.seq < r.seq)
  ordered := by
    rw [List.pairwise_append]
    refine ⟨log.ordered.filter _, ?_, ?_⟩
    · rw [List.pairwise_cons]
      refine ⟨?_, log.ordered.filter _⟩
      intro r mem
      have := (List.mem_filter.mp mem).2
      simp only [decide_eq_true_eq] at this
      omega
    · intro a memA b memB
      have before := (List.mem_filter.mp memA).2
      simp only [decide_eq_true_eq] at before
      rcases List.mem_cons.mp memB with rfl | memB
      · exact before
      · have after := (List.mem_filter.mp memB).2
        simp only [decide_eq_true_eq] at after
        omega

end AuditLog

/-- `SELECT row_hash .. ORDER BY seq DESC LIMIT 1`, coalesced to the genesis
hash. -/
def lastHash (rows : List AuditRow) : Bytes :=
  (rows.getLast?.map fun r => r.rowHash).getD auditGenesisHash

/-- The end of the trigger: `NEW` with both hashes set from `v_prev`. Whatever
hashes came with the insert are overwritten. -/
def chainRow (pg : Postgres) (prev : Bytes) (content : AuditContent) : AuditRow :=
  { content with prevHash := prev, rowHash := contentHash pg content prev }

/-- `acs.audit_hash_chain`: the row the database stores for `content`, given the
table the trigger sees. -/
def auditHashChain (pg : Postgres) (log : AuditLog) (content : AuditContent) : AuditRow :=
  chainRow pg (lastHash log.rows) content

/-- The row `verify_audit_chain` returns. -/
structure ChainStatus where
  chainOk : Bool
  rowsChecked : Nat
  firstBadSeq : Option Int
  firstBadReason : Option String
  deriving DecidableEq, Repr

def linkReason : String :=
  "prev_hash does not match the preceding row: a row was removed, reordered, or " ++
    "inserted out of band"

def contentReason : String :=
  "row_hash does not match the row contents: this row was modified after it was written"

/-- The loop of `verify_audit_chain`, with `v_prev` and `v_count`; a bad row ends
it (`EXIT`). -/
def walkChain (pg : Postgres) : Bytes → Nat → List AuditRow → ChainStatus
  | _, count, [] => ⟨true, count, none, none⟩
  | prev, count, r :: rest =>
      if r.prevHash ≠ prev then
        ⟨false, count + 1, some r.seq, some linkReason⟩
      else if r.rowHash ≠ contentHash pg r.toAuditContent prev then
        ⟨false, count + 1, some r.seq, some contentReason⟩
      else walkChain pg r.rowHash (count + 1) rest

/-- `acs.verify_audit_chain(p_from_seq)` -/
def verifyAuditChain (pg : Postgres) (log : AuditLog) (fromSeq : Int) : ChainStatus :=
  let prev :=
    if fromSeq ≤ 0 then auditGenesisHash
    else lastHash (log.restrict fun r => r.seq < fromSeq).rows
  walkChain pg prev 0 (log.restrict fun r => fromSeq ≤ r.seq).rows

/-- `acs.audit_chain_head()` -/
def auditChainHead (log : AuditLog) : Option (Int × Timestamp × Bytes) :=
  log.rows.getLast?.map fun r => (r.seq, r.occurredAt, r.rowHash)

/-! ## The table as a hash chain -/

/-- The chain that the trigger builds and the verifier walks. -/
def scheme (pg : Postgres) : Kit.ChainScheme AuditRow Bytes Bytes Bytes where
  content := fun r => auditPayload pg r.toAuditContent
  prev := AuditRow.prevHash
  digest := AuditRow.rowHash
  mix := fun payload prev => payload ++ prev
  hash := pg.sha256

/-- What a correctly linked row is the hash of. -/
def hashInput (pg : Postgres) (r : AuditRow) : Bytes :=
  auditPayload pg r.toAuditContent ++ r.prevHash

/-- What is assumed of `sha256` on a set of rows: 32-byte digests, no collision
between the inputs of these rows, and none of them hashing to the genesis hash. -/
structure CollisionFree (pg : Postgres) (rows : Set AuditRow) : Prop where
  digest_length : ∀ x, (pg.sha256 x).length = 32
  injOn : Set.InjOn pg.sha256 (hashInput pg '' rows)
  ne_genesis : ∀ r ∈ rows, pg.sha256 (hashInput pg r) ≠ auditGenesisHash

/-- A 32-byte hash at the end of an input can be told from what stands before
it, although nothing separates the two. -/
theorem CollisionFree.sound {pg : Postgres} {rows : Set AuditRow}
    (h : CollisionFree pg rows) :
    (scheme pg).Sound auditGenesisHash (fun d => d.length = 32) rows where
  valid_start := by simp [auditGenesisHash]
  valid_hash := h.digest_length
  mix_inj := fun _ _ _ _ hd hd' same =>
    List.append_inj' same (hd.trans hd'.symm)
  inj := h.injOn
  ne_start := h.ne_genesis

@[simp] theorem scheme_digest (pg : Postgres) (r : AuditRow) :
    (scheme pg).digest r = r.rowHash := rfl

theorem follows_iff (pg : Postgres) (prev : Bytes) (r : AuditRow) :
    (scheme pg).Follows prev r ↔
      r.prevHash = prev ∧ r.rowHash = contentHash pg r.toAuditContent prev := Iff.rfl

/-- One turn of the loop that finds nothing wrong. -/
theorem walkChain_cons {pg : Postgres} {prev : Bytes} {r : AuditRow}
    (follows : (scheme pg).Follows prev r) (count : Nat) (rest : List AuditRow) :
    walkChain pg prev count (r :: rest) = walkChain pg r.rowHash (count + 1) rest := by
  rw [follows_iff] at follows
  rw [walkChain, if_neg (by simp [follows.1]), if_neg (by simp [follows.2])]

/-- A chain is walked to its end. -/
theorem walkChain_of_linked {pg : Postgres} {prev : Bytes} {rows : List AuditRow}
    (linked : (scheme pg).Linked prev rows) (count : Nat) :
    walkChain pg prev count rows = ⟨true, count + rows.length, none, none⟩ := by
  induction rows generalizing prev count with
  | nil => rfl
  | cons r rest ih =>
      have more := ih linked.2 (count + 1)
      rw [scheme_digest] at more
      rw [walkChain_cons linked.1, more, List.length_cons, Nat.add_right_comm, Nat.add_assoc]

/-- The walk goes along a chain and stops at the first row that does not follow,
with the reason of the check that failed first. -/
theorem walkChain_of_broken {pg : Postgres} {prev : Bytes} {pre : List AuditRow}
    (linked : (scheme pg).Linked prev pre) {r : AuditRow}
    (broken : ¬ (scheme pg).Follows ((scheme pg).tip prev pre) r)
    (rest : List AuditRow) (count : Nat) :
    walkChain pg prev count (pre ++ r :: rest) =
      ⟨false, count + pre.length + 1, some r.seq,
        some (if r.prevHash ≠ (scheme pg).tip prev pre then linkReason else contentReason)⟩ := by
  induction pre generalizing prev count with
  | nil =>
      rw [follows_iff] at broken
      simp only [Kit.ChainScheme.tip_nil, List.nil_append, List.length_nil, Nat.add_zero,
        walkChain] at broken ⊢
      by_cases link : r.prevHash = prev
      · have content : r.rowHash ≠ contentHash pg r.toAuditContent prev :=
          fun same => broken ⟨link, same⟩
        simp [link, content]
      · simp [link]
  | cons head tail ih =>
      have more := ih linked.2 broken (count + 1)
      rw [scheme_digest] at more
      rw [List.cons_append, walkChain_cons linked.1, more, List.length_cons,
        Kit.ChainScheme.tip_cons, scheme_digest, Nat.add_right_comm count 1, Nat.add_assoc count]

/-- Any list of rows is a chain, or a chain up to a first row that does not
follow. -/
theorem linked_or_broken (pg : Postgres) (prev : Bytes) (rows : List AuditRow) :
    (scheme pg).Linked prev rows ∨
      ∃ pre r rest, rows = pre ++ r :: rest ∧ (scheme pg).Linked prev pre ∧
        ¬ (scheme pg).Follows ((scheme pg).tip prev pre) r := by
  induction rows generalizing prev with
  | nil => exact .inl trivial
  | cons r rest ih =>
      by_cases follows : (scheme pg).Follows prev r
      · rcases ih r.rowHash with linked | ⟨pre, b, post, shape, linked, broken⟩
        · exact .inl ⟨follows, linked⟩
        · refine .inr ⟨r :: pre, b, post, ?_, ⟨follows, linked⟩, broken⟩
          rw [shape, List.cons_append]
      · exact .inr ⟨[], r, rest, rfl, trivial, follows⟩

/-- The verifier's walk accepts exactly the chains. -/
theorem walkChain_ok_iff (pg : Postgres) (prev : Bytes) (count : Nat) (rows : List AuditRow) :
    (walkChain pg prev count rows).chainOk = true ↔ (scheme pg).Linked prev rows := by
  constructor
  · intro ok
    rcases linked_or_broken pg prev rows with linked | ⟨pre, r, rest, rfl, linked, broken⟩
    · exact linked
    · rw [walkChain_of_broken linked broken] at ok
      cases ok
  · intro linked
    rw [walkChain_of_linked linked]

theorem lastHash_eq_tip (pg : Postgres) (rows : List AuditRow) :
    lastHash rows = (scheme pg).tip auditGenesisHash rows := by
  rcases List.eq_nil_or_concat rows with rfl | ⟨init, r, rfl⟩
  · rfl
  · rw [List.concat_eq_append, Kit.ChainScheme.tip_concat]
    simp [lastHash, scheme]

/-- `verify_audit_chain(0)` accepts a table iff its rows from `seq` 0 on are a
chain from the genesis hash. -/
theorem verifyAuditChain_zero_iff (pg : Postgres) (log : AuditLog) :
    (verifyAuditChain pg log 0).chainOk = true ↔
      (scheme pg).Linked auditGenesisHash (log.rows.filter fun r => 0 ≤ r.seq) := by
  simp [verifyAuditChain, walkChain_ok_iff, AuditLog.restrict]

/-! ## A concrete server

For runs on given rows: the real SHA-256, and the output functions at the values
these rows have. -/

def samplePostgres : Postgres where
  sha256 := Kit.Sha256.sha256
  toChar := fun _ => text "1970-01-01T00:00:00.000000Z"
  host := fun _ => []
  jsonbOut := fun _ => text "\x7b\x7d"

/-- A row without any optional column, written at the epoch. -/
def sampleContent (seq : Int) (eventType : String) : AuditContent where
  seq := seq
  occurredAt := 0
  eventType := text eventType
  outcome := .success
  actorType := .system
  actorId := none
  deviceId := none
  doorId := none
  controllerId := none
  clientIp := none
  detail := .obj []

/-- The table after inserts one by one. -/
def appendAll (pg : Postgres) (log : AuditLog) (contents : List AuditContent) : AuditLog :=
  contents.foldl (fun log content => log.insert (auditHashChain pg log content)) log

/-- Two rows written by the trigger. -/
def sampleLog : AuditLog :=
  appendAll samplePostgres .empty [sampleContent 1 "door.created", sampleContent 2 "auth.login"]

/-- Rows whose digests differ from each other and from the genesis hash. -/
theorem collisionFree_of_nodup {pg : Postgres} {S : Set AuditRow} (rows : List AuditRow)
    (length : ∀ x, (pg.sha256 x).length = 32) (sub : ∀ r ∈ S, r ∈ rows)
    (nodup : (auditGenesisHash :: rows.map fun r => pg.sha256 (hashInput pg r)).Nodup) :
    CollisionFree pg S := by
  rw [List.nodup_cons] at nodup
  refine ⟨length, ?_, ?_⟩
  · rintro _ ⟨a, memA, rfl⟩ _ ⟨b, memB, rfl⟩ same
    rw [List.inj_on_of_nodup_map nodup.2 (sub a memA) (sub b memB) same]
  · intro r mem same
    exact nodup.1 (same ▸ List.mem_map_of_mem (sub r mem))

end DoorsControl.Audit
