import DoorsControl.Audit.Chain
import DoorsControl.Kit.Pool

/-!
# Concurrent appends

`AuditRepository.append` as the database runs it: the column defaults are
evaluated first (`nextval`, `now()`), then the trigger takes the advisory lock,
reads the last `row_hash`, sets the hashes, and the transaction commits or aborts,
which frees the lock. Any number of appends run interleaved.

The lock serialises the reads and the inserts, but the sequence number is drawn
before it is taken.

* **appends in sequence order** — `append_verifies`: as long as every row commits
  with a `seq` above all committed ones, the table verifies in every state;
* **the failing schedule** — `append_misorders`: two appends that win the lock in
  the other order.
-/

namespace DoorsControl.Audit

/-- The statements of one append. -/
inductive AppendOp where
  | nextval
  | now
  | lock
  | lastRowHash
  | insert (row : AuditRow)

/-- What they give; an insert says whether its transaction committed. -/
abbrev AppendOp.Res : AppendOp → Type
  | .nextval => Int
  | .now => Timestamp
  | .lock => Unit
  | .lastRowHash => Bytes
  | .insert _ => Bool

/-- `AuditRepository.append`, returning `seq` if the row was committed. -/
def append (pg : Postgres) (entry : AuditEntry) :
    Kit.Prog AppendOp AppendOp.Res (Option Int) := do
  -- the defaults of the two columns that the INSERT does not give
  let seq ← Kit.Prog.perform .nextval
  let occurredAt ← Kit.Prog.perform .now
  -- audit_hash_chain
  let _ ← Kit.Prog.perform .lock
  let prev ← Kit.Prog.perform .lastRowHash
  let row := chainRow pg prev { entry with seq, occurredAt }
  let committed ← Kit.Prog.perform (.insert row)
  return if committed then some seq else none

/-- The table, the next value of `acs.audit_seq` and who holds the advisory
lock. -/
structure AppendStore where
  log : AuditLog
  auditSeq : Int
  lockedBy : Option Nat

/-- A new database: `START 1`. -/
def AppendStore.fresh : AppendStore := ⟨.empty, 1, none⟩

/-- What the environment decides: the clock, and whether a transaction commits. -/
structure AppendChoice where
  clock : Timestamp
  commits : Bool

/-- The database. `lock` waits for the holder; a sequence value is never given
back. -/
def appendServer : Kit.Server AppendStore AppendOp AppendOp.Res AppendChoice where
  exec
    | _, .nextval, _, s => some (s.auditSeq, { s with auditSeq := s.auditSeq + 1 })
    | _, .now, choice, s => some (choice.clock, s)
    | i, .lock, _, s =>
        match s.lockedBy with
        | none => some ((), { s with lockedBy := some i })
        | some _ => none
    | _, .lastRowHash, _, s => some (lastHash s.log.rows, s)
    | _, .insert row, choice, s =>
        if choice.commits then some (true, { s with log := s.log.insert row, lockedBy := none })
        else some (false, { s with lockedBy := none })

abbrev AppendCall := Kit.Call AuditEntry AppendOp AppendOp.Res (Option Int)
abbrev AppendPool := Kit.Pool AppendStore AuditEntry AppendOp AppendOp.Res (Option Int)
abbrev AppendAction := Kit.Action AuditEntry AppendChoice

def freshPool : AppendPool := ⟨.fresh, []⟩

/-- The guard: a row that is about to commit has a `seq` above every committed
one. -/
def inSequence (p : AppendPool) : AppendAction → Bool
  | .start _ => true
  | .run i choice =>
      match p.calls[i]? with
      | some ⟨_, _, .op (.insert row) _⟩ =>
          !choice.commits || p.store.log.rows.all fun r => r.seq < row.seq
      | _ => true

/-! ## What one append does -/

/-- Each statement of an append, with the statements before it. -/
def AppendOrder (pg : Postgres) (hist : List (Kit.Event AppendOp AppendOp.Res)) :
    AppendOp → Prop
  | .nextval => hist = []
  | .now => ∃ seq, hist = [⟨.nextval, seq⟩]
  | .lock => ∃ seq time, hist = [⟨.now, time⟩, ⟨.nextval, seq⟩]
  | .lastRowHash => ∃ seq time, hist = [⟨.lock, ()⟩, ⟨.now, time⟩, ⟨.nextval, seq⟩]
  | .insert row => ∃ (seq : Int) (time : Timestamp) (prev : Bytes) (entry : AuditEntry),
      hist = [⟨.lastRowHash, prev⟩, ⟨.lock, ()⟩, ⟨.now, time⟩, ⟨.nextval, seq⟩] ∧
        row = chainRow pg prev { entry with seq := seq, occurredAt := time }

theorem append_order (pg : Postgres) (entry : AuditEntry) :
    (append pg entry).Always (AppendOrder pg) (fun _ _ => True) [] := by
  refine ⟨rfl, fun seq => ⟨⟨seq, rfl⟩, fun time => ⟨⟨seq, time, rfl⟩, fun _ =>
    ⟨⟨seq, time, rfl⟩, fun prev => ⟨⟨seq, time, prev, entry, rfl, rfl⟩, fun _ => trivial⟩⟩⟩⟩⟩

/-- A call between taking the lock and the end of its transaction. -/
def Holding (hist : List (Kit.Event AppendOp AppendOp.Res)) : Prop :=
  ⟨.lock, ()⟩ ∈ hist ∧ ∀ row committed, ⟨.insert row, committed⟩ ∉ hist

/-- What holds of the database in every guarded run. -/
structure ChainInv (pg : Postgres) (s : AppendStore) : Prop where
  linked : (scheme pg).Linked auditGenesisHash s.log.rows
  nonneg : ∀ r ∈ s.log.rows, 0 ≤ r.seq
  next_nonneg : 0 ≤ s.auditSeq

/-- What holds of each call: the number it drew is not negative; while it is in
its critical section it holds the lock, and the hash it read is still the last. -/
structure CallInv (s : AppendStore) (i : Nat) (c : AppendCall) : Prop where
  drawn : ∀ seq, ⟨.nextval, seq⟩ ∈ c.hist → 0 ≤ seq
  holder : Holding c.hist → s.lockedBy = some i
  current : Holding c.hist → ∀ prev, ⟨.lastRowHash, prev⟩ ∈ c.hist → prev = lastHash s.log.rows

section Guarded

variable {pg : Postgres} {p : AppendPool}

/-- The next statement of a call, with the ones before it. -/
theorem order_of_reach {ok : AppendPool → AppendAction → Bool}
    (reach : Kit.Pool.Reach appendServer (append pg) ok freshPool p) {i : Nat} {req : AuditEntry}
    {hist : List (Kit.Event AppendOp AppendOp.Res)} {o : AppendOp}
    {next : o.Res → Kit.Prog AppendOp AppendOp.Res (Option Int)}
    (found : p.calls[i]? = some ⟨req, hist, .op o next⟩) : AppendOrder pg hist o := by
  have steps := reach.steps rfl _ (List.mem_of_getElem? found)
  exact ((append_order pg req).along steps).1

/-- A row whose `seq` is above all others goes to the end of the table. -/
theorem insert_rows {log : AuditLog} {row : AuditRow} (above : ∀ r ∈ log.rows, r.seq < row.seq) :
    (log.insert row).rows = log.rows ++ [row] := by
  have all : (log.rows.filter fun r => r.seq ≤ row.seq) = log.rows := by
    rw [List.filter_eq_self]
    intro r mem
    simpa using Int.le_of_lt (above r mem)
  have none : (log.rows.filter fun r => row.seq < r.seq) = [] := by
    rw [List.filter_eq_nil_iff]
    intro r mem
    have := above r mem
    simp only [decide_eq_true_eq]
    omega
  simp only [AuditLog.insert, all, none]

/-- A committed append keeps the chain: it was hashed over the last row. -/
theorem chainInv_insert {s : AppendStore} (inv : ChainInv pg s) {row : AuditRow}
    {content : AuditContent} (built : row = chainRow pg (lastHash s.log.rows) content)
    (nonneg : 0 ≤ row.seq) (above : ∀ r ∈ s.log.rows, r.seq < row.seq) (owner : Option Nat) :
    ChainInv pg { s with log := s.log.insert row, lockedBy := owner } := by
  refine ⟨?_, ?_, inv.next_nonneg⟩
  · rw [insert_rows above, Kit.ChainScheme.linked_concat]
    refine ⟨inv.linked, ?_⟩
    rw [← lastHash_eq_tip, built]
    exact ⟨rfl, rfl⟩
  · rw [insert_rows above]
    intro r mem
    rcases List.mem_append.mp mem with old | new
    · exact inv.nonneg r old
    · rw [List.mem_singleton.mp new]
      exact nonneg

/-- The calls that do not move, when neither the lock nor the table changes. -/
theorem CallInv.congr {s s' : AppendStore} {j : Nat} {c : AppendCall} (inv : CallInv s j c)
    (lock : s'.lockedBy = s.lockedBy) (log : s'.log = s.log) : CallInv s' j c := by
  refine ⟨inv.drawn, ?_, ?_⟩
  · rw [lock]
    exact inv.holder
  · rw [log]
    exact inv.current

/-- A call outside its critical section does not depend on the database. -/
theorem CallInv.of_not_holding {s s' : AppendStore} {j : Nat} {c : AppendCall}
    (inv : CallInv s j c) (out : ¬ Holding c.hist) : CallInv s' j c :=
  ⟨inv.drawn, fun holding => absurd holding out, fun holding => absurd holding out⟩

/-- One statement of one append in a guarded run. -/
theorem append_step {i : Nat} {choice : AppendChoice} {req : AuditEntry}
    {hist : List (Kit.Event AppendOp AppendOp.Res)} {o : AppendOp}
    {next : o.Res → Kit.Prog AppendOp AppendOp.Res (Option Int)} {r : o.Res}
    {store : AppendStore} (order : AppendOrder pg hist o) (inv : ChainInv pg p.store)
    (calls : ∀ j c, p.calls[j]? = some c → CallInv p.store j c)
    (guard : inSequence p (.run i choice) = true)
    (found : p.calls[i]? = some ⟨req, hist, .op o next⟩)
    (answer : appendServer.exec i o choice p.store = some (r, store)) :
    ChainInv pg store ∧ CallInv store i ⟨req, ⟨o, r⟩ :: hist, next r⟩ ∧
      ∀ j c, j ≠ i → p.calls[j]? = some c → CallInv store j c := by
  have own := calls i _ found
  cases o with
  | nextval =>
      obtain rfl := order
      obtain ⟨rfl, rfl⟩ := Prod.mk.inj (Option.some.inj answer)
      refine ⟨⟨inv.linked, inv.nonneg, by have := inv.next_nonneg; simp; omega⟩, ⟨?_, ?_, ?_⟩,
        fun j c _ get => (calls j c get).congr rfl rfl⟩
      · simp only [List.mem_singleton, Kit.Event.mk.injEq, heq_eq_eq, true_and]
        rintro seq rfl
        exact inv.next_nonneg
      · simp [Holding]
      · simp [Holding]
  | now =>
      obtain ⟨seq, rfl⟩ := order
      obtain ⟨rfl, rfl⟩ := Prod.mk.inj (Option.some.inj answer)
      refine ⟨inv, ⟨?_, ?_, ?_⟩, fun j c _ get => calls j c get⟩
      · simpa using own.drawn
      · simp [Holding]
      · simp [Holding]
  | lock =>
      obtain ⟨seq, time, rfl⟩ := order
      simp only [appendServer] at answer
      split at answer
      · rename_i free
        obtain ⟨rfl, rfl⟩ := Prod.mk.inj (Option.some.inj answer)
        refine ⟨⟨inv.linked, inv.nonneg, inv.next_nonneg⟩, ⟨?_, fun _ => rfl, ?_⟩, ?_⟩
        · simpa using own.drawn
        · simp
        · -- nobody else can be inside: the lock was free
          intro j c _ get
          refine (calls j c get).of_not_holding ?_
          intro holding
          rw [(calls j c get).holder holding] at free
          cases free
      · cases answer
  | lastRowHash =>
      obtain ⟨seq, time, rfl⟩ := order
      obtain ⟨rfl, rfl⟩ := Prod.mk.inj (Option.some.inj answer)
      refine ⟨inv, ⟨?_, ?_, ?_⟩, fun j c _ get => calls j c get⟩
      · simpa using own.drawn
      · intro _
        exact own.holder (by simp [Holding])
      · simp
  | insert row =>
      obtain ⟨seq, time, prev, entry, shape, built⟩ := order
      have inside : Holding hist := by simp [Holding, shape]
      have mine := own.holder inside
      have last : prev = lastHash p.store.log.rows := own.current inside prev (by simp [shape])
      have nonneg : 0 ≤ row.seq := by
        rw [built]
        exact own.drawn seq (by simp [shape])
      -- the lock was this call's, so the others do not depend on the table
      have others : ∀ s' j c, j ≠ i → p.calls[j]? = some c → CallInv s' j c := by
        intro s' j c ne get
        refine (calls j c get).of_not_holding ?_
        intro holding
        rw [(calls j c get).holder holding] at mine
        exact ne (Option.some.inj mine)
      have finished : ∀ s', CallInv s' i ⟨req, ⟨.insert row, r⟩ :: hist, next r⟩ := by
        have out : ¬ Holding (⟨.insert row, r⟩ :: hist) := fun holding => holding.2 row r (by simp)
        intro s'
        refine ⟨?_, fun holding => absurd holding out, fun holding => absurd holding out⟩
        simpa using own.drawn
      refine ⟨?_, finished store, others store⟩
      simp only [appendServer] at answer
      split at answer
      · rename_i commits
        obtain ⟨rfl, rfl⟩ := Prod.mk.inj (Option.some.inj answer)
        rw [last] at built
        have above : ∀ r ∈ p.store.log.rows, r.seq < row.seq := by
          simpa [inSequence, found, commits] using guard
        exact chainInv_insert inv built nonneg above none
      · obtain ⟨rfl, rfl⟩ := Prod.mk.inj (Option.some.inj answer)
        exact ⟨inv.linked, inv.nonneg, inv.next_nonneg⟩

end Guarded

/-- **Appends that commit in the order of their numbers keep the chain.** -/
theorem append_verifies (pg : Postgres) (p : AppendPool)
    (reach : Kit.Pool.Reach appendServer (append pg) inSequence freshPool p) :
    (verifyAuditChain pg p.store.log 0).chainOk = true := by
  have start : ChainInv pg freshPool.store :=
    ⟨trivial, by simp [freshPool, AppendStore.fresh, AuditLog.empty], by decide⟩
  have inv := reach.localInvariant (ChainInv pg) CallInv rfl start
    (fun store i req _ => ⟨by simp, by simp [Holding], by simp [Holding]⟩)
    (fun p i choice req hist o next r store reach global calls guard found answer =>
      append_step (order_of_reach reach found) global calls guard found answer)
  rw [verifyAuditChain_zero_iff, List.filter_eq_self.mpr (by simpa using inv.1.nonneg)]
  exact inv.1.linked

/-- Two appends, one after the other as far as the lock goes; the number of the
call that is served first is drawn by the call `drawsFirst`. -/
def twoAppends (drawsFirst other : Nat) : List AppendAction :=
  let serve (i : Nat) : List AppendAction :=
    [.run i ⟨0, true⟩, .run i ⟨0, true⟩, .run i ⟨0, true⟩, .run i ⟨0, true⟩]
  [.start (sampleContent 0 "auth.login").toAuditEntry,
   .start (sampleContent 0 "door.created").toAuditEntry,
   .run drawsFirst ⟨0, true⟩, .run other ⟨0, true⟩] ++ serve 0 ++ serve 1

theorem append_verifies_two :
    ∃ p : AppendPool, p.store.log.rows.length = 2 ∧
      (verifyAuditChain samplePostgres p.store.log 0).chainOk = true := by
  obtain ⟨p, ran⟩ : ∃ p, Kit.Pool.run appendServer (append samplePostgres) inSequence freshPool
      (twoAppends 0 1) = some p := ⟨_, rfl⟩
  refine ⟨p, ?_, append_verifies samplePostgres p (Kit.Pool.reach_of_run ran .init)⟩
  obtain rfl := Option.some.inj ran
  rfl

/-- Call 1 draws `seq` 1 and call 0 draws 2, but call 0 wins the lock: row 1 is
chained to row 2, and the verifier, which walks by `seq`, refuses the table. -/
theorem append_misorders :
    ∃ p : AppendPool,
      Kit.Pool.Reach appendServer (append samplePostgres) (fun _ _ => true) freshPool p ∧
        (verifyAuditChain samplePostgres p.store.log 0).chainOk = false := by
  obtain ⟨p, ran⟩ : ∃ p, Kit.Pool.run appendServer (append samplePostgres) (fun _ _ => true)
      freshPool (twoAppends 1 0) = some p := ⟨_, rfl⟩
  refine ⟨p, Kit.Pool.reach_of_run ran .init, ?_⟩
  obtain rfl := Option.some.inj ran
  decide +kernel

end DoorsControl.Audit
