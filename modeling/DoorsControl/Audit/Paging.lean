import DoorsControl.Audit.Append
import DoorsControl.Kit.Machine
import DoorsControl.Kit.Paging

/-!
# Reading the audit log while it grows

`GET /admin/v1/audit` gives one page; the next one is asked for with `before_seq`, the `seq` of the
last row that was shown. Appends go on in the meantime, statement by statement, and may commit a
row far below the last one: a sequence number is drawn before the lock is taken.

* `DrawnApart` — no two rows have one `seq`, however the appends are interleaved;
* `walk_complete` — **a reader misses no row that was there when it began**, and sees none twice.
-/

namespace DoorsControl.Audit

open Kit (Reaches)
open Kit.Paging (Walk page)

/-- The `WHERE` of `recent`, but for `before_seq`. -/
def selected (eventType : Option Text) (actorId : Option Uuid) (row : AuditRow) : Bool :=
  (match eventType with
    | none => true
    | some name => row.eventType = name) &&
  match actorId with
  | none => true
  | some id => row.actorId = some id

/-- `AuditRepository.recent`; a negative `LIMIT` raises. -/
def recent (log : AuditLog) (limit : Int) (beforeSeq : Option Int) (eventType : Option Text)
    (actorId : Option Uuid) : Option (List AuditRow) :=
  if limit < 0 then none
  else some (page (fun row : AuditRow => row.seq) (selected eventType actorId) limit.toNat beforeSeq
    log.rows)

/-- `read_audit` of `admin/main.py`. -/
def readAudit (log : AuditLog) (limit : Int) (beforeSeq : Option Int) (eventType : Option Text) :
    Option (List AuditRow) := recent log (min limit 500) beforeSeq eventType none

/-! ## Sequence numbers -/

abbrev AppendReach (pg : Postgres) (p : AppendPool) : Prop :=
  Kit.Pool.Reach appendServer (append pg) (fun _ _ => true) freshPool p

/-- Every number was drawn by one call, and a row is in the table once. -/
structure DrawnApart (p : AppendPool) : Prop where
  drawn : ∀ (i : Nat) (c : AppendCall) (seq : Int), p.calls[i]? = some c →
    ⟨.nextval, seq⟩ ∈ c.hist → seq < p.store.auditSeq
  apart : ∀ (i j : Nat) (c d : AppendCall) (seq : Int), p.calls[i]? = some c →
    p.calls[j]? = some d → ⟨.nextval, seq⟩ ∈ c.hist → ⟨.nextval, seq⟩ ∈ d.hist → i = j
  rows : ∀ row ∈ p.store.log.rows, ∃ (i : Nat) (c : AppendCall), p.calls[i]? = some c ∧
    ⟨.nextval, row.seq⟩ ∈ c.hist ∧ ⟨.insert row, true⟩ ∈ c.hist
  distinct : (p.store.log.rows.map fun row => row.seq).Nodup

theorem insert_perm (log : AuditLog) (row : AuditRow) :
    (log.insert row).rows.Perm (row :: log.rows) := by
  have parts : (log.rows.filter (fun r => r.seq ≤ row.seq) ++
      log.rows.filter fun r => row.seq < r.seq).Perm log.rows := by
    have opposite : (log.rows.filter fun r => row.seq < r.seq) =
        log.rows.filter fun r => !decide (r.seq ≤ row.seq) := by
      refine List.filter_congr fun r _ => ?_
      rw [← decide_not]
      exact decide_eq_decide.mpr Int.not_le.symm
    rw [opposite]
    exact List.filter_append_perm _ _
  exact List.perm_middle.trans (parts.cons row)

section Step

variable {pg : Postgres} {p : AppendPool} {i : Nat} {req : AuditEntry}
  {hist : List (Kit.Event AppendOp AppendOp.Res)} {o : AppendOp}
  {next : o.Res → Kit.Prog AppendOp AppendOp.Res (Option Int)} {r : o.Res}

/-- A call that goes on has all that it had, and one event more. -/
theorem get_calls {store : AppendStore} (found : p.calls[i]? = some ⟨req, hist, .op o next⟩)
    {j : Nat} {c : AppendCall}
    (isCall : (Kit.Pool.mk store (p.calls.set i ⟨req, ⟨o, r⟩ :: hist, next r⟩)).calls[j]? = some c) :
    ∃ d, p.calls[j]? = some d ∧ (c.hist = d.hist ∨ j = i ∧ c.hist = ⟨o, r⟩ :: d.hist) := by
  rcases Kit.Pool.get_set_cases isCall with ⟨rfl, rfl⟩ | ⟨-, old⟩
  · exact ⟨_, found, .inr ⟨rfl, rfl⟩⟩
  · exact ⟨c, old, .inl rfl⟩

/-- An operation that draws nothing draws nothing new. -/
theorem DrawnApart.others (inv : DrawnApart p) (found : p.calls[i]? = some ⟨req, hist, .op o next⟩)
    (draws : ∀ seq, (⟨.nextval, seq⟩ : Kit.Event AppendOp AppendOp.Res) ≠ ⟨o, r⟩)
    {store : AppendStore} (isSeq : store.auditSeq = p.store.auditSeq)
    (rows : ∀ row ∈ store.log.rows, row ∈ p.store.log.rows ∨
      o = .insert row ∧ HEq r true ∧ ⟨.nextval, row.seq⟩ ∈ hist)
    (distinct : (store.log.rows.map fun row => row.seq).Nodup) :
    DrawnApart ⟨store, p.calls.set i ⟨req, ⟨o, r⟩ :: hist, next r⟩⟩ := by
  have before : ∀ {j : Nat} {c : AppendCall} {seq : Int},
      (Kit.Pool.mk store (p.calls.set i ⟨req, ⟨o, r⟩ :: hist, next r⟩)).calls[j]? = some c →
      ⟨.nextval, seq⟩ ∈ c.hist → ∃ d, p.calls[j]? = some d ∧ ⟨.nextval, seq⟩ ∈ d.hist := by
    intro j c seq isCall mem
    obtain ⟨d, old, same | ⟨-, more⟩⟩ := get_calls found isCall
    · exact ⟨d, old, same ▸ mem⟩
    · rw [more] at mem
      rcases List.mem_cons.mp mem with new | mem
      · exact absurd new (draws seq)
      · exact ⟨d, old, mem⟩
  have started := (List.getElem?_eq_some_iff.mp found).1
  have own : (p.calls.set i ⟨req, ⟨o, r⟩ :: hist, next r⟩)[i]? =
      some ⟨req, ⟨o, r⟩ :: hist, next r⟩ := List.getElem?_set_self started
  refine ⟨?_, ?_, ?_, distinct⟩
  · intro j c seq isCall mem
    obtain ⟨d, old, inside⟩ := before isCall mem
    show seq < store.auditSeq
    rw [isSeq]
    exact inv.drawn j d seq old inside
  · intro j k c d seq isCall isCall' mem mem'
    obtain ⟨c', old, inside⟩ := before isCall mem
    obtain ⟨d', old', inside'⟩ := before isCall' mem'
    exact inv.apart j k c' d' seq old old' inside inside'
  · intro row mem
    rcases rows row mem with old | ⟨rfl, stored, isDrawn⟩
    · obtain ⟨j, c, isCall, isDrawn, inserted⟩ := inv.rows row old
      by_cases same : j = i
      · subst same
        obtain rfl := Option.some.inj (found.symm.trans isCall)
        exact ⟨j, _, own, List.mem_cons_of_mem _ isDrawn, List.mem_cons_of_mem _ inserted⟩
      · exact ⟨j, c, (List.getElem?_set_ne (Ne.symm same)).trans isCall, isDrawn, inserted⟩
    · obtain rfl := eq_of_heq stored
      exact ⟨i, _, own, List.mem_cons_of_mem _ isDrawn, List.mem_cons_self⟩

/-- **One statement of one append keeps the numbers apart.** -/
theorem DrawnApart.exec (inv : DrawnApart p) (order : AppendOrder pg hist o)
    (found : p.calls[i]? = some ⟨req, hist, .op o next⟩) {choice : AppendChoice}
    {store : AppendStore} (answered : appendServer.exec i o choice p.store = some (r, store)) :
    DrawnApart ⟨store, p.calls.set i ⟨req, ⟨o, r⟩ :: hist, next r⟩⟩ := by
  cases o with
  | nextval =>
      obtain ⟨rfl, rfl⟩ := Prod.mk.inj (Option.some.inj answered)
      have isFirst : hist = [] := order
      subst isFirst
      have started := (List.getElem?_eq_some_iff.mp found).1
      have fresh : ∀ {j : Nat} {c : AppendCall}, p.calls[j]? = some c →
          ⟨.nextval, p.store.auditSeq⟩ ∉ c.hist := by
        intro j c isCall mem
        exact absurd (inv.drawn j c _ isCall mem) (Int.lt_irrefl _)
      -- the number is the call's own, and of no other
      have cases : ∀ {j : Nat} {c : AppendCall} {seq : Int},
          (p.calls.set i ⟨req, [⟨.nextval, p.store.auditSeq⟩], next p.store.auditSeq⟩)[j]? = some c →
          ⟨.nextval, seq⟩ ∈ c.hist → (j = i ∧ seq = p.store.auditSeq) ∨
            ∃ d, p.calls[j]? = some d ∧ ⟨.nextval, seq⟩ ∈ d.hist := by
        intro j c seq isCall mem
        rcases Kit.Pool.get_set_cases isCall with ⟨rfl, rfl⟩ | ⟨-, old⟩
        · refine .inl ⟨rfl, ?_⟩
          have same := List.mem_singleton.mp mem
          exact eq_of_heq (Kit.Event.mk.inj same).2
        · exact .inr ⟨c, old, mem⟩
      refine ⟨?_, ?_, ?_, inv.distinct⟩
      · intro j c seq isCall mem
        show seq < p.store.auditSeq + 1
        rcases cases isCall mem with ⟨-, rfl⟩ | ⟨d, old, inside⟩
        · omega
        · have := inv.drawn j d seq old inside
          omega
      · intro j k c d seq isCall isCall' mem mem'
        rcases cases isCall mem with ⟨rfl, rfl⟩ | ⟨c', old, inside⟩
        · rcases cases isCall' mem' with ⟨rfl, -⟩ | ⟨d', old', inside'⟩
          · rfl
          · exact absurd inside' (fresh old')
        · rcases cases isCall' mem' with ⟨rfl, rfl⟩ | ⟨d', old', inside'⟩
          · exact absurd inside (fresh old)
          · exact inv.apart j k c' d' seq old old' inside inside'
      · intro row mem
        obtain ⟨j, c, isCall, isDrawn, inserted⟩ := inv.rows row mem
        have apart : j ≠ i := by
          rintro rfl
          obtain rfl := Option.some.inj (found.symm.trans isCall)
          cases isDrawn
        exact ⟨j, c, (List.getElem?_set_ne (Ne.symm apart)).trans isCall, isDrawn, inserted⟩
  | now =>
      obtain ⟨rfl, rfl⟩ := Prod.mk.inj (Option.some.inj answered)
      exact inv.others found (by simp) rfl (fun _ mem => .inl mem) inv.distinct
  | lock =>
      simp only [appendServer] at answered
      split at answered
      · obtain ⟨rfl, rfl⟩ := Prod.mk.inj (Option.some.inj answered)
        exact inv.others found (by simp) rfl (fun _ mem => .inl mem) inv.distinct
      · cases answered
  | lastRowHash =>
      obtain ⟨rfl, rfl⟩ := Prod.mk.inj (Option.some.inj answered)
      exact inv.others found (by simp) rfl (fun _ mem => .inl mem) inv.distinct
  | insert row =>
      obtain ⟨seq, time, prev, entry, shape, built⟩ := order
      have isDrawn : ⟨.nextval, row.seq⟩ ∈ hist := by rw [shape, built]; simp [chainRow]
      simp only [appendServer] at answered
      split at answered
      · obtain ⟨rfl, rfl⟩ := Prod.mk.inj (Option.some.inj answered)
        have perm := insert_perm p.store.log row
        refine inv.others found (by simp) rfl ?_ ?_
        · intro other mem
          rcases List.mem_cons.mp (perm.subset mem) with rfl | old
          · exact .inr ⟨rfl, HEq.rfl, isDrawn⟩
          · exact .inl old
        · refine ((perm.map _).nodup_iff).mpr (List.nodup_cons.mpr ⟨?_, inv.distinct⟩)
          intro mem
          obtain ⟨old, inTable, same⟩ := List.mem_map.mp mem
          obtain ⟨j, c, isCall, hasDrawn, inserted⟩ := inv.rows old inTable
          rw [same] at hasDrawn
          obtain rfl := inv.apart j i c _ row.seq isCall found hasDrawn isDrawn
          obtain rfl := Option.some.inj (found.symm.trans isCall)
          -- the call has not inserted anything yet
          rw [shape] at inserted
          simp at inserted
      · obtain ⟨rfl, rfl⟩ := Prod.mk.inj (Option.some.inj answered)
        exact inv.others found (by simp) rfl (fun _ mem => .inl mem) inv.distinct

end Step

/-- **No two rows have one sequence number**, whatever the interleaving. -/
theorem drawnApart_of_reach {pg : Postgres} {p : AppendPool} (reach : AppendReach pg p) :
    DrawnApart p := by
  refine reach.invariant DrawnApart ⟨by simp [freshPool], by simp [freshPool],
    by simp [freshPool, AppendStore.fresh, AuditLog.empty],
    by simp [freshPool, AppendStore.fresh, AuditLog.empty]⟩ ?_
  intro p a q reach inv _ stepped
  rcases Kit.Pool.step_cases stepped with
    ⟨req, rfl, rfl⟩ | ⟨i, choice, req, hist, o, next, r, store, rfl, found, answered, rfl⟩
  · have old : ∀ {j : Nat} {c : AppendCall} {seq : Int},
        (p.calls ++ [⟨req, [], append pg req⟩])[j]? = some c → ⟨.nextval, seq⟩ ∈ c.hist →
          p.calls[j]? = some c := by
      intro j c seq isCall mem
      rcases Kit.Pool.get_append_cases isCall with known | rfl
      · exact known
      · cases mem
    refine ⟨?_, ?_, ?_, inv.distinct⟩
    · intro j c seq isCall mem
      exact inv.drawn j c seq (old isCall mem) mem
    · intro j k c d seq isCall isCall' mem mem'
      exact inv.apart j k c d seq (old isCall mem) (old isCall' mem') mem mem'
    · intro row mem
      obtain ⟨j, c, isCall, isDrawn, inserted⟩ := inv.rows row mem
      exact ⟨j, c, Kit.Pool.get_append_old isCall, isDrawn, inserted⟩
  · exact inv.exec (order_of_reach reach found) found answered

/-- No row leaves the table. -/
theorem rows_of_step {pg : Postgres} {p q : AppendPool} {a : AppendAction}
    (stepped : Kit.Pool.step appendServer (append pg) p a = some q) :
    p.store.log.rows ⊆ q.store.log.rows := by
  rcases Kit.Pool.step_cases stepped with
    ⟨req, rfl, rfl⟩ | ⟨i, choice, req, hist, o, next, r, store, rfl, found, answered, rfl⟩
  · exact List.Subset.refl _
  · cases o with
    | nextval | now | lastRowHash =>
        obtain ⟨rfl, rfl⟩ := Prod.mk.inj (Option.some.inj answered)
        exact List.Subset.refl _
    | lock =>
        simp only [appendServer] at answered
        split at answered
        · obtain ⟨rfl, rfl⟩ := Prod.mk.inj (Option.some.inj answered)
          exact List.Subset.refl _
        · cases answered
    | insert row =>
        simp only [appendServer] at answered
        split at answered
        · obtain ⟨rfl, rfl⟩ := Prod.mk.inj (Option.some.inj answered)
          exact fun other mem =>
            (insert_perm p.store.log row).symm.subset (List.mem_cons_of_mem _ mem)
        · obtain ⟨rfl, rfl⟩ := Prod.mk.inj (Option.some.inj answered)
          exact List.Subset.refl _

/-- With distinct numbers, the table is in strict order. -/
theorem DrawnApart.sorted {p : AppendPool} (inv : DrawnApart p) :
    p.store.log.rows.Pairwise fun a b => a.seq < b.seq := by
  have apart : p.store.log.rows.Pairwise fun a b => a.seq ≠ b.seq :=
    List.pairwise_map.mp inv.distinct
  exact (p.store.log.ordered.and apart).imp fun both => lt_of_le_of_ne both.1 both.2

/-! ## The reader -/

/-- The appends, and a reader among them. -/
structure Reading where
  pool : AppendPool
  walk : Walk AuditRow Int

inductive ReadAction where
  | append (action : AppendAction)
  | page (limit : Int)

/-- A page that raises leaves the reader where it was. -/
def Reading.step (pg : Postgres) (eventType : Option Text) (s : Reading) :
    ReadAction → Option Reading
  | .append action =>
      (Kit.Pool.step appendServer (append pg) s.pool action).map fun pool => { s with pool }
  | .page limit =>
      (readAudit s.pool.store.log limit s.walk.cursor eventType).map fun rows =>
        { s with walk := s.walk.add (fun row => row.seq) rows }

/-- A page has room for a row. -/
def Reading.roomy (_ : Reading) : ReadAction → Bool
  | .append _ => true
  | .page limit => 1 ≤ limit

/-- One page of a reader. -/
theorem step_page (pg : Postgres) (eventType : Option Text) (s : Reading) {limit : Int}
    (room : 1 ≤ limit) : s.step pg eventType (.page limit) = some { s with
      walk := s.walk.read (fun row => row.seq) (selected eventType none) (min limit 500).toNat
        s.pool.store.log.rows } := by
  have within : ¬ min limit 500 < 0 := by omega
  rw [Reading.step, readAudit, recent, if_neg within]
  rfl

/-- Pages with nothing between them. -/
theorem schedule_pages (pg : Postgres) (eventType : Option Text) (s : Reading) {limit : Int}
    (room : 1 ≤ limit) (pages : Nat) :
    Kit.schedule (Reading.step pg eventType) Reading.roomy s (List.replicate pages (.page limit)) =
      some { s with
        walk := (Walk.read (fun row => row.seq) (selected eventType none) (min limit 500).toNat
          s.pool.store.log.rows)^[pages] s.walk } := by
  induction pages generalizing s with
  | zero => rfl
  | succ pages ih =>
      have allowed : s.roomy (.page limit) = true := decide_eq_true room
      rw [List.replicate_succ, Kit.schedule, if_pos allowed, step_page pg eventType s room,
        Option.bind_some, ih, Function.iterate_succ_apply]

/-- **A reader misses no row that was there when it began.** In every interleaving of pages and
appends, what was shown has the event type that was asked for, is in the table, and is in
descending order without repetition; and after an empty page every row of that type which was there
at the beginning has been shown. Left alone, the reader comes to that page. -/
theorem walk_complete (pg : Postgres) (eventType : Option Text) {before : AppendPool}
    (began : AppendReach pg before) {s : Reading}
    (reach : Reaches (Reading.step pg eventType) Reading.roomy ⟨before, Walk.start⟩ s) :
    (∀ row ∈ s.walk.seen, row ∈ s.pool.store.log.rows ∧ selected eventType none row = true) ∧
    (s.walk.seen.Pairwise fun a b => b.seq < a.seq) ∧
    (s.walk.done = true → ∀ row ∈ before.store.log.rows, selected eventType none row = true →
      row ∈ s.walk.seen) ∧
    ∀ (limit : Int) (pages : Nat), 1 ≤ limit →
      s.pool.store.log.rows.length ≤ pages * (min limit 500).toNat →
      ∃ s', Kit.schedule (Reading.step pg eventType) Reading.roomy s
        (List.replicate (pages + 1) (.page limit)) = some s' ∧ s'.walk.done = true := by
  have inv : AppendReach pg s.pool ∧ s.walk.Ok (fun row : AuditRow => row.seq)
      (selected eventType none) before.store.log.rows s.pool.store.log.rows := by
    refine reach.invariant (fun s => AppendReach pg s.pool ∧
      s.walk.Ok (fun row : AuditRow => row.seq) (selected eventType none) before.store.log.rows
        s.pool.store.log.rows) ⟨began, Walk.ok_start _⟩ ?_
    rintro s a s' - ⟨pool, ok⟩ allowed stepped
    cases a with
    | append action =>
        obtain ⟨pool', taken, rfl⟩ := Option.map_eq_some_iff.mp stepped
        exact ⟨pool.step rfl taken, ok.grows (rows_of_step taken)⟩
    | page limit =>
        have room : 1 ≤ limit := of_decide_eq_true allowed
        rw [step_page pg eventType s room] at stepped
        obtain rfl := Option.some.inj stepped
        exact ⟨pool, ok.read (drawnApart_of_reach pool).sorted (by omega)⟩
  refine ⟨inv.2.real, inv.2.descending, inv.2.complete, ?_⟩
  intro limit pages room enough
  refine ⟨_, schedule_pages pg eventType s room (pages + 1), ?_⟩
  refine Kit.Paging.reads_done (drawnApart_of_reach inv.1).sorted (by omega) pages ?_
  refine le_trans ?_ enough
  rw [Kit.Paging.remaining, List.length_reverse]
  exact List.length_filter_le _ _

/-- Two appends of which the second one to draw a number has committed. -/
def lateBefore : AppendPool :=
  (Kit.Pool.run appendServer (append samplePostgres) (fun _ _ => true) freshPool
    ((twoAppends 1 0).take 8)).getD freshPool

/-- The other one commits after the first page, which has room for one row. -/
def lateRow : List ReadAction :=
  [.page 1, .append (.run 1 ⟨0, true⟩), .append (.run 1 ⟨0, true⟩), .append (.run 1 ⟨0, true⟩),
    .append (.run 1 ⟨0, true⟩), .page 1, .page 1]

theorem walk_complete_late : ∃ s, AppendReach samplePostgres lateBefore ∧
    Reaches (Reading.step samplePostgres none) Reading.roomy ⟨lateBefore, Walk.start⟩ s ∧
    lateBefore.store.log.rows.map (fun row => row.seq) = [2] ∧
    s.walk.seen.map (fun row => row.seq) = [2, 1] ∧ s.walk.done = true ∧
    ∀ row ∈ lateBefore.store.log.rows, selected none none row = true → row ∈ s.walk.seen := by
  have ran : Kit.Pool.run appendServer (append samplePostgres) (fun _ _ => true) freshPool
      ((twoAppends 1 0).take 8) = some lateBefore := rfl
  have began : AppendReach samplePostgres lateBefore := Kit.Pool.reach_of_run ran .init
  obtain ⟨s, walked⟩ : ∃ s, Kit.schedule (Reading.step samplePostgres none) Reading.roomy
      ⟨lateBefore, Walk.start⟩ lateRow = some s := ⟨_, rfl⟩
  have reach := Kit.reaches_of_schedule walked .start
  obtain rfl := Option.some.inj walked
  exact ⟨_, began, reach, rfl, rfl, rfl, (walk_complete samplePostgres none began reach).2.2.1 rfl⟩

end DoorsControl.Audit
