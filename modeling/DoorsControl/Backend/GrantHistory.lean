import DoorsControl.Backend.Permissions

/-!
# The history of grants

`docs/04-api.md`: "A user holds at most one live grant per door; posting again updates it. The
previous row stays for the record with `is_active = false`". Grants and revocations run here
one after the other, with the grants that succeeded written down beside the table.

`grant` overwrites the active row of a pair and leaves its `created_by` alone, so that the
history is kept as long as no grant meets an active row:

* `keepsRecord_step` — one operation that does not;
* `history_preserved` — **a run of them**;
* `history_lost` — a second grant by another administrator.
-/

namespace DoorsControl.Backend

open DoorsControl.Audit (Timestamp)

/-- A grant that succeeded, with the id it returned. -/
structure Granted where
  id : Uuid
  args : GrantArgs
  deriving DecidableEq

/-- The table, and the grants that led to it, the oldest first. -/
structure GrantState where
  table : PermissionTable
  history : List Granted

inductive GrantStep where
  /-- with the id that is drawn -/
  | grant (args : GrantArgs) (id : Uuid) (now : Timestamp)
  | revoke (permissionId : Uuid)

namespace GrantState

/-- An operation that raises leaves the table alone. -/
def step (known : Referents) (s : GrantState) : GrantStep → GrantState
  | .grant args id now =>
      match Backend.grant known s.table args id now with
      | .ok (id, table) => ⟨table, s.history ++ [⟨id, args⟩]⟩
      | .error _ => s
  | .revoke permissionId => { s with table := Backend.revoke s.table permissionId }

/-- Before the first grant. -/
def start : GrantState := ⟨PermissionTable.empty, []⟩

/-- The states that operations within `ok` lead to. -/
inductive Reach (known : Referents) (ok : GrantState → GrantStep → Prop) : GrantState → Prop
  | start : Reach known ok start
  | step {s : GrantState} (op : GrantStep) :
      Reach known ok s → ok s op → Reach known ok (s.step known op)

/-! ## What is claimed of the history -/

/-- At most one row of a pair is active. -/
def OneActive (s : GrantState) : Prop :=
  ∀ a ∈ s.table.rows, ∀ b ∈ s.table.rows, a.isActive = true → b.isActive = true →
    a.pair = b.pair → a = b

/-- The active row of a pair carries the parameters and the `created_by` of its latest grant. -/
def LatestActive (s : GrantState) : Prop :=
  ∀ row ∈ s.table.rows, row.isActive = true → ∃ before granted after,
    s.history = before ++ granted :: after ∧ row.id = granted.id ∧
      row.toGrantArgs = granted.args ∧ ∀ later ∈ after, later.args.pair ≠ granted.args.pair

/-- Every earlier grant of a pair is there as an inactive row of its own. -/
def EarlierKept (s : GrantState) : Prop :=
  ∀ before granted after, s.history = before ++ granted :: after →
    (∃ later ∈ after, later.args.pair = granted.args.pair) →
      ∃ row ∈ s.table.rows, row.id = granted.id ∧ row.isActive = false ∧
        row.toGrantArgs = granted.args

structure Preserved (s : GrantState) : Prop where
  one : s.OneActive
  latest : s.LatestActive
  earlier : s.EarlierKept

/-! ## One row for each grant -/

/-- A grant meets no active row of its pair. -/
def MeetsNoActive (s : GrantState) : GrantStep → Prop
  | .grant args _ _ => s.table.active? args.pair = none
  | .revoke _ => True

/-- The grant that a row is the record of. -/
def recordOf (row : PermissionRow) : Granted := ⟨row.id, row.toGrantArgs⟩

/-- The rows are the grants in their order, and only the latest of a pair may be active. -/
structure KeepsRecord (s : GrantState) : Prop where
  recorded : s.table.rows.map recordOf = s.history
  superseded : s.table.rows.Pairwise fun older newer =>
    older.isActive = true → older.pair ≠ newer.pair

theorem keepsRecord_start : KeepsRecord start := ⟨rfl, List.Pairwise.nil⟩

/-- What `grant` does where no row of the pair is active. -/
theorem grant_inserts {known : Referents} {table table' : PermissionTable} {args : GrantArgs}
    {drawn id : Uuid} {now : Timestamp} (absent : table.active? args.pair = none)
    (granted : grant known table args drawn now = .ok (id, table')) :
    id = drawn ∧ table'.rows = table.rows ++ [args.row drawn now] := by
  unfold grant at granted
  cases checked : (args.row drawn now).check with
  | error e =>
      rw [checked] at granted
      cases granted
  | ok _ =>
      rw [checked] at granted
      simp only [bind, Except.bind] at granted
      split at granted
      · rename_i row found
        rw [found] at absent
        cases absent
      · split_ifs at granted
        split at granted
        · cases granted
        · obtain ⟨same, rfl⟩ := Prod.mk.inj (Except.ok.inj granted)
          exact ⟨same.symm, rfl⟩

theorem recordOf_deactivateAt (id : Uuid) : recordOf ∘ PermissionRow.deactivateAt id = recordOf := by
  funext row
  show Granted.mk _ _ = Granted.mk _ _
  rw [id_deactivateAt, args_deactivateAt]

theorem KeepsRecord.grant {s : GrantState} (inv : KeepsRecord s) {args : GrantArgs} {id : Uuid}
    {now : Timestamp} {table : PermissionTable} (absent : s.table.active? args.pair = none)
    (rows : table.rows = s.table.rows ++ [args.row id now]) :
    KeepsRecord ⟨table, s.history ++ [⟨id, args⟩]⟩ where
  recorded := by
    rw [rows, List.map_append, inv.recorded]
    rfl
  superseded := by
    rw [rows, List.pairwise_append]
    refine ⟨inv.superseded, List.pairwise_singleton _ _, ?_⟩
    -- an active row of the new row's pair would have been found
    intro older mem newer last active
    rw [List.mem_singleton.mp last]
    exact PermissionTable.not_active_of_none absent older mem active

theorem KeepsRecord.revoke {s : GrantState} (inv : KeepsRecord s) (permissionId : Uuid) :
    KeepsRecord { s with table := Backend.revoke s.table permissionId } where
  recorded := by
    show (s.table.rows.map _).map recordOf = s.history
    rw [List.map_map, recordOf_deactivateAt, inv.recorded]
  superseded := by
    show (s.table.rows.map _).Pairwise _
    rw [List.pairwise_map]
    refine inv.superseded.imp ?_
    intro older newer distinct active
    rw [pair_deactivateAt, pair_deactivateAt]
    exact distinct (active_deactivateAt _ older active)

/-- One operation that meets no active row. -/
theorem KeepsRecord.step {known : Referents} {s : GrantState} {op : GrantStep}
    (inv : KeepsRecord s) (meets : s.MeetsNoActive op) : KeepsRecord (s.step known op) := by
  cases op with
  | revoke permissionId => exact inv.revoke permissionId
  | grant args drawn now =>
      unfold GrantState.step
      cases granted : Backend.grant known s.table args drawn now with
      | error e => simpa [granted] using inv
      | ok result =>
          obtain ⟨id, table⟩ := result
          obtain ⟨rfl, rows⟩ := grant_inserts meets granted
          simpa only [granted] using inv.grant meets rows

theorem keepsRecord_of_reach {known : Referents} {s : GrantState}
    (reach : Reach known MeetsNoActive s) : KeepsRecord s := by
  induction reach with
  | start => exact keepsRecord_start
  | step op _ meets ih => exact ih.step meets

/-! ## What follows -/

/-- The partial unique index. -/
theorem oneActive (s : GrantState) : s.OneActive :=
  fun _ memA _ memB activeA activeB same =>
    s.table.eq_of_active memA memB activeA activeB same

/-- A grant and the row it is recorded in, at the same place. -/
theorem KeepsRecord.split {s : GrantState} (inv : KeepsRecord s) {before after : List Granted}
    {granted : Granted} (shape : s.history = before ++ granted :: after) :
    ∃ rowsBefore row rowsAfter, s.table.rows = rowsBefore ++ row :: rowsAfter ∧
      recordOf row = granted ∧ rowsAfter.map recordOf = after := by
  have mapped := inv.recorded.trans shape
  obtain ⟨rowsBefore, rest, rows, -, isRest⟩ := List.map_eq_append_iff.mp mapped
  obtain ⟨row, rowsAfter, rfl, isRow, isAfter⟩ := List.map_eq_cons_iff.mp isRest
  exact ⟨rowsBefore, row, rowsAfter, rows, isRow, isAfter⟩

theorem KeepsRecord.latestActive {s : GrantState} (inv : KeepsRecord s) : s.LatestActive := by
  intro row mem active
  obtain ⟨rowsBefore, rowsAfter, rows⟩ := List.append_of_mem mem
  have shape := inv.recorded
  rw [rows, List.map_append, List.map_cons] at shape
  refine ⟨_, recordOf row, _, shape.symm, rfl, rfl, ?_⟩
  intro later inAfter same
  obtain ⟨newer, memNewer, rfl⟩ := List.mem_map.mp inAfter
  have ordered := inv.superseded
  rw [rows, List.pairwise_append] at ordered
  exact (List.pairwise_cons.mp ordered.2.1).1 newer memNewer active same.symm

theorem KeepsRecord.earlierKept {s : GrantState} (inv : KeepsRecord s) : s.EarlierKept := by
  intro before granted after shape superseded
  obtain ⟨later, inAfter, same⟩ := superseded
  obtain ⟨rowsBefore, row, rowsAfter, rows, rfl, rfl⟩ := inv.split shape
  obtain ⟨newer, memNewer, rfl⟩ := List.mem_map.mp inAfter
  refine ⟨row, ?_, rfl, ?_, rfl⟩
  · rw [rows]
    exact List.mem_append_right _ List.mem_cons_self
  · have ordered := inv.superseded
    rw [rows, List.pairwise_append] at ordered
    by_contra active
    rw [Bool.not_eq_false] at active
    exact (List.pairwise_cons.mp ordered.2.1).1 newer memNewer active same.symm

end GrantState

open GrantState

/-- **The history of grants.** As long as no grant meets an active row of its pair, there is at
most one of them, it carries the latest grant, and every earlier one is kept as it was. -/
theorem history_preserved (known : Referents) (s : GrantState)
    (reach : Reach known MeetsNoActive s) : s.Preserved where
  one := oneActive s
  latest := (keepsRecord_of_reach reach).latestActive
  earlier := (keepsRecord_of_reach reach).earlierKept

/-! ## Two administrators -/

/-- A user, two administrators and a door. -/
def labReferents : Referents := ⟨[1, 8, 9], [5]⟩

/-- Working days, granted by the first administrator. -/
def workingDays : GrantArgs := { userId := 1, doorId := 5, createdBy := some 8, weekdayMask := 31 }

/-- The weekend, granted by the second one. -/
def weekend : GrantArgs := { userId := 1, doorId := 5, createdBy := some 9, weekdayMask := 96 }

/-- The first grant is revoked before the second. -/
def regrantedInOrder : GrantState :=
  ((start.step labReferents (.grant workingDays 100 0)).step labReferents (.revoke 100)).step
    labReferents (.grant weekend 101 1000000)

theorem history_preserved_sample :
    regrantedInOrder.table.rows.map (fun row => (row.createdBy, row.weekdayMask, row.isActive)) =
      [(some 8, 31, false), (some 9, 96, true)] ∧ regrantedInOrder.Preserved :=
  ⟨by decide, history_preserved labReferents regrantedInOrder
    (.step _ (.step _ (.step _ .start rfl) trivial) rfl)⟩

/-- It is not. -/
def regranted : GrantState :=
  (start.step labReferents (.grant workingDays 100 0)).step labReferents (.grant weekend 101 1000000)

/-- Of the first grant only its administrator is left. -/
theorem history_lost : ¬ ∀ s, Reach labReferents (fun _ _ => True) s → s.Preserved := by
  intro claim
  have preserved := claim regranted (.step _ (.step _ .start trivial) trivial)
  obtain ⟨row, mem, -, inactive, -⟩ := preserved.earlier [] ⟨100, workingDays⟩ [⟨100, weekend⟩]
    (by decide) ⟨_, List.mem_cons_self, rfl⟩
  have active : ∀ row ∈ regranted.table.rows, row.isActive = true := by decide
  rw [active row mem] at inactive
  cases inactive

end DoorsControl.Backend
