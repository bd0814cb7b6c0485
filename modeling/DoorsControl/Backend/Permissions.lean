import DoorsControl.Audit.Chain
import DoorsControl.Backend.Doors
import DoorsControl.Kit.Table
import Mathlib.Data.List.Pairwise

/-!
# Permissions

`acs.permissions` of `003_core_tables.sql` and `PermissionRepository`. A time window belongs
to a time zone; what the time is there is for PostgreSQL to say (`Zones`), and a name it does
not know raises.

* `PermissionTable` — the rows under the primary key and the partial unique index;
* `grant`, `revoke` — the upsert and the update, with the constraints in the order in which
  PostgreSQL looks at them;
* `effective` — the live grant of a pair, with its window evaluated.
-/

namespace DoorsControl.Backend

open DoorsControl.Audit (Timestamp)

/-- A `time`, in microseconds since midnight. -/
abbrev TimeOfDay := Int

/-- `now() AT TIME ZONE ..`: the time and the ISO day of the week. -/
structure LocalTime where
  time : TimeOfDay
  isodow : Nat
  dow_range : 1 ≤ isodow ∧ isodow ≤ 7

abbrev Zones := Text → Timestamp → Option LocalTime

/-- The arguments of `grant`, the defaults included. -/
structure GrantArgs where
  userId : Uuid
  doorId : Uuid
  createdBy : Option Uuid
  weekdayMask : Int := 127
  startTime : TimeOfDay := 0
  /-- 23:59:59 -/
  endTime : TimeOfDay := 86399000000
  timeZone : Text := text "Europe/Sofia"
  validUntil : Option Timestamp := none
  deriving DecidableEq

/-- A row of `acs.permissions`. -/
structure PermissionRow extends GrantArgs where
  id : Uuid
  validFrom : Timestamp
  isActive : Bool
  deriving DecidableEq

def GrantArgs.pair (args : GrantArgs) : Uuid × Uuid := (args.userId, args.doorId)

namespace PermissionRow

/-- The checks of the table, by name. -/
def check (row : PermissionRow) : Except DbError Unit :=
  if row.validUntil.any (· ≤ row.validFrom) then .error (.checkViolation "permissions_validity_order")
  else if ¬ (0 ≤ row.weekdayMask ∧ row.weekdayMask ≤ 127) then
    .error (.checkViolation "permissions_weekday_mask_range")
  else if ¬ row.startTime < row.endTime then .error (.checkViolation "permissions_window_order")
  else .ok ()

/-- `is_active`, and `now()` within the validity. -/
def isLive (now : Timestamp) (row : PermissionRow) : Bool :=
  row.isActive && row.validFrom ≤ now && row.validUntil.all (now < ·)

/-- `within_window` -/
def isWithin (localTime : LocalTime) (row : PermissionRow) : Bool :=
  (row.weekdayMask >>> (localTime.isodow - 1)) % 2 = 1 &&
    row.startTime ≤ localTime.time && localTime.time ≤ row.endTime

/-- What the upsert sets in a row that is there. -/
def overwrite (args : GrantArgs) (row : PermissionRow) : PermissionRow :=
  { row with
    weekdayMask := args.weekdayMask
    startTime := args.startTime
    endTime := args.endTime
    timeZone := args.timeZone
    validUntil := args.validUntil }

def overwriteAt (id : Uuid) (args : GrantArgs) (row : PermissionRow) : PermissionRow :=
  if row.id = id then row.overwrite args else row

def deactivateAt (id : Uuid) (row : PermissionRow) : PermissionRow :=
  if row.id = id then { row with isActive := false } else row

end PermissionRow

/-- What `grant` inserts. -/
def GrantArgs.row (args : GrantArgs) (id : Uuid) (now : Timestamp) : PermissionRow :=
  { args with id, validFrom := now, isActive := true }

/-! ## The table -/

/-- Under `permissions_active_unique`. -/
structure PermissionTable extends Kit.Table PermissionRow PermissionRow.id where
  active_unique : rows.Pairwise fun a b => a.isActive → b.isActive → a.pair ≠ b.pair

namespace PermissionTable

variable {table : PermissionTable}

/-- An update that leaves the keys alone and activates no row. -/
def update (table : PermissionTable) (f : PermissionRow → PermissionRow)
    (keepsId : ∀ row, (f row).id = row.id) (keepsPair : ∀ row, (f row).pair = row.pair)
    (inactive : ∀ row, (f row).isActive → row.isActive) : PermissionTable where
  toTable := table.toTable.update f keepsId
  active_unique := by
    show (table.rows.map f).Pairwise _
    rw [List.pairwise_map]
    refine table.active_unique.imp ?_
    intro a b distinct activeA activeB
    rw [keepsPair, keepsPair]
    exact distinct (inactive a activeA) (inactive b activeB)

/-- The active row of a pair. -/
def active? (table : PermissionTable) (pair : Uuid × Uuid) : Option PermissionRow :=
  table.rows.find? fun row => row.isActive && row.pair = pair

theorem not_active_of_none {pair : Uuid × Uuid} (absent : table.active? pair = none) :
    ∀ row ∈ table.rows, row.isActive = true → row.pair ≠ pair := by
  intro row mem active same
  have refuted := List.find?_eq_none.mp absent row mem
  simp [active, same] at refuted

/-- One pair, one active row. -/
theorem eq_of_active (table : PermissionTable) {a b : PermissionRow} (memA : a ∈ table.rows)
    (memB : b ∈ table.rows) (activeA : a.isActive = true) (activeB : b.isActive = true)
    (same : a.pair = b.pair) : a = b := by
  by_contra different
  have apart : Std.Symm fun a b : PermissionRow =>
      a.isActive = true → b.isActive = true → a.pair ≠ b.pair :=
    ⟨fun a b distinct activeB activeA same => distinct activeA activeB same.symm⟩
  exact table.active_unique.forall memA memB different activeA activeB same

/-- A row for a pair that has no active one. -/
def insert (table : PermissionTable) (row : PermissionRow)
    (absent : table.active? row.pair = none) (fresh : row.id ∉ table.rows.map PermissionRow.id) :
    PermissionTable where
  rows := table.rows ++ [row]
  unique := by
    rw [List.map_append, List.nodup_append]
    refine ⟨table.unique, List.nodup_singleton _, ?_⟩
    intro a mem b last same
    subst same
    exact fresh (List.mem_singleton.mp last ▸ mem)
  active_unique := by
    rw [List.pairwise_append]
    refine ⟨table.active_unique, List.pairwise_singleton _ _, ?_⟩
    intro a mem b last activeA _
    rw [List.mem_singleton.mp last]
    exact not_active_of_none absent a mem activeA

def empty : PermissionTable := ⟨⟨[], List.nodup_nil⟩, List.Pairwise.nil⟩

end PermissionTable

theorem id_overwriteAt (id : Uuid) (args : GrantArgs) (row : PermissionRow) :
    (row.overwriteAt id args).id = row.id := by
  unfold PermissionRow.overwriteAt
  split_ifs <;> rfl

theorem pair_overwriteAt (id : Uuid) (args : GrantArgs) (row : PermissionRow) :
    (row.overwriteAt id args).pair = row.pair := by
  unfold PermissionRow.overwriteAt
  split_ifs <;> rfl

theorem active_overwriteAt (id : Uuid) (args : GrantArgs) (row : PermissionRow) :
    (row.overwriteAt id args).isActive → row.isActive := by
  unfold PermissionRow.overwriteAt
  split_ifs <;> exact fun active => active

theorem id_deactivateAt (id : Uuid) (row : PermissionRow) :
    (row.deactivateAt id).id = row.id := by
  unfold PermissionRow.deactivateAt
  split_ifs <;> rfl

theorem args_deactivateAt (id : Uuid) (row : PermissionRow) :
    (row.deactivateAt id).toGrantArgs = row.toGrantArgs := by
  unfold PermissionRow.deactivateAt
  split_ifs <;> rfl

theorem active_deactivateAt (id : Uuid) (row : PermissionRow) :
    (row.deactivateAt id).isActive → row.isActive := by
  unfold PermissionRow.deactivateAt
  split_ifs
  · exact nofun
  · exact fun active => active

/-! ## The repository -/

/-- The users and the doors that rows may refer to. -/
structure Referents where
  users : List Uuid
  doors : List Uuid

/-- The foreign keys of a row. -/
def Referents.check (known : Referents) (args : GrantArgs) : Except DbError Unit :=
  if args.userId ∉ known.users then .error (.foreignKeyViolation "permissions_user_id_fkey")
  else if args.doorId ∉ known.doors then .error (.foreignKeyViolation "permissions_door_id_fkey")
  else if args.createdBy.any (· ∉ known.users) then
    .error (.foreignKeyViolation "permissions_created_by_fkey")
  else .ok ()

/-- `PermissionRepository.grant`: the id that is returned, and the table. -/
def grant (known : Referents) (table : PermissionTable) (args : GrantArgs) (id : Uuid)
    (now : Timestamp) : Except DbError (Uuid × PermissionTable) := do
  (args.row id now).check
  match absent : table.active? args.pair with
  | some row =>
      -- `ON CONFLICT (user_id, door_id) WHERE is_active DO UPDATE`
      (row.overwrite args).check
      return (row.id, table.update (PermissionRow.overwriteAt row.id args)
        (id_overwriteAt row.id args) (pair_overwriteAt row.id args)
        (active_overwriteAt row.id args))
  | none =>
      if fresh : id ∈ table.rows.map PermissionRow.id then
        throw (.uniqueViolation "permissions_pkey")
      else
        known.check args
        return (id, table.insert (args.row id now) absent fresh)

theorem pair_deactivateAt (id : Uuid) (row : PermissionRow) :
    (row.deactivateAt id).pair = row.pair := congrArg GrantArgs.pair (args_deactivateAt id row)

/-- `PermissionRepository.revoke` -/
def revoke (table : PermissionTable) (permissionId : Uuid) : PermissionTable :=
  table.update (PermissionRow.deactivateAt permissionId) (id_deactivateAt permissionId)
    (pair_deactivateAt permissionId) (active_deactivateAt permissionId)

/-! ## The effective grant -/

/-- At least two digits. -/
def twoDigits (n : Nat) : List Char := ((Nat.toDigits 10 n).leftpad 2 '0')

/-- `str` of a `datetime.time` -/
def timeText (time : TimeOfDay) : Text :=
  let micros := time.toNat
  let seconds := micros / 1000000
  chars (twoDigits (seconds / 3600) ++ ':' :: twoDigits (seconds / 60 % 60) ++
    ':' :: twoDigits (seconds % 60) ++
    if micros % 1000000 = 0 then []
    else '.' :: (Nat.toDigits 10 (micros % 1000000)).leftpad 6 '0')

def PermissionRow.record (row : PermissionRow) (localTime : LocalTime) : PermissionRecord where
  withinWindow := row.isWithin localTime
  localTime := timeText localTime.time
  localDow := localTime.isodow
  startTime := timeText row.startTime
  endTime := timeText row.endTime
  timeZone := row.timeZone

/-- The condition of `effective`. -/
def PermissionRow.isFor (userId doorId : Uuid) (now : Timestamp) (row : PermissionRow) : Bool :=
  row.userId = userId && row.doorId = doorId && row.isLive now

/-- `PermissionRepository.effective` -/
def PermissionTable.effective (table : PermissionTable) (zones : Zones) (now : Timestamp)
    (userId doorId : Uuid) : Except PyError (Option PermissionRecord) :=
  match table.rows.find? (PermissionRow.isFor userId doorId now) with
  | none => .ok none
  | some row =>
      match zones row.timeZone now with
      | none => .error (.other (text "InvalidParameterValueError"))
      | some localTime => .ok (some (row.record localTime))

/-- A live row is the one that is found. -/
theorem PermissionTable.find_isFor (table : PermissionTable) {userId doorId : Uuid}
    {now : Timestamp} {row : PermissionRow} (mem : row ∈ table.rows)
    (isRow : row.isFor userId doorId now = true) :
    table.rows.find? (PermissionRow.isFor userId doorId now) = some row := by
  have isSome : (table.rows.find? (PermissionRow.isFor userId doorId now)).isSome = true :=
    List.find?_isSome.mpr ⟨row, mem, isRow⟩
  obtain ⟨other, found⟩ := Option.isSome_iff_exists.mp isSome
  have isOther := List.find?_some found
  simp only [PermissionRow.isFor, PermissionRow.isLive, Bool.and_eq_true, decide_eq_true_eq]
    at isRow isOther
  rw [found, table.eq_of_active (List.mem_of_find?_eq_some found) mem isOther.2.1.1 isRow.2.1.1
    (Prod.ext (isOther.1.1.trans isRow.1.1.symm) (isOther.1.2.trans isRow.1.2.symm))]

/-- A row that is in effect, and inside its window. -/
theorem PermissionTable.effective_within_iff (table : PermissionTable) {zones : Zones}
    {now : Timestamp} {userId doorId : Uuid} :
    (∃ permission, table.effective zones now userId doorId = .ok (some permission) ∧
        permission.withinWindow = true) ↔
      ∃ row ∈ table.rows, row.isFor userId doorId now = true ∧
        ∃ localTime, zones row.timeZone now = some localTime ∧ row.isWithin localTime = true := by
  constructor
  · rintro ⟨permission, granted, inside⟩
    unfold effective at granted
    split at granted
    · cases granted
    · rename_i row found
      split at granted
      · cases granted
      · rename_i localTime known
        obtain rfl := Option.some.inj (Except.ok.inj granted)
        exact ⟨row, List.mem_of_find?_eq_some found, List.find?_some found, localTime, known, inside⟩
  · rintro ⟨row, mem, isRow, localTime, known, inside⟩
    refine ⟨row.record localTime, ?_, inside⟩
    unfold effective
    rw [table.find_isFor mem isRow]
    simp only [known]

end DoorsControl.Backend
