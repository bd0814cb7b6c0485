import DoorsControl.Data.Text

/-!
# Privileges on the partitions

The first of the three layers of `004_audit_log.sql`: "acs_app and acs_audit hold INSERT
and SELECT. No UPDATE, no DELETE, no TRUNCATE." Privileges are set in three places: the
default privileges of the role that creates a table, the statements of
`ensure_audit_partition`, and the one-off statements of migration 006.

A table that a role creates gets that role's default privileges, as a partition too, and
a partition that is named directly is checked by its own privileges. Everything after
`001_roles.sql` runs as `acs_migrate`, so the functions are that role's, and the
`SECURITY DEFINER` trigger runs as it.

* `extends_runCalls` — what a sequence of calls adds;
* `grants_hold_iff` — **when the grant layer holds** for every partition;
* `grants_fail` — the first month that nobody asked for before migration 006.
-/

namespace DoorsControl.Audit

inductive Role where
  | acsMigrate
  | acsApp
  | acsAudit
  deriving DecidableEq, Repr

/-- A role, or `PUBLIC`. -/
abbrev Grantee := Option Role

inductive Privilege where
  | select
  | insert
  | update
  | delete
  | truncate
  | references
  | trigger
  deriving DecidableEq, Repr

def Privilege.all : List Privilege :=
  [.select, .insert, .update, .delete, .truncate, .references, .trigger]

/-- The entries of an access control list; the owner needs none. -/
abbrev Acl := List (Grantee × Privilege)

/-- `GRANT privileges .. TO grantees` -/
def grant (acl : Acl) (privileges : List Privilege) (grantees : List Grantee) : Acl :=
  acl ++ grantees.flatMap fun grantee => privileges.map fun privilege => (grantee, privilege)

/-- `REVOKE privileges .. FROM grantees` -/
def revoke (acl : Acl) (privileges : List Privilege) (grantees : List Grantee) : Acl :=
  acl.filter fun entry => !(grantees.contains entry.1 && privileges.contains entry.2)

/-- What a role may do, in its own name or in that of `PUBLIC`. -/
def holds (acl : Acl) (role : Role) (privilege : Privilege) : Bool :=
  acl.contains (some role, privilege) || acl.contains (none, privilege)

structure Partition where
  name : List Char
  acl : Acl

/-- The audit tables of schema `acs`, with the default privileges for tables. -/
structure Catalog where
  auditLog : Acl
  partitions : List Partition
  defaults : Role → Acl

def padLeft (width n : Nat) : List Char :=
  List.replicate (width - (Nat.toDigits 10 n).length) '0' ++ Nat.toDigits 10 n

/-- `format('audit_log_%s', to_char(v_start, 'YYYY_MM'))` for the month with that number,
January of year 0 being month 0. `YYYY` prints 1 BC, which is year 0, as `0001`. -/
def partitionName (month : Int) : List Char :=
  let year := month.fdiv 12
  let printed := if year ≤ 0 then 1 - year else year
  "audit_log_".toList ++ padLeft 4 printed.toNat ++ '_' :: padLeft 2 (month.fmod 12 + 1).toNat

/-- `acs.ensure_audit_partition`, run as that role. -/
def ensureAuditPartition (role : Role) (catalog : Catalog) (month : Int) : Catalog :=
  if catalog.partitions.any fun partition => partition.name = partitionName month then catalog
  else
    -- CREATE TABLE acs.%I PARTITION OF acs.audit_log ..
    let acl := catalog.defaults role
    let acl := revoke acl [.update, .delete, .truncate] [none]
    let acl := grant acl [.select, .insert] [some .acsApp, some .acsAudit]
    { catalog with partitions := catalog.partitions ++ [⟨partitionName month, acl⟩] }

/-- The calls that create partitions. -/
inductive PartitionCall where
  /-- `ensure_audit_partition`, from cron -/
  | ensure (month : Int)
  /-- `ensure_audit_partitions_ahead(months)`, from cron, in that month -/
  | ahead (current : Int) (months : Int)
  /-- the trigger, for a row of that month -/
  | insert (month : Int)

/-- The months a call asks for, in turn. -/
def PartitionCall.months : PartitionCall → List Int
  | .ensure month => [month]
  | .ahead current months =>
      (List.range ((max (months - 1) 0).toNat + 1)).map fun i => current + i
  | .insert month => [month]

/-- Cron connects as `acs_migrate`; the trigger function belongs to it. -/
def PartitionCall.runsAs (_ : PartitionCall) : Role := .acsMigrate

def PartitionCall.exec (call : PartitionCall) (catalog : Catalog) : Catalog :=
  call.months.foldl (ensureAuditPartition call.runsAs) catalog

/-- Calls one after another. -/
def runCalls (catalog : Catalog) (calls : List PartitionCall) : Catalog :=
  calls.foldl (fun catalog call => call.exec catalog) catalog

/-- After migration 004: nobody but the owner has anything. -/
def Catalog.created : Catalog := ⟨[], [], fun _ => []⟩

/-- A statement on all tables in the schema. -/
def Catalog.onAllTables (catalog : Catalog) (f : Acl → Acl) : Catalog :=
  { catalog with
    auditLog := f catalog.auditLog
    partitions := catalog.partitions.map fun partition => { partition with acl := f partition.acl } }

def Catalog.onAuditLog (catalog : Catalog) (f : Acl → Acl) : Catalog :=
  { catalog with auditLog := f catalog.auditLog }

/-- `ALTER DEFAULT PRIVILEGES FOR ROLE role IN SCHEMA acs .. ON TABLES` -/
def Catalog.alterDefaults (catalog : Catalog) (role : Role) (f : Acl → Acl) : Catalog :=
  { catalog with
    defaults := fun other => if other = role then f (catalog.defaults other) else catalog.defaults other }

/-- `006_grants.sql`, as far as the audit tables go. -/
def migration006 (catalog : Catalog) : Catalog :=
  let services : List Grantee := [some .acsApp, some .acsAudit]
  catalog
    |>.onAllTables (revoke · Privilege.all [none])
    |>.onAuditLog (grant · [.select, .insert] [some .acsApp])
    |>.onAuditLog (grant · [.select, .insert] [some .acsAudit])
    |>.onAuditLog (revoke · [.update, .delete, .truncate] services)
    |>.onAllTables (revoke · [.delete] services)
    |>.onAllTables (revoke · [.truncate] services)
    |>.alterDefaults .acsMigrate (revoke · Privilege.all [none])
    |>.alterDefaults .acsMigrate (grant · [.select, .insert, .update] [some .acsApp])

/-- The database after migration 006. The calls before it start with the
`ensure_audit_partitions_ahead(2)` of migration 005. -/
def migrated (before : List PartitionCall) : Catalog :=
  migration006 (runCalls .created before)

/-- Neither service role can change or remove a row. -/
def Guarded (acl : Acl) : Prop :=
  ∀ role ∈ [Role.acsApp, .acsAudit], ∀ privilege ∈ [Privilege.update, .delete, .truncate],
    holds acl role privilege = false

instance (acl : Acl) : Decidable (Guarded acl) := inferInstanceAs (Decidable (∀ role ∈ _, _))

/-! ## What calls add -/

/-- All months that calls ask for. -/
def asked (calls : List PartitionCall) : List Int := calls.flatMap PartitionCall.months

theorem runCalls_eq (catalog : Catalog) (calls : List PartitionCall) :
    runCalls catalog calls =
      (asked calls).foldl (ensureAuditPartition .acsMigrate) catalog := by
  induction calls generalizing catalog with
  | nil => rfl
  | cons call rest ih =>
      have here : (call.months ++ asked rest).foldl (ensureAuditPartition .acsMigrate) catalog =
          (asked rest).foldl (ensureAuditPartition .acsMigrate) (call.exec catalog) :=
        List.foldl_append
      exact (ih (call.exec catalog)).trans here.symm

/-- The privileges of a new partition. -/
def partitionAcl (defaults : Acl) : Acl :=
  grant (revoke defaults [.update, .delete, .truncate] [none]) [.select, .insert]
    [some .acsApp, some .acsAudit]

/-- Months that have a partition. -/
def Catalog.Has (catalog : Catalog) (month : Int) : Prop :=
  ∃ partition ∈ catalog.partitions, partition.name = partitionName month

theorem ensureAuditPartition_of_has {catalog : Catalog} {month : Int} (has : catalog.Has month)
    (role : Role) : ensureAuditPartition role catalog month = catalog := by
  obtain ⟨partition, mem, named⟩ := has
  unfold ensureAuditPartition
  rw [if_pos]
  exact List.any_eq_true.mpr ⟨partition, mem, by simpa using named⟩

theorem ensureAuditPartition_of_not_has {catalog : Catalog} {month : Int}
    (hasNot : ¬ catalog.Has month) (role : Role) :
    ensureAuditPartition role catalog month =
      { catalog with partitions :=
          catalog.partitions ++ [⟨partitionName month, partitionAcl (catalog.defaults role)⟩] } := by
  unfold ensureAuditPartition
  rw [if_neg]
  · rfl
  · intro found
    obtain ⟨partition, mem, named⟩ := List.any_eq_true.mp found
    exact hasNot ⟨partition, mem, by simpa using named⟩

/-- What calls make of a catalog. -/
structure Extends (catalog after : Catalog) (months : List Int) : Prop where
  defaults : after.defaults = catalog.defaults
  kept : ∀ partition ∈ catalog.partitions, partition ∈ after.partitions
  added : ∀ partition ∈ after.partitions, partition ∈ catalog.partitions ∨
    (∃ month ∈ months, ¬ catalog.Has month ∧ partition.name = partitionName month) ∧
      partition.acl = partitionAcl (catalog.defaults .acsMigrate)
  has : ∀ month ∈ months, after.Has month

theorem extends_step (catalog : Catalog) (month : Int) :
    Extends catalog (ensureAuditPartition .acsMigrate catalog month) [month] := by
  by_cases has : catalog.Has month
  · rw [ensureAuditPartition_of_has has]
    exact ⟨rfl, fun _ mem => mem, fun _ mem => .inl mem, by simpa using has⟩
  · rw [ensureAuditPartition_of_not_has has]
    refine ⟨rfl, fun _ mem => List.mem_append_left _ mem, ?_, ?_⟩
    · intro partition mem
      rcases List.mem_append.mp mem with old | new
      · exact .inl old
      · rw [List.mem_singleton.mp new]
        exact .inr ⟨⟨month, by simp, has, rfl⟩, rfl⟩
    · intro other mem
      rw [List.mem_singleton.mp mem]
      exact ⟨_, List.mem_append_right _ (List.mem_singleton.mpr rfl), rfl⟩

theorem Extends.trans {a b c : Catalog} {months more : List Int} (first : Extends a b months)
    (second : Extends b c more) : Extends a c (months ++ more) where
  defaults := second.defaults.trans first.defaults
  kept partition mem := second.kept partition (first.kept partition mem)
  added := by
    intro partition mem
    rcases second.added partition mem with old | ⟨⟨month, inside, hasNot, named⟩, acl⟩
    · rcases first.added partition old with older | ⟨⟨month, inside, hasNot, named⟩, acl⟩
      · exact .inl older
      · exact .inr ⟨⟨month, by simp [inside], hasNot, named⟩, acl⟩
    · rw [first.defaults] at acl
      refine .inr ⟨⟨month, by simp [inside], fun has => hasNot ?_, named⟩, acl⟩
      obtain ⟨earlier, there, same⟩ := has
      exact ⟨earlier, first.kept earlier there, same⟩
  has := by
    intro month mem
    rcases List.mem_append.mp mem with early | late
    · obtain ⟨partition, inside, named⟩ := first.has month early
      exact ⟨partition, second.kept partition inside, named⟩
    · exact second.has month late

/-- **What a sequence of calls adds**: a partition for every month that has none, with the
default privileges of the time. -/
theorem extends_runCalls (catalog : Catalog) (calls : List PartitionCall) :
    Extends catalog (runCalls catalog calls) (asked calls) := by
  rw [runCalls_eq]
  induction asked calls generalizing catalog with
  | nil => exact ⟨rfl, fun _ mem => mem, fun _ mem => .inl mem, by simp⟩
  | cons month rest ih => exact (extends_step catalog month).trans (ih _)

/-! ## When the grants hold -/

/-- The defaults of migration 006 give `UPDATE` away, and nothing in
`ensure_audit_partition` takes it back from the role. -/
theorem migrated_defaults (before : List PartitionCall) :
    ¬ Guarded (partitionAcl ((migrated before).defaults .acsMigrate)) := by
  have empty : (runCalls .created before).defaults = fun _ => [] :=
    (extends_runCalls .created before).defaults
  have defaults : (migrated before).defaults .acsMigrate =
      grant (revoke ((runCalls .created before).defaults .acsMigrate) Privilege.all [none])
        [.select, .insert, .update] [some .acsApp] := rfl
  rw [defaults, empty]
  decide

/-- What migration 006 does to a partition. -/
def regranted (partition : Partition) : Partition :=
  { partition with acl := revoke (revoke (revoke partition.acl Privilege.all [none]) [.delete]
      [some .acsApp, some .acsAudit]) [.truncate] [some .acsApp, some .acsAudit] }

theorem migrated_partitions (before : List PartitionCall) : (migrated before).partitions =
    (runCalls .created before).partitions.map regranted := by
  show (((runCalls .created before).partitions.map _).map _).map _ = _
  rw [List.map_map, List.map_map]
  rfl

/-- The partitions from before migration 006 are guarded. -/
theorem migrated_guarded (before : List PartitionCall) :
    ∀ partition ∈ (migrated before).partitions, Guarded partition.acl := by
  intro partition mem
  rw [migrated_partitions] at mem
  obtain ⟨old, inside, rfl⟩ := List.mem_map.mp mem
  rcases (extends_runCalls .created before).added old inside with none | ⟨-, acl⟩
  · cases none
  · show Guarded (revoke (revoke (revoke old.acl _ _) _ _) _ _)
    rw [acl]
    decide

theorem migrated_has_iff (before : List PartitionCall) (month : Int) :
    (migrated before).Has month ↔
      ∃ earlier ∈ asked before, partitionName earlier = partitionName month := by
  have run := extends_runCalls .created before
  unfold Catalog.Has
  rw [migrated_partitions]
  constructor
  · rintro ⟨partition, mem, named⟩
    obtain ⟨old, inside, rfl⟩ := List.mem_map.mp mem
    rcases run.added old inside with none | ⟨⟨earlier, isAsked, -, same⟩, -⟩
    · cases none
    · exact ⟨earlier, isAsked, same.symm.trans named⟩
  · rintro ⟨earlier, isAsked, same⟩
    obtain ⟨old, inside, named⟩ := run.has earlier isAsked
    exact ⟨regranted old, List.mem_map_of_mem inside, named.trans same⟩

/-- **When the grant layer holds**: as long as no call after migration 006 asks for a
month that has no partition yet. -/
theorem grants_hold_iff (before after : List PartitionCall) :
    (∀ partition ∈ (runCalls (migrated before) after).partitions, Guarded partition.acl) ↔
      ∀ month ∈ asked after, ∃ earlier ∈ asked before,
        partitionName earlier = partitionName month := by
  have run := extends_runCalls (migrated before) after
  simp only [← migrated_has_iff]
  constructor
  · intro guarded month mem
    obtain ⟨partition, inside, named⟩ := run.has month mem
    rcases run.added partition inside with old | ⟨-, acl⟩
    · exact ⟨partition, old, named⟩
    · have leaky := migrated_defaults before
      rw [← acl] at leaky
      exact absurd (guarded partition inside) leaky
  · intro known partition mem
    rcases run.added partition mem with old | ⟨⟨month, isAsked, hasNot, -⟩, -⟩
    · exact migrated_guarded before partition old
    · exact absurd (known month isAsked) hasNot

/-- January 2026. -/
def january : Int := 2026 * 12

example : partitionName january = "audit_log_2026_01".toList := by decide

/-- Installed in January 2026, and the cron job of February: the application may `UPDATE`
the partition that it prepares for March. -/
theorem grants_fail : ∃ partition ∈
    (runCalls (migrated [.ahead january 2]) [.ahead (january + 1) 2]).partitions,
      partition.name = "audit_log_2026_03".toList ∧
        holds partition.acl .acsApp .update = true := by
  decide +kernel

end DoorsControl.Audit
