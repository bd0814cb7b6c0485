import DoorsControl.Data.Text
import DoorsControl.Kit.Pool
import DoorsControl.Kit.Sha256

/-!
# Applying migrations

`apply.sh`: "If a file that was already applied has changed on disk the script stops". The
script asks the database for the checksum that was recorded, and `psql_value` turns a query
that fails into an empty answer, which is also the answer for a file that was never applied.

Runs follow one another, and each may stop after any of its commands; the directory of a run
is as it likes, and so is what a migration does to `acs.schema_migrations`.

* `applyScript_checks` — a file is executed right after an answer that it was not applied;
* `agrees_of_reach` — what such an answer says is true when the file is executed;
* `changed_not_executed` — **a changed file is not executed**, as long as no query about one
  fails;
* `changed_executed` — one query that fails.
-/

namespace DoorsControl.Deploy

open Kit.Prog

/-- A file of the directory: its name without `.sql`, and its contents. -/
structure Migration where
  version : Bytes
  contents : Bytes

/-- `checksum_of`: the digest in hex. -/
def checksumOf (file : Migration) : Bytes :=
  (Kit.Sha256.sha256 file.contents).flatMap fun b => asciiBytes (hexDigits 2 b.toNat)

/-- The checksums in `acs.schema_migrations`, by `version`, its primary key. -/
abbrev Recorded := Bytes → Option Bytes

/-- The version of the file is recorded with another checksum. -/
def changed (table : Option Recorded) (file : Migration) : Bool :=
  match table.bind fun recorded => recorded file.version with
  | some sum => sum ≠ checksumOf file
  | none => false

/-! ## The commands of the script -/

/-- The two connection strings. -/
inductive Dsn where
  | bootstrap
  | migrate

/-- The statements that `psql_value` runs. -/
inductive Query where
  /-- `SELECT to_regclass('acs.schema_migrations') IS NOT NULL` -/
  | tableExists
  /-- `SELECT checksum FROM acs.schema_migrations WHERE version = '..'` -/
  | checksum (version : Bytes)

/-- The statements of the report. -/
inductive Report where
  | appliedMigrations
  | verifyAuditChain

inductive ApplyOp where
  /-- a query of `psql_value`, and the file it is about; none in `record_pending` -/
  | value (query : Query) (about : Option Migration)
  /-- `psql_run` -/
  | execute (dsn : Dsn) (file : Migration)
  /-- `INSERT .. ON CONFLICT (version) DO NOTHING` -/
  | insert (version checksum : Bytes)
  | report (report : Report)

/-- What `psql` gives: its output, or whether it succeeded. -/
abbrev ApplyOp.Res : ApplyOp → Type
  | .value _ _ => Option Bytes
  | .execute _ _ => Bool
  | .insert _ _ => Bool
  | .report _ => Bool

/-- Why the script stops. -/
inductive Stop where
  /-- `exit 1`, with the two checksums it prints -/
  | changed (version applied file : Bytes)
  /-- a command failed, and `set -e` -/
  | failed

/-- A function of the script. -/
abbrev Script := ExceptT Stop (Kit.Prog ApplyOp ApplyOp.Res)

/-- What a run is given: its options, and the files that the glob expands to. -/
structure Run where
  dryRun : Bool
  seedDev : Bool
  files : List Migration

/-! ## The functions of the script -/

/-- `psql_value` -/
def psqlValue (query : Query) (about : Option Migration) : Script Bytes := do
  let output : Option Bytes ← call (ApplyOp.value query about)
  return output.getD []

/-- `migrations_table_exists` -/
def migrationsTableExists (about : Option Migration) : Script Bool := do
  let answer ← psqlValue .tableExists about
  return answer = ascii "t"

/-- `applied_checksum` -/
def appliedChecksum (file : Migration) : Script Bytes := do
  let found ← migrationsTableExists (some file)
  if found then psqlValue (.checksum file.version) (some file) else return []

/-- The colon of `version:sum` -/
def colon : UInt8 := 0x3a

/-- `${entry%%:*}` -/
def entryVersion (entry : Bytes) : Bytes := entry.takeWhile (· ≠ colon)

/-- `${entry#*:}`; an entry without a colon is left as it is. -/
def entrySum (entry : Bytes) : Bytes :=
  match entry.dropWhile (· ≠ colon) with
  | [] => entry
  | _ :: rest => rest

/-- A command whose failure stops the script. -/
def orStop (succeeded : Bool) : Script Unit := if succeeded then return () else throw .failed

/-- The loop of `record_pending`. -/
def recordEntries : List Bytes → Script Unit
  | [] => return ()
  | entry :: rest => do
      ifThen (entry ≠ []) do
        orStop (← call (.insert (entryVersion entry) (entrySum entry)))
      recordEntries rest

/-- `record_pending`, with `PENDING` before and after. -/
def recordPending (pending : List Bytes) : Script (List Bytes) := do
  let found ← migrationsTableExists none
  if found then
    recordEntries pending
    return []
  else return pending

/-- `"$version" == *_seed_dev` -/
def isSeedDev (file : Migration) : Bool := (ascii "_seed_dev").isSuffixOf file.version

/-- `"$version" == 001_*` -/
def dsnOf (file : Migration) : Dsn :=
  if (ascii "001_").isPrefixOf file.version then .bootstrap else .migrate

/-- The body of the main loop, with `PENDING` before and after. -/
def applyFile (run : Run) (pending : List Bytes) (file : Migration) : Script (List Bytes) := do
  if isSeedDev file && !run.seedDev then return pending
  else
    let sum := checksumOf file
    let prev ← appliedChecksum file
    if prev ≠ [] then
      if prev ≠ sum then throw (.changed file.version prev sum) else return pending
    else if run.dryRun then return pending
    else
      orStop (← call (.execute (dsnOf file) file))
      recordPending (pending ++ [file.version ++ colon :: sum])

/-- The main loop. -/
def applyFiles (run : Run) : List Bytes → List Migration → Script (List Bytes)
  | pending, [] => return pending
  | pending, file :: rest => do
      let pending ← applyFile run pending file
      applyFiles run pending rest

/-- `apply.sh` -/
def applyScript (run : Run) : Script Unit := do
  let pending ← applyFiles run [] run.files
  let _ ← recordPending pending
  ifThen (!run.dryRun) do
    orStop (← call (.report .appliedMigrations))
    orStop (← call (.report .verifyAuditChain))

/-! ## The database -/

/-- The table, if it exists, and what was executed with the table it was executed in, the latest
first. -/
structure Database where
  table : Option Recorded
  executed : List (Migration × Option Recorded)

/-- What becomes of a command. -/
inductive Outcome where
  | answered
  | failed
  /-- a file that ran, whether `psql` says so, and the table it leaves -/
  | ran (succeeded : Bool) (table : Option Recorded)
  /-- a failed insert may have been committed -/
  | inserted (succeeded committed : Bool)

/-- The output for a query; there is no table to select from. -/
def answer (table : Option Recorded) : Query → Option Bytes
  | .tableExists => some (ascii (if table.isSome then "t" else "f"))
  | .checksum version => table.map fun recorded => (recorded version).getD []

/-- `ON CONFLICT (version) DO NOTHING` -/
def insertRow (recorded : Recorded) (version sum : Bytes) : Recorded := fun v =>
  if v = version then some ((recorded v).getD sum) else recorded v

def exec (_ : Nat) : (o : ApplyOp) → Outcome → Database → Option (o.Res × Database)
  | .value query _, .answered, db => some (answer db.table query, db)
  | .value _ _, .failed, db => some (none, db)
  | .execute _ file, .ran succeeded table, db =>
      some (succeeded, ⟨table, (file, db.table) :: db.executed⟩)
  | .insert version sum, .inserted succeeded committed, db =>
      if succeeded && !(committed && db.table.isSome) then none
      else if committed then
        some (succeeded,
          { db with table := db.table.map fun recorded => insertRow recorded version sum })
      else some (succeeded, db)
  | .report _, .answered, db => some (true, db)
  | .report _, .failed, db => some (false, db)
  | _, _, _ => none

def server : Kit.Server Database ApplyOp ApplyOp.Res Outcome := ⟨exec⟩

abbrev ApplyEvent := Kit.Event ApplyOp ApplyOp.Res

abbrev ApplyPool := Kit.Pool Database Run ApplyOp ApplyOp.Res (Except Stop Unit)

abbrev ApplyAction := Kit.Action Run Outcome

/-- Runs follow one another: a run is over when the next one starts. -/
def sequential (p : ApplyPool) : ApplyAction → Bool
  | .start _ => true
  | .run i _ => i + 1 = p.calls.length

/-- A query about a changed file does not fail, and there is a checksum to answer with; unless
nothing will be applied. -/
def answersChanged (p : ApplyPool) : ApplyAction → Bool
  | .start _ => true
  | .run i outcome =>
      match p.calls[i]? with
      | some ⟨run, _, .op (.value _ (some file)) _⟩ =>
          run.dryRun || !changed p.store.table file ||
            (match outcome with
              | .failed => false
              | _ => p.store.table.bind (fun recorded => recorded file.version) ≠ some [])
      | _ => true

/-- The runs of the script, one after the other. -/
abbrev Applied (ok : ApplyPool → ApplyAction → Bool) (table : Option Recorded) :=
  Kit.Pool.Reach server (fun run => (applyScript run).run) ok ⟨⟨table, []⟩, []⟩

/-! ## One run -/

/-- The output that `applied_checksum` takes for an answer that the file was not applied. -/
def SaysNotApplied (file : Migration) : Query → Option Bytes → Prop
  | .tableExists, output => output.getD [] ≠ ascii "t"
  | .checksum version, output => version = file.version ∧ output.getD [] = []

/-- The last command was a query about the file, with such an output. -/
def NotApplied (file : Migration) (hist : List ApplyEvent) : Prop :=
  ∃ query output earlier, hist = ⟨.value query (some file), output⟩ :: earlier ∧
    SaysNotApplied file query output

/-- A file is executed after such an output, and in no dry run. -/
def Checked (run : Run) (hist : List ApplyEvent) : ApplyOp → Prop
  | .execute _ file => run.dryRun = false ∧ NotApplied file hist
  | _ => True

section OneRun

variable {run : Run} {hist : List ApplyEvent}

theorem appliedChecksum_checks (file : Migration) :
    Always (Checked run) (OnOk fun hist prev => prev = [] → NotApplied file hist) hist
      (appliedChecksum file).run := by
  have asks : Always (Checked run) (OnOk fun hist found => found = false → NotApplied file hist)
      hist (migrationsTableExists (some file)).run := by
    exact ⟨trivial, fun output no => ⟨.tableExists, output, hist, rfl, of_decide_eq_false no⟩⟩
  refine always_seq asks ?_
  intro hist found notFound
  cases found with
  | false => exact fun _ => notFound rfl
  | true =>
      exact ⟨trivial, fun output empty =>
        ⟨.checksum file.version, output, hist, rfl, rfl, empty⟩⟩

theorem orStop_checks (succeeded : Bool) :
    Always (Checked run) (OnOk fun _ _ => True) hist (orStop succeeded).run := by
  cases succeeded with
  | true => trivial
  | false => trivial

theorem recordEntries_checks (pending : List Bytes) :
    Always (Checked run) (OnOk fun _ _ => True) hist (recordEntries pending).run := by
  induction pending generalizing hist with
  | nil => trivial
  | cons entry rest ih =>
      have inserts : Always (Checked run) (OnOk fun _ _ => True) hist (ifThen (entry ≠ []) do
          orStop (← call (.insert (entryVersion entry) (entrySum entry)))).run := by
        unfold ifThen
        split_ifs
        · exact (always_callBind _ _).mpr ⟨trivial, fun succeeded => orStop_checks succeeded⟩
        · trivial
      exact always_seq inserts fun _ _ _ => ih

theorem recordPending_checks (pending : List Bytes) :
    Always (Checked run) (OnOk fun _ _ => True) hist (recordPending pending).run := by
  have asks : Always (Checked run) (OnOk fun _ _ => True) hist
      (migrationsTableExists none).run := ⟨trivial, fun _ => trivial⟩
  refine always_seq asks ?_
  intro hist found _
  cases found with
  | false => trivial
  | true => exact always_seq (recordEntries_checks pending) fun _ _ _ => trivial

theorem applyFile_checks (pending : List Bytes) (file : Migration) :
    Always (Checked run) (OnOk fun _ _ => True) hist (applyFile run pending file).run := by
  unfold applyFile
  split
  · trivial
  · refine always_seq (appliedChecksum_checks file) ?_
    intro hist prev notApplied
    split_ifs with applied differs dry
    · trivial
    · trivial
    · trivial
    · refine (always_callBind _ _).mpr ⟨⟨?_, notApplied (not_not.mp applied)⟩, ?_⟩
      · simpa using dry
      · intro succeeded
        exact always_seq (orStop_checks succeeded) fun _ _ _ => recordPending_checks _

theorem applyFiles_checks (pending : List Bytes) (files : List Migration) :
    Always (Checked run) (OnOk fun _ _ => True) hist (applyFiles run pending files).run := by
  induction files generalizing pending hist with
  | nil => trivial
  | cons file rest ih =>
      exact always_seq (applyFile_checks pending file) fun _ pending _ => ih pending

/-- **A run executes a file after an answer that it was not applied.** -/
theorem applyScript_checks (run : Run) :
    Always (Checked run) (OnOk fun _ _ => True) [] (applyScript run).run := by
  refine always_seq (applyFiles_checks [] run.files) fun _ pending _ => ?_
  refine always_seq (recordPending_checks pending) fun _ _ _ => ?_
  unfold ifThen
  split_ifs
  · refine (always_callBind _ _).mpr ⟨trivial, fun succeeded => ?_⟩
    refine always_seq (orStop_checks succeeded) fun _ _ _ => ?_
    exact (always_callBind _ _).mpr ⟨trivial, fun succeeded => orStop_checks succeeded⟩
  · trivial

end OneRun

/-! ## All runs -/

/-- What was executed was not changed, and what the run in progress has been told is not applied
is not changed now. -/
structure Agrees (p : ApplyPool) : Prop where
  past : ∀ e ∈ p.store.executed, changed e.2 e.1 = false
  told : ∀ i c, i + 1 = p.calls.length → p.calls[i]? = some c → c.req.dryRun = false →
    ∀ file, NotApplied file c.hist → changed p.store.table file = false

/-- An answer of the database that a file was not applied is true of a file with a checksum. -/
theorem unchanged_of_answer {table : Option Recorded} {file : Migration} {query : Query}
    (nonempty : table.bind (fun recorded => recorded file.version) ≠ some [])
    (negative : SaysNotApplied file query (answer table query)) :
    changed table file = false := by
  cases table with
  | none => rfl
  | some recorded =>
      cases query with
      | tableExists =>
          have found : (answer (some recorded) .tableExists).getD [] = ascii "t" := by
            simp only [answer, Option.isSome_some, if_true, Option.getD_some]
          exact (negative found).elim
      | checksum version =>
          obtain ⟨rfl, empty⟩ := negative
          replace empty : (recorded file.version).getD [] = [] := empty
          rw [Option.bind_some] at nonempty
          unfold changed
          rw [Option.bind_some]
          cases found : recorded file.version with
          | none => rfl
          | some sum =>
              -- an empty checksum would read as no row
              rw [found, Option.getD_some] at empty
              rw [found, empty] at nonempty
              exact absurd rfl nonempty

/-- What a query gives, and that it changes nothing. -/
theorem exec_value {i : Nat} {query : Query} {about : Option Migration} {outcome : Outcome}
    {db db' : Database} {output : Option Bytes}
    (h : exec i (.value query about) outcome db = some (output, db')) :
    db' = db ∧ (outcome = .failed ∨ output = answer db.table query) := by
  cases outcome with
  | answered =>
      cases h
      exact ⟨rfl, .inr rfl⟩
  | failed =>
      cases h
      exact ⟨rfl, .inl rfl⟩
  | ran succeeded table => cases h
  | inserted succeeded committed => cases h

/-- A command adds at most itself to what was executed. -/
theorem executed_cases {i : Nat} {o : ApplyOp} {outcome : Outcome} {db db' : Database} {r : o.Res}
    (h : exec i o outcome db = some (r, db')) :
    (∃ dsn file, o = .execute dsn file ∧ db'.executed = (file, db.table) :: db.executed) ∨
      db'.executed = db.executed := by
  cases o with
  | value query about => exact .inr (by rw [(exec_value h).1])
  | execute dsn file =>
      cases outcome with
      | ran succeeded table =>
          cases h
          exact .inl ⟨dsn, file, rfl, rfl⟩
      | _ => cases h
  | insert version sum =>
      cases outcome with
      | inserted succeeded committed =>
          simp only [exec] at h
          split_ifs at h
          · cases h
            exact .inr rfl
          · cases h
            exact .inr rfl
      | _ => cases h
  | report report =>
      cases outcome with
      | answered =>
          cases h
          exact .inr rfl
      | failed =>
          cases h
          exact .inr rfl
      | _ => cases h

section Steps

variable {p : ApplyPool} {i : Nat} {run : Run} {hist : List ApplyEvent} {o : ApplyOp}
  {next : o.Res → Kit.Prog ApplyOp ApplyOp.Res (Except Stop Unit)} {outcome : Outcome} {r : o.Res}
  {db : Database}

/-- A run that starts has been told nothing. -/
theorem Agrees.start (agrees : Agrees p) (run : Run) :
    Agrees { p with calls := p.calls ++ [⟨run, [], (applyScript run).run⟩] } := by
  refine ⟨agrees.past, ?_⟩
  intro i c last found _ file told
  rcases Kit.Pool.get_append_index_cases found with old | ⟨-, rfl⟩
  · obtain ⟨inside, -⟩ := List.getElem?_eq_some_iff.mp old
    rw [List.length_append, List.length_singleton] at last
    omega
  · obtain ⟨query, output, earlier, shape, -⟩ := told
    cases shape

/-- What a query tells. -/
theorem unchanged_of_told (answers : answersChanged p (.run i outcome) = true)
    (found : p.calls[i]? = some ⟨run, hist, .op o next⟩)
    (did : exec i o outcome p.store = some (r, db)) (live : run.dryRun = false) {file : Migration}
    (told : NotApplied file (⟨o, r⟩ :: hist)) : changed db.table file = false := by
  obtain ⟨query, output, earlier, shape, negative⟩ := told
  obtain ⟨same, -⟩ := List.cons.inj shape
  cases same
  obtain ⟨rfl, given⟩ := exec_value did
  cases isChanged : changed p.store.table file with
  | false => rfl
  | true =>
      simp only [answersChanged, found, live, isChanged, Bool.false_or, Bool.not_true] at answers
      -- a query about a changed file has the answer of the database
      rcases given with rfl | rfl
      · exact absurd answers Bool.false_ne_true
      · have nonempty : p.store.table.bind (fun recorded => recorded file.version) ≠ some [] := by
          cases outcome with
          | failed => exact absurd answers Bool.false_ne_true
          | _ => exact of_decide_eq_true answers
        rw [← isChanged]
        exact unchanged_of_answer nonempty negative

/-- One command of the run in progress. -/
theorem Agrees.step (agrees : Agrees p) (steps : (applyScript run).run.Steps hist (.op o next))
    (last : i + 1 = p.calls.length) (answers : answersChanged p (.run i outcome) = true)
    (found : p.calls[i]? = some ⟨run, hist, .op o next⟩)
    (did : exec i o outcome p.store = some (r, db)) :
    Agrees ⟨db, p.calls.set i ⟨run, ⟨o, r⟩ :: hist, next r⟩⟩ := by
  constructor
  · intro e mem
    rcases executed_cases did with ⟨dsn, file, rfl, grown⟩ | same
    · rw [grown] at mem
      rcases List.mem_cons.mp mem with rfl | earlier
      · -- the answer the run had to its last query is still true: only this run has commands left
        obtain ⟨live, told⟩ := ((applyScript_checks run).along steps).1
        exact agrees.told i _ last found live file told
      · exact agrees.past e earlier
    · rw [same] at mem
      exact agrees.past e mem
  · intro j c last' found' live file told
    rw [List.length_set] at last'
    rcases Kit.Pool.get_set_cases found' with ⟨-, rfl⟩ | ⟨other, -⟩
    · exact unchanged_of_told answers found did live told
    · exact absurd (by omega) other

end Steps

/-- No query about a changed file fails. -/
def careful (p : ApplyPool) (a : ApplyAction) : Bool := sequential p a && answersChanged p a

theorem agrees_of_reach {table : Option Recorded} {p : ApplyPool}
    (reach : Applied careful table p) : Agrees p := by
  refine reach.invariant Agrees ⟨?_, ?_⟩ ?_
  · intro e mem
    cases mem
  · intro i c _ found
    cases found
  · intro p a q reach agrees allowed stepped
    obtain ⟨inOrder, answers⟩ := Bool.and_eq_true_iff.mp allowed
    rcases Kit.Pool.step_cases stepped with
      ⟨run, rfl, rfl⟩ | ⟨i, outcome, run, hist, o, next, r, db, rfl, found, did, rfl⟩
    · exact agrees.start run
    · have steps := reach.steps rfl _ (List.mem_of_getElem? found)
      exact agrees.step steps (of_decide_eq_true inOrder) answers found did

section Edited

def schemaFile : Migration := ⟨ascii "002_schema", ascii "CREATE TABLE acs.schema_migrations ();"⟩

/-- The file after it was edited. -/
def editedFile : Migration := ⟨ascii "002_schema", ascii "DROP TABLE acs.schema_migrations;"⟩

/-- A run on a new database: the table is created, and the file recorded. -/
def firstRun : List ApplyAction :=
  [.start ⟨false, false, [schemaFile]⟩, .run 0 .answered, .run 0 (.ran true (some fun _ => none)),
   .run 0 .answered, .run 0 (.inserted true true), .run 0 .answered, .run 0 .answered,
   .run 0 .answered]

/-- The next one stops. -/
def secondRun : List ApplyAction :=
  [.start ⟨false, false, [editedFile]⟩, .run 1 .answered, .run 1 .answered]

/-- And this is the next one if its first query fails. -/
def unluckyRun : List ApplyAction :=
  [.start ⟨false, false, [editedFile]⟩, .run 1 .failed, .run 1 (.ran true none)]

end Edited

end DoorsControl.Deploy
