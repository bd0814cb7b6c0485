import DoorsControl.Api.UnlockDoor
import DoorsControl.Audit.History

/-!
# The access history endpoint

`access_history` of `app/api/doors.py`: "The filter is on actor_id server side; there is no
parameter that widens it." The user is that of the session.

* `myHistory` — the endpoint;
* `own_history` — **a request sees the rows of its own user**, and which ones.
-/

namespace DoorsControl.Api

open DoorsControl.Audit (AppendPool AppendReach AuditLog AuditRow Shows isAccess)
open DoorsControl.Auth (AuthSettings Session)
open Kit.Prog (Always OnOk Steps always_attemptBind always_seq)

/-- The query reads the table once. -/
inductive HistoryOp where
  | table

abbrev HistoryOp.Res : HistoryOp → Type
  | .table => Except Text AuditLog

/-- `access_history`, with the rows that it shows. -/
def myHistory (settings : AuthSettings) (isFinal : Text → Text → Bool)
    (authorization : Option Text) (limit : Int) : Route HistoryOp.Res Empty (List AuditRow) := do
  let session ← currentSession settings isFinal authorization
  let log ← Kit.Prog.attempt (RouteOp.own .table) fun r => r.mapError .raised
  match Audit.accessHistory log session.userId limit with
  | some rows => return rows
  | none => throw (.raised (text "InvalidRowCountInLimitClauseError"))

section Own

variable (settings : AuthSettings) (isFinal : Text → Text → Bool) (authorization : Option Text)
  (limit : Int)

/-- What is returned is the history of the session's user, in the table that was read. -/
theorem myHistory_returns :
    Always (fun _ _ => True) (OnOk fun hist rows => ∃ session log,
        Holds settings isFinal authorization hist session ∧ ⟨.own .table, .ok log⟩ ∈ hist ∧
        Audit.accessHistory log session.userId limit = some rows) []
      (myHistory settings isFinal authorization limit).run := by
  refine always_seq (currentSession_holds fun _ _ _ _ => trivial) ?_
  rintro hist session ⟨-, holds⟩
  refine always_attemptBind trivial fun r log read => ?_
  cases r with
  | error name => cases read
  | ok table =>
      obtain rfl := Except.ok.inj read
      cases isPage : Audit.accessHistory table session.userId limit with
      | none => trivial
      | some rows =>
          exact ⟨session, table, holds.mono (List.subset_cons_self _ _), List.mem_cons_self, isPage⟩

/-- **A request sees the rows of its own user**, at any moment and whatever limit it asks for: the
token of its header was live, and the rows are those of the user of that token, for the outcomes of
unlocks, the latest first, and the latest there were. Each of them was written by one append. -/
theorem own_history {pg : Audit.Postgres} {hist : List (RouteEvent HistoryOp.Res)}
    {rows : List AuditRow}
    (reads : ∀ log, ⟨.own .table, .ok log⟩ ∈ hist → ∃ p, AppendReach pg p ∧ p.store.log = log)
    (steps : Steps (myHistory settings isFinal authorization limit).run hist (.pure (.ok rows))) :
    ∃ session p, Holds settings isFinal authorization hist session ∧ AppendReach pg p ∧
      ⟨.own .table, .ok p.store.log⟩ ∈ hist ∧ Shows p.store.log session.userId limit rows ∧
      ∀ row ∈ rows, row.actorId = some session.userId ∧
        (∃ event, isAccess event = true ∧ row.eventType = event.label) ∧
        ∃ c ∈ p.calls, row.toAuditEntry = c.req := by
  obtain ⟨session, log, holds, read, isPage⟩ :=
    (myHistory_returns settings isFinal authorization limit).along steps
  obtain ⟨p, reach, rfl⟩ := reads log read
  obtain ⟨shows, own⟩ := Audit.history_shown reach isPage
  exact ⟨session, p, holds, reach, read, shows, own⟩

end Own

/-- A live token of user 3, and the table. -/
def historyAnswer (log : AuditLog) : (o : RouteOp HistoryOp) → RouteOp.Res HistoryOp.Res o
  | .session o => openingAnswer (.session o)
  | .own .table => .ok log

/-- The numbers of the rows that are shown. -/
def shownSeqs : Except (RouteError Empty) (List AuditRow) → List Int
  | .ok rows => rows.map fun row => row.seq
  | .error _ => []

/-- User 3 sees the first of two rows. -/
theorem own_history_first : ∃ hist rows, ∃ (session : Session) (p : AppendPool),
    Steps (myHistory sampleDoors.authSettings sampleDoors.isFinal (some (text "Bearer t")) 50).run
      hist (.pure (.ok rows)) ∧ rows.map (fun row => row.seq) = [1] ∧
      AppendReach Audit.samplePostgres p ∧ Shows p.store.log session.userId 50 rows := by
  let program := (myHistory sampleDoors.authSettings sampleDoors.isFinal
    (some (text "Bearer t")) 50).run
  let answer := historyAnswer Audit.unlockedPool.store.log
  have steps := Kit.Prog.steps_runWith (p := program) (fun _ => answer) .start
  have seqs : shownSeqs (Kit.Prog.runWith (fun _ => answer) [] program).2 = [1] := by
    decide +kernel
  have answered : ∀ e ∈ (Kit.Prog.runWith (fun _ => answer) [] program).1,
      e.result = answer e.op := fun e mem =>
    (Kit.Prog.answers_runWith mem).resolve_left List.not_mem_nil
  generalize Kit.Prog.runWith (fun _ => answer) [] program = run at steps seqs answered
  obtain ⟨hist, rows | rows⟩ := run
  · cases seqs
  · have reads : ∀ log, ⟨.own .table, .ok log⟩ ∈ hist →
        ∃ p, AppendReach Audit.samplePostgres p ∧ p.store.log = log := fun log mem =>
      ⟨Audit.unlockedPool, Audit.unlockedPool_reach, (Except.ok.inj (answered _ mem)).symm⟩
    obtain ⟨session, p, -, reach, -, shows, -⟩ := own_history _ _ _ _ reads steps
    exact ⟨hist, rows, session, p, steps, seqs, reach, shows⟩

end DoorsControl.Api
