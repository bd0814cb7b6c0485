import DoorsControl.Audit.Paging
import DoorsControl.Audit.Service
import DoorsControl.Kit.Only

/-!
# The access history of a user

`GET /api/v1/me/access-history`: "the user's own rows out of the audit log, and nothing else". A row
is the user's own by its `actor_id`, and it is shown for its event type.

* `forUser`, `accessHistory` — the query;
* `shown` — what it shows: the latest rows of their kind, the latest first;
* `history_shown` — **at any time, while others append**: and every row is that of one append.
-/

namespace DoorsControl.Audit

open Kit.Paging (below_all_of_not_mem_page mem_page page page_descending page_full page_length_le)

/-- The events of `for_user`. -/
def isAccess : AuditEvent → Bool
  | .doorUnlockGranted | .doorUnlockDenied | .doorUnlockConfirmed | .doorUnlockFailed => true
  | _ => false

/-- `event_type IN (..)` -/
def accessLabels : List Text :=
  [text "door.unlock_granted", text "door.unlock_denied", text "door.unlock_confirmed",
    text "door.unlock_failed"]

theorem event_of_label {label : Text} (mem : label ∈ accessLabels) :
    ∃ event, isAccess event = true ∧ label = event.label := by
  simp only [accessLabels, List.mem_cons, List.not_mem_nil, or_false] at mem
  rcases mem with rfl | rfl | rfl | rfl
  · exact ⟨.doorUnlockGranted, rfl, rfl⟩
  · exact ⟨.doorUnlockDenied, rfl, rfl⟩
  · exact ⟨.doorUnlockConfirmed, rfl, rfl⟩
  · exact ⟨.doorUnlockFailed, rfl, rfl⟩

/-- The `WHERE` of `for_user`. -/
def isOwn (userId : Uuid) (row : AuditRow) : Bool :=
  row.actorId = some userId && accessLabels.contains row.eventType

/-- `AuditRepository.for_user`; a negative `LIMIT` raises. -/
def forUser (log : AuditLog) (userId : Uuid) (limit : Int) : Option (List AuditRow) :=
  if limit < 0 then none
  else some (page (fun row : AuditRow => row.seq) (isOwn userId) limit.toNat none log.rows)

/-- `access_history` -/
def accessHistory (log : AuditLog) (userId : Uuid) (limit : Int) : Option (List AuditRow) :=
  forUser log userId (min limit 200)

/-- What a history shows of a table: rows of the user, the latest first, and all of them or as many
as were asked for, the latest. -/
structure Shows (log : AuditLog) (userId : Uuid) (limit : Int) (rows : List AuditRow) : Prop where
  own : ∀ row ∈ rows, row ∈ log.rows ∧ isOwn userId row = true
  latestFirst : rows.Pairwise fun a b => b.seq < a.seq
  bounded : (rows.length : Int) ≤ min limit 200
  complete : ∀ row ∈ log.rows, isOwn userId row = true →
    row ∈ rows ∨ (rows.length = min limit 200 ∧ ∀ other ∈ rows, row.seq < other.seq)

theorem forUser_some {log : AuditLog} {userId : Uuid} {limit : Int} {rows : List AuditRow}
    (isPage : forUser log userId limit = some rows) : 0 ≤ limit ∧
      page (fun row : AuditRow => row.seq) (isOwn userId) limit.toNat none log.rows = rows := by
  unfold forUser at isPage
  by_cases negative : limit < 0
  · rw [if_pos negative] at isPage
    cases isPage
  · rw [if_neg negative] at isPage
    exact ⟨Int.not_lt.mp negative, Option.some.inj isPage⟩

theorem mem_accessLabels {event : AuditEvent} : event.label ∈ accessLabels ↔
    isAccess event = true := by
  cases event <;> decide

theorem eventType_of_own {userId : Uuid} {row : AuditRow} (own : isOwn userId row = true) :
    row.actorId = some userId ∧ ∃ event, isAccess event = true ∧ row.eventType = event.label := by
  obtain ⟨actor, kind⟩ := Bool.and_eq_true_iff.mp own
  exact ⟨of_decide_eq_true actor, event_of_label (List.contains_iff_mem.mp kind)⟩

theorem shown {log : AuditLog} (sorted : log.rows.Pairwise fun a b => a.seq < b.seq)
    {userId : Uuid} {limit : Int} {rows : List AuditRow}
    (isPage : accessHistory log userId limit = some rows) : Shows log userId limit rows := by
  obtain ⟨nonneg, rfl⟩ := forUser_some isPage
  obtain ⟨n, isLimit⟩ := Int.eq_ofNat_of_zero_le nonneg
  rw [isLimit, Int.toNat_natCast]
  have descending : (page (fun row : AuditRow => row.seq) (isOwn userId) n none
      log.rows).Pairwise fun a b => b.seq < a.seq := page_descending sorted n none
  refine ⟨fun row mem => ?_, descending, ?_, fun row mem own => ?_⟩
  · obtain ⟨inside, -, own⟩ := mem_page mem
    exact ⟨inside, own⟩
  · rw [isLimit]
    exact_mod_cast page_length_le n
  · by_cases isShown : row ∈ page (fun row : AuditRow => row.seq) (isOwn userId) n none log.rows
    · exact .inl isShown
    · refine .inr ⟨?_, fun other isOther => ?_⟩
      · rw [isLimit]
        exact_mod_cast page_full mem own isShown
      · exact below_all_of_not_mem_page sorted mem own rfl isShown isOther

/-! ## Rows and calls -/

/-- A row is inserted with these columns. -/
def Gives (entry : AuditEntry) : AppendOp → Prop
  | .insert row => row.toAuditEntry = entry
  | _ => True

theorem append_gives (pg : Postgres) (entry : AuditEntry) :
    (append pg entry).Only (Gives entry) :=
  ⟨trivial, fun _ => ⟨trivial, fun _ => ⟨trivial, fun _ => ⟨trivial, fun _ =>
    ⟨rfl, fun _ => trivial⟩⟩⟩⟩⟩

/-- Every row of the table has the columns of a call. -/
theorem row_of_call {pg : Postgres} {p : AppendPool} (reach : AppendReach pg p) {row : AuditRow}
    (mem : row ∈ p.store.log.rows) : ∃ c ∈ p.calls, row.toAuditEntry = c.req := by
  obtain ⟨i, c, found, -, inserted⟩ := (drawnApart_of_reach reach).rows row mem
  have isCall := List.mem_of_getElem? found
  have steps := Kit.Pool.Reach.steps rfl reach c isCall
  exact ⟨c, isCall, (append_gives pg c.req).performed steps _ inserted⟩

/-- **The history of a user, while others append.** Each row has the user as its actor, is for one
of the four events, and has the columns that one call of `append` gave. -/
theorem history_shown {pg : Postgres} {p : AppendPool} (reach : AppendReach pg p) {userId : Uuid}
    {limit : Int} {rows : List AuditRow}
    (isPage : accessHistory p.store.log userId limit = some rows) :
    Shows p.store.log userId limit rows ∧ ∀ row ∈ rows, row.actorId = some userId ∧
      (∃ event, isAccess event = true ∧ row.eventType = event.label) ∧
      ∃ c ∈ p.calls, row.toAuditEntry = c.req := by
  have shows := shown (drawnApart_of_reach reach).sorted isPage
  refine ⟨shows, fun row mem => ?_⟩
  obtain ⟨inside, own⟩ := shows.own row mem
  obtain ⟨actor, kind⟩ := eventType_of_own own
  exact ⟨actor, kind, row_of_call reach inside⟩

/-- An unlock was granted to user 3, and then one to user 4. -/
def twoUnlocks : List AppendAction :=
  let entry (userId : Uuid) : AuditEntry :=
    { (sampleContent 0 "door.unlock_granted").toAuditEntry with actorId := some userId }
  [.start (entry 3), .start (entry 4)] ++ List.replicate 5 (.run 0 ⟨0, true⟩) ++
    List.replicate 5 (.run 1 ⟨0, true⟩)

def unlockedPool : AppendPool :=
  (Kit.Pool.run appendServer (append samplePostgres) (fun _ _ => true) freshPool twoUnlocks).getD
    freshPool

theorem unlockedPool_reach : AppendReach samplePostgres unlockedPool := by
  have ran : Kit.Pool.run appendServer (append samplePostgres) (fun _ _ => true) freshPool
      twoUnlocks = some unlockedPool := rfl
  exact Kit.Pool.reach_of_run ran .init

end DoorsControl.Audit
