import DoorsControl.Backend.Registry

/-!
# What a controller can write into the audit log

"Tamper switch, watchdog reset, relay driven locally - all of it lands in the same audit log as
everything else." What a controller calls an event is its own choice; the rest of the row is not.

* `Recorded` — **the invariant**: a connection has written at most one row for a frame, in the
  order of the frames, and one more when it ended;
* `rows_confined` — the rows of every run, and **what none of them can look like**.
-/

namespace DoorsControl.Backend

open DoorsControl.Audit (ActorType AuditEvent)

/-- The entries of one connection. -/
def ofLink {α : Type} (i : Nat) (entries : List (Nat × α)) : List α :=
  entries.filterMap fun entry => if entry.1 = i then some entry.2 else none

@[simp] theorem ofLink_cons_self {α : Type} (i : Nat) (a : α) (entries : List (Nat × α)) :
    ofLink i ((i, a) :: entries) = a :: ofLink i entries := by
  simp [ofLink]

theorem ofLink_cons_ne {α : Type} {i j : Nat} (apart : j ≠ i) (a : α) (entries : List (Nat × α)) :
    ofLink j ((i, a) :: entries) = ofLink j entries := by
  simp [ofLink, Ne.symm apart]

theorem mem_ofLink {α : Type} {i : Nat} {a : α} {entries : List (Nat × α)} :
    a ∈ ofLink i entries ↔ (i, a) ∈ entries := by
  simp only [ofLink, List.mem_filterMap, Option.ite_none_right_eq_some, Option.some.injEq]
  constructor
  · rintro ⟨⟨j, b⟩, mem, rfl, rfl⟩
    exact mem
  · intro mem
    exact ⟨(i, a), mem, rfl, rfl⟩

namespace LinkRun

variable {settings : LinkSettings}

/-- The row that a frame leads to. -/
def frameRow (settings : LinkSettings) (link : Link) (raw : Text) : Option RecordedRow :=
  match readFrame settings raw with
  | .event eventType outcome detail => eventRow? link eventType outcome detail
  | _ => none

/-- What a connection has written, by the frames that came in on it. -/
def Recorded (settings : LinkSettings) (link : Link) (frames : List Text)
    (rows : List RecordedRow) : Prop :=
  match link.stage with
  | .receiving | .touching | .leaving _ =>
      rows.Sublist (frames.filterMap (frameRow settings link))
  | .recording eventType outcome detail => ∃ raw earlier, frames = raw :: earlier ∧
      readFrame settings raw = .event eventType outcome detail ∧
      rows.Sublist (earlier.filterMap (frameRow settings link))
  | .ended => ∃ closing events, rows = closing ++ events ∧
      (closing = [] ∨ ∃ seconds, closing = [leftRow link seconds]) ∧
      events.Sublist (frames.filterMap (frameRow settings link))

/-- Every connection is as `Recorded` says, and every row is of a connection. -/
structure RowsInv (settings : LinkSettings) (s : LinkRun) : Prop where
  recorded : ∀ i link, s.links[i]? = some link →
    Recorded settings link (ofLink i s.received) (ofLink i s.rows)
  received : ∀ entry ∈ s.received, entry.1 < s.links.length
  rows : ∀ entry ∈ s.rows, entry.1 < s.links.length

section Step

variable {s s' : LinkRun} {i : Nat} {link : Link} {a : LinkAction}

/-- One connection goes on, and has or has not received or written something. -/
theorem RowsInv.set (inv : RowsInv settings s) (found : s.links[i]? = some link) (link' : Link)
    {received : List (Nat × Text)} {rows : List (Nat × RecordedRow)}
    (more : received = s.received ∨ ∃ raw, received = (i, raw) :: s.received)
    (written : rows = s.rows ∨ ∃ row, rows = (i, row) :: s.rows)
    (own : Recorded settings link' (ofLink i received) (ofLink i rows))
    {run : HubRun Nat} {now : Int} :
    RowsInv settings ⟨run, s.links.set i link', received, rows, now⟩ := by
  have inside := (List.getElem?_eq_some_iff.mp found).1
  refine ⟨?_, ?_, ?_⟩
  · intro j l isLink
    rcases Kit.Pool.get_set_cases isLink with ⟨rfl, rfl⟩ | ⟨apart, old⟩
    · exact own
    · have frames : ofLink j received = ofLink j s.received := by
        rcases more with rfl | ⟨raw, rfl⟩
        · rfl
        · exact ofLink_cons_ne apart _ _
      have records : ofLink j rows = ofLink j s.rows := by
        rcases written with rfl | ⟨row, rfl⟩
        · rfl
        · exact ofLink_cons_ne apart _ _
      show Recorded settings l (ofLink j received) (ofLink j rows)
      rw [frames, records]
      exact inv.recorded j l old
  · intro entry mem
    show entry.1 < (s.links.set i link').length
    rw [List.length_set]
    rcases more with rfl | ⟨raw, rfl⟩
    · exact inv.received entry mem
    · rcases List.mem_cons.mp mem with rfl | old
      · exact inside
      · exact inv.received entry old
  · intro entry mem
    show entry.1 < (s.links.set i link').length
    rw [List.length_set]
    rcases written with rfl | ⟨row, rfl⟩
    · exact inv.rows entry mem
    · rcases List.mem_cons.mp mem with rfl | old
      · exact inside
      · exact inv.rows entry old

/-- A frame that leads to no row changes nothing. -/
theorem sublist_cons {rows : List RecordedRow} {frames : List Text} (raw : Text)
    (h : rows.Sublist (frames.filterMap (frameRow settings link))) :
    rows.Sublist ((raw :: frames).filterMap (frameRow settings link)) :=
  h.trans ((List.sublist_cons_self raw frames).filterMap _)

/-- After `audit.record`, in the loop or out of it. -/
theorem RowsInv.goOn (inv : RowsInv settings s) (found : s.links[i]? = some link)
    {rows : List (Nat × RecordedRow)} (written : rows = s.rows ∨ ∃ row, rows = (i, row) :: s.rows)
    (own : (ofLink i rows).Sublist ((ofLink i s.received).filterMap (frameRow settings link)))
    (raised : Bool) : RowsInv settings ({ s with rows }.goOn i link raised) := by
  cases raised with
  | true =>
      exact inv.set found { link with
        stage := .leaving ((s.now - link.connectedAt) / 1000), beat := .ended } (.inl rfl)
        written own
  | false =>
      exact inv.set found { link with stage := .receiving } (.inl rfl) written own

theorem RowsInv.linkStep (inv : RowsInv settings s) (found : s.links[i]? = some link)
    (h : LinkStep settings s i link a s') : RowsInv settings s' := by
  have known := inv.recorded i link found
  have beats : ∀ (beat : BeatStage) (pingedAt : Option Int) (dropped : Bool),
      RowsInv settings (s.setLink i { link with beat, pingedAt, dropped }) :=
    fun beat pingedAt dropped => inv.set found { link with beat, pingedAt, dropped } (.inl rfl)
      (.inl rfl) known
  cases h with
  | text raw isStage =>
      unfold Recorded at known
      rw [isStage] at known
      have came : RowsInv settings { s with received := (i, raw) :: s.received } := by
        have unchanged : s.links.set i link = s.links := by
          obtain ⟨inside, rfl⟩ := List.getElem?_eq_some_iff.mp found
          exact List.set_getElem_self inside
        have own : Recorded settings link (ofLink i ((i, raw) :: s.received)) (ofLink i s.rows) := by
          unfold Recorded
          rw [isStage, ofLink_cons_self]
          exact sublist_cons raw known
        have same : RowsInv settings
            ⟨s.run, s.links.set i link, (i, raw) :: s.received, s.rows, s.now⟩ :=
          inv.set found link (.inr ⟨raw, rfl⟩) (.inl rfl) own
        rwa [unchanged] at same
      unfold receive
      cases read : readFrame settings raw with
      | leave =>
          refine inv.set found _ (.inr ⟨raw, rfl⟩) (.inl rfl) ?_
          rw [ofLink_cons_self]
          exact sublist_cons raw known
      | skip => exact came
      | pong =>
          refine inv.set found _ (.inr ⟨raw, rfl⟩) (.inl rfl) ?_
          rw [ofLink_cons_self]
          exact sublist_cons raw known
      | ack message => exact ⟨came.recorded, came.received, came.rows⟩
      | event eventType outcome detail =>
          refine inv.set found _ (.inr ⟨raw, rfl⟩) (.inl rfl) ?_
          rw [ofLink_cons_self]
          exact ⟨raw, ofLink i s.received, rfl, read, known⟩
  | gone isStage =>
      unfold Recorded at known
      rw [isStage] at known
      exact inv.goOn found (.inl rfl) known true
  | touched raised isStage =>
      unfold Recorded at known
      rw [isStage] at known
      exact inv.goOn found (.inl rfl) known raised
  | lost raised isStage =>
      unfold Recorded at known
      rw [isStage] at known
      obtain ⟨raw, earlier, frames, -, rows⟩ := known
      refine inv.goOn found (.inl rfl) ?_ raised
      rw [frames]
      exact sublist_cons raw rows
  | @stored eventType outcome detail row raised isStage isRow =>
      unfold Recorded at known
      rw [isStage] at known
      obtain ⟨raw, earlier, frames, read, rows⟩ := known
      refine inv.goOn found (.inr ⟨row, rfl⟩) ?_ raised
      have made : frameRow settings link raw = some row := by
        unfold frameRow
        rw [read]
        exact isRow
      rw [frames, ofLink_cons_self, List.filterMap_cons, made]
      exact rows.cons_cons row
  | @left seconds stored isStage =>
      unfold Recorded at known
      rw [isStage] at known
      cases stored with
      | true =>
          refine inv.set found _ (.inl rfl) (.inr ⟨leftRow link seconds, rfl⟩) ?_
          rw [ofLink_cons_self]
          show ∃ closing events, leftRow link seconds :: ofLink i s.rows = closing ++ events ∧ _ ∧ _
          exact ⟨[leftRow link seconds], ofLink i s.rows, rfl, .inr ⟨seconds, rfl⟩, known⟩
      | false =>
          refine inv.set found _ (.inl rfl) (.inl rfl) ?_
          exact ⟨[], ofLink i s.rows, rfl, .inl rfl, known⟩
  | woken isBeat due =>
      unfold beat
      split_ifs
      · exact beats _ _ _
      · exact beats _ _ _
  | pinged raised isBeat => exact beats _ _ _
  | closed isBeat => exact beats _ _ _

/-- A connection that comes in has no entries. -/
theorem ofLink_fresh {α : Type} {entries : List (Nat × α)} {n : Nat}
    (known : ∀ entry ∈ entries, entry.1 < n) : ofLink n entries = [] := by
  refine List.filterMap_eq_nil_iff.mpr ?_
  intro entry mem
  have := known entry mem
  exact if_neg (by omega)

theorem RowsInv.step (inv : RowsInv settings s)
    (stepped : step settings s a = some s') : RowsInv settings s' := by
  rcases step_cases stepped with ⟨id, code, ip, -, rfl⟩ | ⟨i, link, found, taken⟩ |
    ⟨action, run, -, -, -, rfl⟩ | ⟨time, -, rfl⟩
  · have longer : ∀ n, n < s.links.length →
        n < (s.links ++ [Link.registered id code ip s.now]).length := by
      intro n inside
      rw [List.length_append]
      omega
    refine ⟨?_, fun entry mem => longer _ (inv.received entry mem),
      fun entry mem => longer _ (inv.rows entry mem)⟩
    intro i link isLink
    rcases Kit.Pool.get_append_index_cases isLink with old | ⟨rfl, rfl⟩
    · exact inv.recorded i link old
    · show (ofLink s.links.length s.rows).Sublist _
      rw [ofLink_fresh inv.rows]
      exact List.nil_sublist _
  · exact inv.linkStep found taken
  · exact ⟨inv.recorded, inv.received, inv.rows⟩
  · exact ⟨inv.recorded, inv.received, inv.rows⟩

end Step

theorem rowsInv_of_reach {s : LinkRun} (reach : LinkReach settings s) : RowsInv settings s :=
  reach.invariant (RowsInv settings) ⟨by simp [empty], by simp [empty], by simp [empty]⟩
    fun _ _ _ _ inv _ stepped => inv.step stepped

/-- The row of a frame says `controller`, names the controller of the connection, and keeps what
the controller said under `payload`. -/
theorem frameRow_shape {link : Link} {raw : Text} {row : RecordedRow}
    (h : frameRow settings link raw = some row) :
    (∃ name, row.eventType = text "controller." ++ name) ∧ row.actorType = .controller ∧
      row.controllerId = some link.controllerId ∧ row.clientIp = link.remoteIp ∧
      ∃ payload, row.detail = [(text "payload", payload)] := by
  unfold frameRow at h
  cases read : readFrame settings raw with
  | event eventType outcome detail =>
      simp only [read] at h
      obtain ⟨accepted, -, rfl⟩ := Option.map_eq_some_iff.mp h
      refine ⟨?_, rfl, rfl, rfl, detail, rfl⟩
      unfold readFrame at read
      split_ifs at read
      split at read
      · split_ifs at read
      · cases read
      · split at read
        · split_ifs at read
          exact ⟨_, ((Frame.event.inj read).1).symm⟩
        · cases read
      · cases read
  | leave | skip | pong | ack => simp [read] at h

/-- A name under `controller.` is none of a door or of a login. -/
theorem controller_label {event : AuditEvent} {name : Text}
    (h : event.label = text "controller." ++ name) :
    event ∈ [.controllerConnected, .controllerAuthFailed, .controllerDisconnected] := by
  have begins : (text "controller.").isPrefixOf event.label = true := by
    rw [h, List.isPrefixOf_iff_prefix]
    exact List.prefix_append _ _
  cases event <;> first | decide | exact absurd begins (by decide)

/-- **What a controller can write.** In every state of every run, the rows of a connection are rows
of its frames, in their order and no frame twice, and at most one more: the row of its end, once it
has ended. All of them are under `controller.`, with the controller that the connection
authenticated as, and none can be taken for a row of a door or of a login; only the row of the end
says for how long it was there. -/
theorem rows_confined {s : LinkRun} (reach : LinkReach settings s) :
    (∀ i link, s.links[i]? = some link → ∃ closing events,
      ofLink i s.rows = closing ++ events ∧
      events.Sublist ((ofLink i s.received).filterMap (frameRow settings link)) ∧
      (closing = [] ∨ link.stage = .ended ∧ ∃ seconds, closing = [leftRow link seconds])) ∧
    ∀ i row, (i, row) ∈ s.rows → ∃ link, s.links[i]? = some link ∧
      (∃ name, row.eventType = text "controller." ++ name) ∧
      (∀ event : AuditEvent, event.label = row.eventType →
        event ∈ [.controllerConnected, .controllerAuthFailed, .controllerDisconnected]) ∧
      row.actorType = .controller ∧ row.controllerId = some link.controllerId ∧
      row.clientIp = link.remoteIp ∧
      ((∃ payload, row.detail = [(text "payload", payload)]) ∨
        link.stage = .ended ∧ ∃ seconds, row = leftRow link seconds) := by
  have inv := rowsInv_of_reach reach
  have parts : ∀ i link, s.links[i]? = some link → ∃ closing events,
      ofLink i s.rows = closing ++ events ∧
      events.Sublist ((ofLink i s.received).filterMap (frameRow settings link)) ∧
      (closing = [] ∨ link.stage = .ended ∧ ∃ seconds, closing = [leftRow link seconds]) := by
    intro i link found
    have known := inv.recorded i link found
    unfold Recorded at known
    split at known
    · exact ⟨[], _, rfl, known, .inl rfl⟩
    · exact ⟨[], _, rfl, known, .inl rfl⟩
    · exact ⟨[], _, rfl, known, .inl rfl⟩
    · -- the last frame has not led to its row yet
      obtain ⟨raw, earlier, frames, -, rows⟩ := known
      refine ⟨[], _, rfl, ?_, .inl rfl⟩
      rw [frames]
      exact sublist_cons raw rows
    · rename_i isEnded
      obtain ⟨closing, events, whole, isClosing, rows⟩ := known
      exact ⟨closing, events, whole, rows, isClosing.imp_right fun closed => ⟨isEnded, closed⟩⟩
  refine ⟨parts, ?_⟩
  intro i row mem
  have inside : i < s.links.length := inv.rows _ mem
  have found : s.links[i]? = some s.links[i] := List.getElem?_eq_getElem inside
  obtain ⟨closing, events, whole, rows, isClosing⟩ := parts i _ found
  refine ⟨s.links[i], found, ?_⟩
  have written : row ∈ closing ++ events := whole ▸ mem_ofLink.mpr mem
  rcases List.mem_append.mp written with last | event
  · rcases isClosing with rfl | ⟨isEnded, seconds, rfl⟩
    · cases last
    · obtain rfl := List.mem_singleton.mp last
      exact ⟨⟨text "disconnected", rfl⟩, fun _ => controller_label, rfl, rfl, rfl,
        .inr ⟨isEnded, seconds, rfl⟩⟩
  · obtain ⟨raw, -, made⟩ := List.mem_filterMap.mp (rows.subset event)
    obtain ⟨⟨name, isName⟩, actor, owner, ip, payload⟩ := frameRow_shape made
    exact ⟨⟨name, isName⟩, fun _ same => controller_label (same.trans isName), actor, owner, ip,
      .inl payload⟩

/-- A frame that names a row of a door. -/
def forgingFrame : Dict :=
  [(text "type", .str (text "event")), (text "event", .str (text "door.unlock_granted"))]

def forgingSettings : LinkSettings :=
  { sampleSettings with
    loads := fun raw =>
      if raw = jsonDumps (.obj forgingFrame) then .ok (.obj forgingFrame)
      else .error (.refused (text "JSONDecodeError")) }

/-- It is stored, and the connection ends. -/
def forgingSchedule : List LinkAction :=
  [.connect 7 (text "c") none, .received 0 (some (jsonDumps (.obj forgingFrame))),
    .recorded 0 true false, .pass 1500, .received 0 none, .left 0 true]

theorem rows_confined_sample : ∃ s : LinkRun, LinkReach forgingSettings s ∧
    s.rows.map (fun entry => entry.2.eventType) =
      [text "controller.disconnected", text "controller.door.unlock_granted"] ∧
    ∀ i row, (i, row) ∈ s.rows → ∀ event : AuditEvent, event.label = row.eventType →
      event ∈ [.controllerConnected, .controllerAuthFailed, .controllerDisconnected] := by
  have ran : (Kit.schedule (step forgingSettings) unused empty forgingSchedule).map (fun s =>
      s.rows.map fun entry => entry.2.eventType) =
        some [text "controller.disconnected", text "controller.door.unlock_granted"] := by
    decide +kernel
  obtain ⟨final, ran, seen⟩ := Option.map_eq_some_iff.mp ran
  have reach := Kit.reaches_of_schedule ran .start
  refine ⟨final, reach, seen, fun i row mem => ?_⟩
  obtain ⟨link, -, -, confined, -⟩ := (rows_confined reach).2 i row mem
  exact confined

end LinkRun

end DoorsControl.Backend
