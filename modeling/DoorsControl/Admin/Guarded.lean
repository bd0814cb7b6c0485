import DoorsControl.Admin.Routes

/-!
# Who can do what on the admin application

"This app can grant a person access to a door, revoke a device, and read the entire audit trail."

* `Allowed` — what has to happen before each call that a request makes;
* `handle_allowed` — no route makes any other;
* `admin_guarded` — **what a request has done, wherever it stands**: nothing from another network,
  nothing without the session of an administrator, and no change is acknowledged without its row.
-/

namespace DoorsControl.Admin

open DoorsControl.Api (Begun Holds RouteError RouteEvent RouteOp adminSession asksSession
  adminSession_holds ownEvents)
open DoorsControl.Audit (AuditCall)
open DoorsControl.Auth (Session)
open Kit.Prog (Always OnOk Steps always_attemptBind always_seq)

/-- What changes a table, but for the audit log. -/
def isChange : AdminOp → Bool
  | .register _ _ _ _ | .block _ _ | .createDoor _ | .grant _ => true
  | _ => false

def isAudit : AdminOp → Bool
  | .audit _ => true
  | _ => false

/-- The row of a change that was made. -/
def changeCall (session : Session) : (o : AdminOp) → o.Res → Option AuditCall
  | .register code _ _ _, .ok id => some (registerCall session id code)
  | .block id reason, .ok () => some (blockCall session id reason)
  | .createDoor body, .ok id => some (createDoorCall session id body.code)
  | .grant args, .ok _ => some (grantCall session args)
  | _, _ => none

/-- A grant names who has given it. -/
def ForSession (session : Session) : AdminOp → Prop
  | .grant args => args.createdBy = some session.userId
  | _ => True

section Guarded

variable (settings : AdminSettings) (client authorization : Option Text)

/-- An administrator is behind the request. -/
def Admits (hist : List (RouteEvent AdminOp.Res)) (session : Session) : Prop :=
  Holds settings.toAuthSettings settings.isFinal authorization hist session ∧
    session.isAdmin = true

/-- What has to be before a call. -/
def Needs (hist : List (RouteEvent AdminOp.Res)) : RouteOp AdminOp → Prop
  | .session o => asksSession o = true ∧ ownEvents hist = []
  | .own (.audit record) => ∃ session, Admits settings authorization hist session ∧
      ∃ change answer, ownEvents hist = [⟨change, answer⟩] ∧ isChange change = true ∧
        ForSession session change ∧ changeCall session change answer = some record
  | .own o => ∃ session, Admits settings authorization hist session ∧
      (if isChange o then ownEvents hist = [] ∧ ForSession session o
        else ∀ e ∈ ownEvents hist, isChange e.op = false ∧ isAudit e.op = false)

/-- And the request has come from one of the networks. -/
def Allowed (hist : List (RouteEvent AdminOp.Res)) (o : RouteOp AdminOp) : Prop :=
  restrictSource settings.networks client = true ∧ Needs settings authorization hist o

/-- What was called by a request that is under way. -/
inductive Traced (session : Session) : List AdminEvent → Prop
  | read {events : List AdminEvent}
      (reads : ∀ e ∈ events, isChange e.op = false ∧ isAudit e.op = false) : Traced session events
  | changed {change : AdminOp} (answer : change.Res) (isChange : isChange change = true)
      (own : ForSession session change) : Traced session [⟨change, answer⟩]
  | recorded {change : AdminOp} {answer : change.Res} {record : AuditCall} (seq : Except Text Int)
      (isChange : isChange change = true) (own : ForSession session change)
      (isRow : changeCall session change answer = some record) :
      Traced session [⟨.audit record, seq⟩, ⟨change, answer⟩]

/-- A change was made for an administrator, and its row written. -/
def Recorded (hist : List (RouteEvent AdminOp.Res)) : Prop :=
  ∃ session, Admits settings authorization hist session ∧ ∃ change answer record seq,
    ownEvents hist = [⟨.audit record, .ok seq⟩, ⟨change, answer⟩] ∧ isChange change = true ∧
      ForSession session change ∧ changeCall session change answer = some record

/-- What is behind a reply. -/
def Behind (hist : List (RouteEvent AdminOp.Res)) : AdminReply → Prop
  | .forbidden => hist = []
  | .created _ _ | .noContent => Recorded settings authorization hist
  | _ => ∃ session, Admits settings authorization hist session

variable {settings client authorization} {hist : List (RouteEvent AdminOp.Res)}
  {session : Session}

theorem Admits.cons (admits : Admits settings authorization hist session)
    (e : RouteEvent AdminOp.Res) : Admits settings authorization (e :: hist) session :=
  ⟨admits.1.mono (List.subset_cons_self _ _), admits.2⟩

theorem allowed_change (admitted : restrictSource settings.networks client = true)
    (admits : Admits settings authorization hist session) (first : ownEvents hist = [])
    {o : AdminOp} (changes : isChange o = true) (own : ForSession session o) :
    Allowed settings client authorization hist (.own o) := by
  have taken : if isChange o then ownEvents hist = [] ∧ ForSession session o
      else ∀ e ∈ ownEvents hist, isChange e.op = false ∧ isAudit e.op = false := by
    rw [if_pos changes]
    exact ⟨first, own⟩
  cases o with
  | audit record => cases changes
  | _ => exact ⟨admitted, session, admits, taken⟩

theorem allowed_read (admitted : restrictSource settings.networks client = true)
    (admits : Admits settings authorization hist session)
    (reads : ∀ e ∈ ownEvents hist, isChange e.op = false ∧ isAudit e.op = false)
    {o : AdminOp} (unchanged : isChange o = false) (unrecorded : isAudit o = false) :
    Allowed settings client authorization hist (.own o) := by
  have taken : if isChange o then ownEvents hist = [] ∧ ForSession session o
      else ∀ e ∈ ownEvents hist, isChange e.op = false ∧ isAudit e.op = false := by
    rw [if_neg (by simp [unchanged])]
    exact reads
  cases o with
  | audit record => cases unrecorded
  | _ => exact ⟨admitted, session, admits, taken⟩

/-- What did not raise. -/
theorem returned_of_mapError {α : Type} {answer : Except Text α} {value : α}
    (returned : answer.mapError (RouteError.raised (ε := Empty)) = .ok value) :
    answer = .ok value := by
  cases answer with
  | ok v => exact congrArg _ (Except.ok.inj returned)
  | error name => cases returned

/-- A change, and its row. -/
theorem change_allowed (admitted : restrictSource settings.networks client = true)
    (admits : Admits settings authorization hist session) (first : ownEvents hist = [])
    {α : Type} (change : AdminOp) (answer : change.Res → Except Text α) (record : α → AuditCall)
    (reply : α → AdminReply) (changes : isChange change = true) (own : ForSession session change)
    (isRow : ∀ r value, answer r = .ok value → changeCall session change r = some (record value))
    (behind : ∀ hist value, Recorded settings authorization hist →
      Behind settings authorization hist (reply value)) :
    Always (Allowed settings client authorization) (OnOk (Behind settings authorization)) hist
      (do let value ← await change answer
          let _ ← audit (record value)
          return reply value : Py AdminReply).run := by
  refine always_attemptBind (allowed_change admitted admits first changes own) ?_
  intro r value returned
  have row := isRow r value (returned_of_mapError returned)
  have after : ownEvents ((⟨.own change, r⟩ : RouteEvent AdminOp.Res) :: hist) = [⟨change, r⟩] := by
    rw [Api.ownEvents_own, first]
  refine always_attemptBind ⟨admitted, session, admits.cons _, change, r, after, changes, own, row⟩ ?_
  intro seq number stored
  obtain rfl : seq = .ok number := returned_of_mapError stored
  exact behind _ _ ⟨session, (admits.cons _).cons _, change, r, record value, number,
    by rw [Api.ownEvents_own, after], changes, own, row⟩

/-- Reading, once the session is there. -/
theorem summaries_allowed (admitted : restrictSource settings.networks client = true)
    (admits : Admits settings authorization hist session)
    (reads : ∀ e ∈ ownEvents hist, isChange e.op = false ∧ isAudit e.op = false)
    (rows : List ListedController) :
    Always (Allowed settings client authorization)
      (OnOk fun hist' _ => ∃ session, Admits settings authorization hist' session) hist
      (summaries rows).run := by
  induction rows generalizing hist with
  | nil => exact ⟨session, admits⟩
  | cons row rest ih =>
      refine always_attemptBind (allowed_read admitted admits reads rfl rfl) fun r _ _ => ?_
      refine always_seq (ih (admits.cons _) ?_) fun hist' _ more => more
      intro e mem
      rcases List.mem_cons.mp mem with rfl | old
      · exact ⟨rfl, rfl⟩
      · exact reads e old

/-- What follows a key that was decoded. -/
theorem decodeKey_allowed {α : Type} {P : List (RouteEvent AdminOp.Res) → α → Prop} {value : Text}
    {f : Bytes → Py α}
    (second : ∀ key, Always (Allowed settings client authorization) (OnOk P) hist (f key).run) :
    Always (Allowed settings client authorization) (OnOk P) hist (decodeKey value >>= f).run := by
  unfold decodeKey
  cases Enrollment.b64decodeStrict value with
  | none => trivial
  | some key => exact second key

/-- Nothing that a route calls is not allowed, and what it returns has something behind it. -/
theorem route_allowed (admitted : restrictSource settings.networks client = true)
    (admits : Admits settings authorization hist session) (first : ownEvents hist = [])
    (request : AdminRequest) :
    Always (Allowed settings client authorization) (OnOk (Behind settings authorization)) hist
      (route settings session request).run := by
  have reads : ∀ e ∈ ownEvents hist, isChange e.op = false ∧ isAudit e.op = false := by
    rw [first]
    exact fun _ mem => absurd mem List.not_mem_nil
  cases request with
  | readAudit limit beforeSeq eventType =>
      exact always_attemptBind (allowed_read admitted admits reads rfl rfl)
        fun _ _ _ => ⟨session, admits.cons _⟩
  | verifyChain fromSeq =>
      refine always_attemptBind (allowed_read admitted admits reads rfl rfl) fun r _ _ => ?_
      refine always_attemptBind (allowed_read admitted (admits.cons _) ?_ rfl rfl)
        fun _ _ _ => ⟨session, (admits.cons _).cons _⟩
      rw [Api.ownEvents_own, first]
      exact fun e mem => List.mem_singleton.mp mem ▸ ⟨rfl, rfl⟩
  | listControllers =>
      refine always_attemptBind (allowed_read admitted admits reads rfl rfl) fun r rows _ => ?_
      refine always_seq (summaries_allowed admitted (admits.cons _) ?_ rows) fun _ _ more => more
      rw [Api.ownEvents_own, first]
      exact fun e mem => List.mem_singleton.mp mem ▸ ⟨rfl, rfl⟩
  | registerController body =>
      refine decodeKey_allowed fun publicKey => decodeKey_allowed fun beaconKey => ?_
      exact change_allowed admitted admits first (.register body.code body.name publicKey beaconKey)
        id (fun id => registerCall session id body.code) _ rfl trivial
        (fun r _ isId => by subst isId; rfl) fun _ _ recorded => recorded
  | blockController controllerId reason =>
      show Always _ _ hist (blockController settings session controllerId reason).run
      unfold blockController
      cases settings.parseUuid controllerId with
      | none => trivial
      | some cid =>
          exact change_allowed admitted admits first (.block cid reason) id
            (fun _ => blockCall session cid reason) _ rfl trivial
            (fun r _ isUnit => by subst isUnit; rfl) fun _ _ recorded => recorded
  | createDoor body =>
      exact change_allowed admitted admits first (.createDoor body) id
        (fun id => createDoorCall session id body.code) _ rfl trivial
        (fun r _ isId => by subst isId; rfl) fun _ _ recorded => recorded
  | grantPermission body =>
      exact change_allowed admitted admits first (.grant (body.args session)) id
        (fun _ => grantCall session (body.args session)) _ rfl rfl
        (fun r _ isId => by subst isId; rfl) fun _ _ recorded => recorded

variable (settings client authorization)

theorem handle_allowed (request : AdminRequest) :
    Always (Allowed settings client authorization) (OnOk (Behind settings authorization)) []
      (handle settings client authorization request).run := by
  unfold handle
  split_ifs with admitted
  · refine always_seq (adminSession_holds fun hist o first asks => ⟨admitted, asks, first⟩) ?_
    rintro hist session ⟨⟨first, holds⟩, isAdmin⟩
    exact route_allowed admitted ⟨holds, isAdmin⟩ first request
  · rfl

/-- The calls of a request, from what each of them needed. -/
theorem traced_of_allowed {e : RouteEvent AdminOp.Res} {before : List (RouteEvent AdminOp.Res)}
    (allowed : Allowed settings client authorization before e.op)
    (called : ownEvents (e :: before) ≠ []) : ∃ session,
      Admits settings authorization (e :: before) session ∧
        Traced session (ownEvents (e :: before)) := by
  match e with
  | ⟨.session o, answer⟩ => exact absurd allowed.2.2 called
  | ⟨.own o, answer⟩ =>
      cases recorded : isAudit o with
      | true =>
          cases o with
          | audit record =>
              obtain ⟨-, session, admits, change, made, only, changes, own, row⟩ := allowed
              refine ⟨session, admits.cons _, ?_⟩
              rw [Api.ownEvents_own, only]
              exact .recorded answer changes own row
          | _ => cases recorded
      | false =>
          have needs : ∃ session, Admits settings authorization before session ∧
              (if isChange o then ownEvents before = [] ∧ ForSession session o
                else ∀ e ∈ ownEvents before, isChange e.op = false ∧ isAudit e.op = false) := by
            cases o with
            | audit record => cases recorded
            | _ => exact allowed.2
          obtain ⟨session, admits, taken⟩ := needs
          refine ⟨session, admits.cons _, ?_⟩
          rw [Api.ownEvents_own]
          split_ifs at taken with changes
          · rw [taken.1]
            exact .changed answer changes taken.2
          · refine .read fun e mem => ?_
            rcases List.mem_cons.mp mem with rfl | old
            · exact ⟨by simpa using changes, recorded⟩
            · exact taken e old

/-- **What a request to the admin application has done, wherever it stands.** From another network
it has called nothing, and it has asked for nothing but its session until it had one. Whatever it
called, an administrator is behind it, with a token that was live when it was looked at; it has
read only, or made one change, or made one change and written the row that says which and by whom.
And what it has acknowledged has been done and recorded. -/
theorem admin_guarded (request : AdminRequest) {hist : List (RouteEvent AdminOp.Res)}
    {q : Kit.Prog (RouteOp AdminOp) (RouteOp.Res AdminOp.Res)
      (Except (RouteError Empty) AdminReply)}
    (steps : Steps (handle settings client authorization request).run hist q) :
    (restrictSource settings.networks client = false → hist = []) ∧
    (ownEvents hist ≠ [] → ∃ session, Admits settings authorization hist session ∧
      Traced session (ownEvents hist)) ∧
    ∀ reply, q = .pure (.ok reply) → Behind settings authorization hist reply := by
  have allowed := handle_allowed settings client authorization request
  refine ⟨fun refused => ?_, fun called => ?_, ?_⟩
  · cases hist with
    | nil => rfl
    | cons e before =>
        have admitted := (allowed.past steps (List.nil_append _).symm).1
        rw [refused] at admitted
        cases admitted
  · cases hist with
    | nil => exact absurd rfl called
    | cons e before =>
        exact traced_of_allowed settings client authorization
          (allowed.past steps (List.nil_append _).symm) called
  · rintro reply rfl
    exact allowed.along steps

end Guarded

/-- The application on the loopback interface. -/
def sampleSettings : AdminSettings where
  pepperBytes := []
  accessTokenTtl := 900
  refreshTokenTtl := 2592000
  attestationStrict := true
  verifyPassword _ _ := false
  isoformat _ := []
  networks := ((adminNetworks (text "127.0.0.1/32")).getD [])
  isFinal _ _ := false
  parseUuid s := if s = uuidText 7 then some 7 else none

/-- The token is that of an administrator, and everything succeeds. -/
def sampleAnswer : (o : RouteOp AdminOp) → RouteOp.Res AdminOp.Res o
  | .session (.lookup _ _) => .ok (some
      { id := 1, familyId := 2, userId := 3, deviceId := 4, expiresAt := 900, usedAt := none,
        revokedAt := none, userActive := true, userIsAdmin := true, displayName := "Ada",
        username := "ada", deviceBlocked := false, attestationStatus := .verified })
  | .session .utcNow => .ok 0
  | .session _ => .error []
  | .own (.block _ _) => .ok ()
  | .own (.audit _) => .ok 1
  | .own (.isOnline _) => false
  | .own (.recent _ _ _) | .own (.chainStatus _) | .own .head | .own .listAll
  | .own (.register _ _ _ _) | .own (.createDoor _) | .own (.grant _) => .error []

/-- The answer of `block_controller`. -/
def isNoContent : Except (RouteError Empty) AdminReply → Bool
  | .ok .noContent => true
  | _ => false

/-- A controller is blocked. -/
theorem admin_guarded_sample : ∃ hist session,
    Steps (handle sampleSettings (some (text "127.0.0.1")) (some (text "Bearer t"))
      (.blockController (uuidText 7) (text "lost"))).run hist (.pure (.ok .noContent)) ∧
      Admits sampleSettings (some (text "Bearer t")) hist session ∧
      Traced session (ownEvents hist) ∧ (ownEvents hist).length = 2 := by
  let program := (handle sampleSettings (some (text "127.0.0.1")) (some (text "Bearer t"))
    (.blockController (uuidText 7) (text "lost"))).run
  have steps := Kit.Prog.steps_runWith (p := program) (fun _ => sampleAnswer) .start
  have ended : isNoContent (Kit.Prog.runWith (fun _ => sampleAnswer) [] program).2 = true := by
    decide +kernel
  have calls : (ownEvents (Kit.Prog.runWith (fun _ => sampleAnswer) [] program).1).length = 2 := by
    decide +kernel
  generalize Kit.Prog.runWith (fun _ => sampleAnswer) [] program = run at steps ended calls
  obtain ⟨hist, result⟩ := run
  obtain rfl : result = .ok .noContent := by
    revert ended
    match result with
    | .ok .noContent => exact fun _ => rfl
    | .ok .forbidden | .ok (.entries _) | .ok (.chain _ _) | .ok (.controllers _)
    | .ok (.created _ _) | .error _ => exact nofun
  obtain ⟨-, behind, -⟩ := admin_guarded _ _ _ _ steps
  obtain ⟨session, admits, traced⟩ := behind (List.ne_nil_of_length_pos (by omega))
  exact ⟨hist, session, steps, admits, traced, calls⟩

end DoorsControl.Admin
