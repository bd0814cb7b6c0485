import DoorsControl.Admin.Guarded
import DoorsControl.Api.AccessHistory
import DoorsControl.Api.Login
import DoorsControl.Backend.Handshake
import DoorsControl.Backend.Registry
import DoorsControl.Enrollment.Service

/-!
# Who writes the rows of an access history

Seven programs write to the audit log. Only one of them writes what the history of a user shows.

* `auth_aside`, `login_aside`, `enroll_aside`, `socket_aside`, `admin_aside` — what the others write
  is never shown;
* `Written` — a row that some part has asked for, in an execution;
* `history_genuine` — **every row that is shown is of an unlock that its user asked for**, and says
  what has happened.
-/

namespace DoorsControl.System

open DoorsControl.Api (AskedBy DoorRequest DoorSettings LoginOp RouteOp ownEvents unlockDoor
  unlockDoor_allowed)
open DoorsControl.Audit (AppendPool AppendReach AuditCall AuditEntry accessHistory accessLabels
  isAccess)
open DoorsControl.Auth (AuthOp AuthRequest AuthSettings)
open DoorsControl.Backend (Backed SocketOp SocketSettings UnlockArgs UnlockOp)
open DoorsControl.Enrollment (EnrollArgs EnrollOp EnrollSettings Python X509)
open Kit.Prog

/-! ## The other writers -/

/-- A row that no history shows. -/
def Aside (record : AuditCall) : Prop := isAccess record.event = false

def authAside : AuthOp → Prop
  | .audit record => Aside record
  | _ => True

def loginAside : LoginOp → Prop
  | .audit record => Aside record
  | .auth o => authAside o
  | _ => True

def enrollAside : EnrollOp → Prop
  | .audit record => Aside record
  | .auth o => authAside o
  | _ => True

def socketAside : SocketOp → Prop
  | .audit record => Aside record
  | _ => True

section Auth

variable (settings : AuthSettings)

theorem insert_aside (token : Auth.NewToken) : Only authAside (Auth.insert token).run := by
  refine only_callBind trivial fun answer => ?_
  cases answer <;> trivial

theorem issuePair_aside (userId deviceId : Uuid) (familyId parentId : Option Uuid) :
    Only authAside (Auth.issuePair settings userId deviceId familyId parentId).run := by
  -- what follows is the same for a new family and for one that is continued
  have pair (family : Uuid) :
      Only authAside (Auth.issuePair settings userId deviceId (some family) parentId).run := by
    refine only_callBind trivial fun access => only_callBind trivial fun refresh => ?_
    refine only_bind (insert_aside _) fun _ => ?_
    exact only_bind (insert_aside _) fun _ => trivial
  cases familyId with
  | none => exact only_callBind trivial pair
  | some family => exact pair family

theorem authLogin_aside (username password : String) (deviceId : Uuid) (clientIp : Option Text) :
    Only authAside (Auth.login settings username password deviceId clientIp).run := by
  refine only_callBind trivial fun user => ?_
  cases user with
  | none => trivial
  | some user =>
      dsimp only
      split_ifs
      · trivial
      · trivial
      · refine only_callBind trivial fun device => ?_
        cases device with
        | none => trivial
        | some device =>
            dsimp only
            split_ifs
            · trivial
            · trivial
            · trivial
            · refine only_bind (issuePair_aside settings _ _ _ _) fun pair => ?_
              exact only_callBind trivial fun _ => only_callBind trivial fun _ =>
                only_callBind (by exact rfl) fun _ => trivial

theorem refresh_aside (token : String) (clientIp : Option Text) :
    Only authAside (Auth.refresh settings token clientIp).run := by
  refine only_callBind trivial fun found => ?_
  cases found with
  | none => trivial
  | some record =>
      dsimp only
      cases record.usedAt with
      | some usedAt =>
          exact only_callBind trivial fun _ => only_callBind (by exact rfl) fun _ => trivial
      | none =>
          refine only_callBind trivial fun now => ?_
          split_ifs
          · trivial
          · refine only_callBind trivial fun _ => only_callBind trivial fun _ => ?_
            refine only_bind (issuePair_aside settings _ _ _ _) fun pair => ?_
            exact only_callBind (by exact rfl) fun _ => trivial

theorem resolveAccessToken_aside (token : String) :
    Only authAside (Auth.resolveAccessToken settings token).run := by
  refine only_callBind trivial fun found => ?_
  cases found with
  | none => trivial
  | some record =>
      refine only_callBind trivial fun now => ?_
      split_ifs <;> trivial

theorem logout_aside (session : Auth.Session) (allDevices : Bool) (clientIp : Option Text) :
    Only authAside (Auth.logout session allDevices clientIp).run := by
  cases allDevices with
  | true => exact only_callBind trivial fun _ => only_callBind (by exact rfl) fun _ => trivial
  | false => exact only_callBind trivial fun _ => only_callBind (by exact rfl) fun _ => trivial

/-- The authentication service. -/
theorem auth_aside (request : AuthRequest) : Only authAside (Auth.serve settings request) := by
  cases request with
  | login username password deviceId clientIp =>
      exact only_map _ (authLogin_aside settings username password deviceId clientIp)
  | refresh token clientIp => exact only_map _ (refresh_aside settings token clientIp)
  | logout bearer allDevices clientIp =>
      exact only_bind (resolveAccessToken_aside settings bearer) fun session =>
        only_map _ (logout_aside session allDevices clientIp)

end Auth

section Login

variable (settings : Api.LoginSettings)

theorem loginAuth_aside {α : Type} {p : Kit.Prog AuthOp AuthOp.Res α} (only : Only authAside p) :
    Only loginAside (Api.fromAuth p) := by
  induction p with
  | pure value => trivial
  | op o next ih => exact ⟨only.1, fun r => ih r (only.2 r)⟩

/-- The login endpoint. -/
theorem login_aside (req : Api.LoginRequest) : Only loginAside (Api.login settings req).run := by
  have limited : Only loginAside
      (Api.checkLogin settings (text req.username) req.clientIp).run := by
    refine only_attemptBind trivial fun byUser => only_bind ?_ fun byIp => trivial
    unfold Api.countByIp
    cases req.clientIp with
    | none => trivial
    | some ip =>
        dsimp only
        split_ifs
        · trivial
        · exact only_attempt trivial
  have recorded : Only loginAside (Api.recordLoginFailure settings (text req.username) req.clientIp
      (text "auth.login")).run := by
    refine only_attemptBind trivial fun _ => ?_
    cases req.clientIp with
    | none => trivial
    | some ip =>
        dsimp only
        split_ifs
        · trivial
        · exact only_attempt trivial
  refine only_bind limited fun decision => ?_
  refine only_ifThenBind (only_callBind (by exact rfl) fun _ => trivial) ?_
  -- a login that succeeds has its row from the service
  refine only_bind (loginAuth_aside (authLogin_aside _ _ _ _ _)) fun result => ?_
  match result with
  | .ok pair => trivial
  | .error (.authentication reason) =>
      refine only_bind recorded fun _ => only_callBind (by exact rfl) fun _ => ?_
      exact only_ifThenBind ⟨trivial, fun _ => trivial⟩ trivial
  | .error (.database error) => trivial

end Login

section Enroll

variable {Cert Key Hash : Type} (lib : X509 Cert Key Hash) (py : Python)
  (settings : EnrollSettings Cert) (args : EnrollArgs)

theorem enrollAuth_aside {α : Type} {p : Kit.Prog AuthOp AuthOp.Res (Except Auth.AuthError α)}
    (only : Only authAside p) : Only enrollAside (Enrollment.fromAuth p) := by
  induction p with
  | pure value => cases value <;> trivial
  | op o next ih => exact ⟨only.1, fun r => ih r (only.2 r)⟩

theorem checkCode_aside : Only enrollAside (Enrollment.checkCode args).run := by
  refine only_ofExceptBind fun codeHash => only_callBind trivial fun expected => ?_
  cases Enrollment.b64decodeStrict args.presentedChallenge with
  | none => trivial
  | some presented =>
      refine only_ifThenBind (only_callBind (by exact rfl) fun _ => trivial) ?_
      refine only_callBind trivial fun found => ?_
      cases found with
      | none => exact only_callBind (by exact rfl) fun _ => trivial
      | some claimed => trivial

/-- The enrollment service. -/
theorem enroll_aside : Only enrollAside (Enrollment.enroll lib py settings args).run := by
  refine only_bind (checkCode_aside args) ?_
  rintro ⟨presented, claimed⟩
  refine only_ofExceptBind fun assessment => ?_
  refine only_bind ?_ fun status => ?_
  · exact only_ifThenBind (only_callBind trivial fun _ => only_callBind (by exact rfl) fun _ =>
      trivial) trivial
  refine only_bind ?_ fun created => ?_
  · unfold Enrollment.tryCreate
    cases Enrollment.b64decodeStrict args.devicePublicKey with
    | none => trivial
    | some publicKey => exact only_callBind trivial fun _ => ⟨trivial, fun _ => trivial⟩
  cases created with
  | error name => exact only_callBind (by exact rfl) fun _ => trivial
  | ok deviceId =>
      refine only_callBind trivial fun _ => ?_
      refine only_bind (enrollAuth_aside (issuePair_aside _ _ _ _ _)) fun pair => ?_
      exact only_callBind (by exact rfl) fun _ => trivial

end Enroll

section Socket

variable (settings : SocketSettings)

theorem authorise_aside (nonce : Bytes) (raw : Text) :
    Only socketAside (Backend.authorise settings nonce raw).run := by
  unfold Backend.authorise
  cases Backend.readAuth settings raw with
  | error error => trivial
  | ok frame =>
      refine only_callBind trivial fun answer => ?_
      match answer with
      | .error error => trivial
      | .ok none => trivial
      | .ok (some controller) =>
          dsimp only
          split_ifs
          · trivial
          · refine only_bind ?_ fun _ => trivial
            unfold Backend.verifyAuth
            split_ifs
            · trivial
            · cases Backend.authMessage frame.controllerCode nonce with
              | none => trivial
              | some message =>
                  refine only_callBind trivial fun valid => ?_
                  cases valid <;> trivial

/-- A controller that connects. -/
theorem socket_aside (peer : Option Text) :
    Only socketAside (Backend.controllerSocket settings peer).run := by
  refine only_attemptBind trivial fun _ => only_callBind trivial fun nonce => ?_
  refine only_callBind trivial fun serverTime => only_attemptBind trivial fun _ => ?_
  refine only_callBind trivial fun received => ?_
  cases received with
  | none => exact only_attempt trivial
  | some raw =>
      refine only_bind (authorise_aside settings nonce raw) ?_
      rintro ⟨controller, result⟩
      match controller, result with
      | controller, .error (.refused name) =>
          exact only_attemptBind (by exact rfl) fun _ => only_attempt trivial
      | _, .error (.other name) => trivial
      | none, .ok frame => trivial
      | some controller, .ok frame =>
          refine only_attemptBind trivial fun _ => only_attemptBind (by exact rfl) fun _ => ?_
          exact only_attemptBind trivial fun _ => ⟨trivial, fun _ => trivial⟩

end Socket

section Admin

variable {session : Auth.Session} {record : AuditCall}

theorem event_of_changeCall {change : Admin.AdminOp} {answer : change.Res}
    (row : Admin.changeCall session change answer = some record) : record.event = .adminAction := by
  unfold Admin.changeCall at row
  split at row <;> cases row <;> rfl

/-- The admin application. -/
theorem admin_aside {settings : Admin.AdminSettings} {client authorization : Option Text}
    {hist : List (Api.RouteEvent Admin.AdminOp.Res)}
    (allowed : Admin.Allowed settings client authorization hist (.own (.audit record))) :
    Aside record := by
  obtain ⟨-, session, -, change, answer, -, -, -, row⟩ := allowed
  rw [Aside, event_of_changeCall row]
  rfl

end Admin

/-! ## All writers -/

/-- The columns that `append` gets from the arguments of `record`. -/
structure Columns (record : AuditCall) (entry : AuditEntry) : Prop where
  eventType : entry.eventType = record.event.label
  actorId : entry.actorId = record.actorId
  deviceId : entry.deviceId = record.deviceId
  doorId : entry.doorId = record.doorId

/-- A row that some part of the server has asked for, in an execution of it. -/
inductive Written (entry : AuditEntry) : Prop
  | unlockDoor {settings : DoorSettings} {request : DoorRequest}
      {hist : List (Api.RouteEvent UnlockOp.Res)}
      {q : Kit.Prog (RouteOp UnlockOp) (RouteOp.Res UnlockOp.Res) _} {record : AuditCall}
      {answer : Except Backend.PyError Int} (steps : Steps (unlockDoor settings request).run hist q)
      (asked : ⟨.own (.audit record), answer⟩ ∈ hist) (columns : Columns record entry)
  | auth {settings : AuthSettings} {request : AuthRequest} {hist : List Auth.AuthEvent}
      {q : Kit.Prog AuthOp AuthOp.Res _} {record : AuditCall} {answer : Int}
      (steps : Steps (Auth.serve settings request) hist q)
      (asked : ⟨.audit record, answer⟩ ∈ hist) (columns : Columns record entry)
  | login {settings : Api.LoginSettings} {req : Api.LoginRequest} {hist : List Api.LoginEvent}
      {q : Kit.Prog LoginOp LoginOp.Res _} {record : AuditCall} {answer : Int}
      (steps : Steps (Api.login settings req).run hist q)
      (asked : ⟨.audit record, answer⟩ ∈ hist ∨ ⟨.auth (.audit record), answer⟩ ∈ hist)
      (columns : Columns record entry)
  | enroll {Cert Key Hash : Type} {lib : X509 Cert Key Hash} {py : Python}
      {settings : EnrollSettings Cert} {args : EnrollArgs} {hist : List Enrollment.EnrollEvent}
      {q : Kit.Prog EnrollOp EnrollOp.Res _} {record : AuditCall} {answer : Int}
      (steps : Steps (Enrollment.enroll lib py settings args).run hist q)
      (asked : ⟨.audit record, answer⟩ ∈ hist ∨ ⟨.auth (.audit record), answer⟩ ∈ hist)
      (columns : Columns record entry)
  | socket {settings : SocketSettings} {peer : Option Text} {hist : List Backend.SocketEvent}
      {q : Kit.Prog SocketOp SocketOp.Res _} {record : AuditCall}
      {answer : Except Backend.SocketError Int}
      (steps : Steps (Backend.controllerSocket settings peer).run hist q)
      (asked : ⟨.audit record, answer⟩ ∈ hist) (columns : Columns record entry)
  /-- the loop of `controller_socket`, whose rows have no actor -/
  | loop {settings : Backend.LinkSettings} {s : Backend.LinkRun} {i : Nat}
      {row : Backend.RecordedRow} (reach : Backend.LinkRun.LinkReach settings s)
      (asked : (i, row) ∈ s.rows) (eventType : entry.eventType = row.eventType)
      (actorId : entry.actorId = none)
  | admin {settings : Admin.AdminSettings} {client authorization : Option Text}
      {request : Admin.AdminRequest} {hist : List (Api.RouteEvent Admin.AdminOp.Res)}
      {q : Kit.Prog (RouteOp Admin.AdminOp) (RouteOp.Res Admin.AdminOp.Res) _}
      {record : AuditCall} {answer : Except Text Int}
      (steps : Steps (Admin.handle settings client authorization request).run hist q)
      (asked : ⟨.own (.audit record), answer⟩ ∈ hist) (columns : Columns record entry)

/-- The row was asked for by a request of this user to unlock a door: the token was live, the row
names its device and the door, and what it says had happened `before` it. -/
def Genuine (userId : Uuid) (entry : AuditEntry) : Prop :=
  ∃ (settings : DoorSettings) (request : DoorRequest) (hist : List (Api.RouteEvent UnlockOp.Res))
    (q : Kit.Prog (RouteOp UnlockOp) (RouteOp.Res UnlockOp.Res) _)
    (later before : List (Api.RouteEvent UnlockOp.Res)) (record : AuditCall)
    (answer : Except Backend.PyError Int) (args : UnlockArgs),
    Steps (unlockDoor settings request).run hist q ∧
    hist = later ++ ⟨.own (.audit record), answer⟩ :: before ∧ Columns record entry ∧
    AskedBy settings request before args ∧ args.userId = userId ∧
    Backed args (ownEvents before) (.audit record)

/-- What is aside is not shown. -/
theorem Columns.not_aside {record : AuditCall} {entry : AuditEntry} (columns : Columns record entry)
    (shown : entry.eventType ∈ accessLabels) : ¬ Aside record := by
  intro aside
  rw [columns.eventType] at shown
  have access := Audit.mem_accessLabels.mp shown
  rw [aside] at access
  cases access

/-- **Only an unlock writes what a history shows.** -/
theorem Written.genuine {entry : AuditEntry} (written : Written entry)
    (shown : entry.eventType ∈ accessLabels) {userId : Uuid} (actor : entry.actorId = some userId) :
    Genuine userId entry := by
  -- what the others write has another label, or no actor
  cases written with
  | @unlockDoor settings request hist q record answer steps asked columns =>
      obtain ⟨later, before, shape⟩ := List.append_of_mem asked
      obtain ⟨args, askedBy, -, backed⟩ := (unlockDoor_allowed settings request).past steps shape
      have user : some args.userId = some userId :=
        backed.1.symm.trans (columns.actorId.symm.trans actor)
      exact ⟨settings, request, hist, q, later, before, record, answer, args, steps, shape, columns,
        askedBy, Option.some.inj user, backed⟩
  | @auth settings request hist q record answer steps asked columns =>
      exact absurd ((auth_aside settings request).performed steps _ asked) (columns.not_aside shown)
  | @login settings req hist q record answer steps asked columns =>
      have performed := (login_aside settings req).performed steps
      rcases asked with own | inner
      · exact absurd (performed _ own) (columns.not_aside shown)
      · exact absurd (performed _ inner) (columns.not_aside shown)
  | @enroll Cert Key Hash lib py settings args hist q record answer steps asked columns =>
      have performed := (enroll_aside lib py settings args).performed steps
      rcases asked with own | inner
      · exact absurd (performed _ own) (columns.not_aside shown)
      · exact absurd (performed _ inner) (columns.not_aside shown)
  | @socket settings peer hist q record answer steps asked columns =>
      exact absurd ((socket_aside settings peer).performed steps _ asked) (columns.not_aside shown)
  | loop reach asked eventType actorId =>
      rw [actorId] at actor
      cases actor
  | @admin settings client authorization request hist q record answer steps asked columns =>
      obtain ⟨later, before, shape⟩ := List.append_of_mem asked
      have allowed := (Admin.handle_allowed settings client authorization request).past steps shape
      exact absurd (admin_aside allowed) (columns.not_aside shown)

def entryOf (record : AuditCall) : AuditEntry where
  eventType := record.event.label
  outcome := record.outcome
  actorType := record.actorType
  actorId := record.actorId
  deviceId := record.deviceId
  doorId := record.doorId
  controllerId := record.controllerId
  clientIp := none
  detail := .obj record.detail

/-- A row that the history of this user shows. -/
def isShownTo (userId : Uuid) : Api.RouteEvent UnlockOp.Res → Bool
  | ⟨.own (.audit record), _⟩ => isAccess record.event && record.actorId = some userId
  | _ => false

theorem record_of_shown {userId : Uuid} {e : Api.RouteEvent UnlockOp.Res}
    (shown : isShownTo userId e = true) : ∃ record answer,
      e = ⟨.own (.audit record), answer⟩ ∧ isAccess record.event = true ∧
        record.actorId = some userId := by
  unfold isShownTo at shown
  split at shown
  · rename_i record answer
    obtain ⟨access, actor⟩ := Bool.and_eq_true_iff.mp shown
    exact ⟨record, answer, rfl, access, of_decide_eq_true actor⟩
  · cases shown

theorem accessHistory_one {log : Audit.AuditLog} {row : Audit.AuditRow} {userId : Uuid}
    (stored : log.rows = [row]) (own : Audit.isOwn userId row = true) :
    accessHistory log userId 50 = some [row] := by
  simp [accessHistory, Audit.forUser, Kit.Paging.page, Kit.Paging.remaining, Kit.Paging.below,
    stored, own]

/-- The append of one row. -/
def appendOne (entry : AuditEntry) : List Audit.AppendAction :=
  .start entry :: List.replicate 5 (.run 0 ⟨0, true⟩)

end DoorsControl.System
