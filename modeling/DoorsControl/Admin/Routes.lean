import DoorsControl.Api.ClientIp
import DoorsControl.Api.Session
import DoorsControl.Backend.Permissions
import DoorsControl.Enrollment.Service

/-!
# The admin application

`admin/main.py`: the middleware `restrict_source`, and the seven routes behind `admin_session`. A
request that does not pass its schema does not come to a route; what a route gets is what pydantic
has made of the request. Whatever is awaited may raise anything.
-/

namespace DoorsControl.Admin

open DoorsControl.Api (Route RouteError RouteOp adminSession trustedProxyList)
open DoorsControl.Audit (AuditCall AuditRow ChainStatus Timestamp)
open DoorsControl.Auth (AuthSettings Session)
open DoorsControl.Backend (ControllerCreate DoorCreate GrantArgs TimeOfDay timeText)
open DoorsControl.Enrollment (b64decodeStrict)

/-! ## The source -/

/-- The networks of `create_admin_app`, which does not come up where this is `none`. The property
`admin_cidr_list` splits as `trusted_proxy_list` does. -/
def adminNetworks (adminAllowedCidrs : Text) : Option (List IpNetwork) :=
  (trustedProxyList adminAllowedCidrs).mapM ipNetwork

/-- `restrict_source`: whether the request goes on. -/
def restrictSource (networks : List IpNetwork) (client : Option Text) : Bool :=
  match ipAddress (client.getD []) with
  | none => false
  | some address => networks.isEmpty || networks.any fun net => net.contains address

/-! ## What a route calls -/

/-- A row of `ControllerRepository.list_all`. -/
structure ListedController where
  id : Uuid
  code : Text
  name : Text
  firmwareVersion : Option Text
  isBlocked : Bool
  lastSeenAt : Option Timestamp

inductive AdminOp where
  | recent (limit : Int) (beforeSeq : Option Int) (eventType : Option Text)
  | chainStatus (fromSeq : Int)
  | head
  | listAll
  | isOnline (controllerCode : Text)
  | register (code name : Text) (publicKey beaconKey : Bytes)
  | block (controllerId : Uuid) (reason : Text)
  | createDoor (body : DoorCreate)
  | grant (args : GrantArgs)
  | audit (record : AuditCall)

abbrev AdminOp.Res : AdminOp → Type
  | .recent _ _ _ => Except Text (List AuditRow)
  | .chainStatus _ => Except Text ChainStatus
  | .head => Except Text (Option (Int × Text))
  | .listAll => Except Text (List ListedController)
  | .isOnline _ => Bool
  | .register _ _ _ _ => Except Text Uuid
  | .block _ _ => Except Text Unit
  | .createDoor _ => Except Text Uuid
  | .grant _ => Except Text Uuid
  | .audit _ => Except Text Int

abbrev AdminEvent := Kit.Event AdminOp AdminOp.Res
abbrev Py := Route AdminOp.Res Empty

/-- An `await` of an answer that may be that it raised. -/
abbrev await {α : Type} (o : AdminOp) (answer : o.Res → Except Text α) : Py α :=
  Kit.Prog.attempt (RouteOp.own o) fun r => (answer r).mapError .raised

abbrev recent (limit : Int) (beforeSeq : Option Int) (eventType : Option Text) :
    Py (List AuditRow) := await (.recent limit beforeSeq eventType) id
abbrev chainStatus (fromSeq : Int) : Py ChainStatus := await (.chainStatus fromSeq) id
abbrev head : Py (Option (Int × Text)) := await .head id
abbrev listAll : Py (List ListedController) := await .listAll id
abbrev isOnline (controllerCode : Text) : Py Bool := await (.isOnline controllerCode) .ok
abbrev register (code name : Text) (publicKey beaconKey : Bytes) : Py Uuid :=
  await (.register code name publicKey beaconKey) id
abbrev block (controllerId : Uuid) (reason : Text) : Py Unit := await (.block controllerId reason) id
abbrev createDoorRow (body : DoorCreate) : Py Uuid := await (.createDoor body) id
abbrev grant (args : GrantArgs) : Py Uuid := await (.grant args) id
abbrev audit (record : AuditCall) : Py Int := await (.audit record) id

/-! ## The routes -/

/-- `ControllerCreate`, with its keys. -/
structure ControllerBody extends ControllerCreate where
  publicKey : Text
  beaconKey : Text
  publicKey_length : 4 ≤ publicKey.length ∧ publicKey.length ≤ 8192
  beaconKey_length : 4 ≤ beaconKey.length ∧ beaconKey.length ≤ 8192

/-- `PermissionCreate` -/
structure PermissionCreate where
  userId : Uuid
  doorId : Uuid
  weekdayMask : Int := 127
  startTime : TimeOfDay := 0
  /-- 23:59:59 -/
  endTime : TimeOfDay := 86399000000
  timeZone : Text := text "Europe/Sofia"
  validUntil : Option Timestamp := none
  weekdayMask_range : 0 ≤ weekdayMask ∧ weekdayMask ≤ 127
  timeZone_length : timeZone.length ≤ 64

inductive AdminRequest where
  | readAudit (limit : Int) (beforeSeq : Option Int) (eventType : Option Text)
  | verifyChain (fromSeq : Int)
  | listControllers
  | registerController (body : ControllerBody)
  | blockController (controllerId reason : Text)
  | createDoor (body : DoorCreate)
  | grantPermission (body : PermissionCreate)

inductive AdminReply where
  /-- of `restrict_source`, with status 403 -/
  | forbidden
  | entries (rows : List AuditRow)
  | chain (status : ChainStatus) (head : Option (Int × Text))
  | controllers (summaries : List (ListedController × Bool))
  | created (key : Text) (id : Uuid)
  | noContent

/-- An admin action that succeeded, as it is recorded. -/
def adminCall (session : Session) (controllerId doorId : Option Uuid)
    (detail : List (Text × Json Text)) : AuditCall :=
  { event := .adminAction, outcome := .success, actorType := .admin,
    actorId := some session.userId, controllerId, doorId, detail }

def registerCall (session : Session) (controllerId : Uuid) (code : Text) : AuditCall :=
  adminCall session (some controllerId) none
    [(text "action", .str (text "controller.register")), (text "code", .str code)]

def blockCall (session : Session) (controllerId : Uuid) (reason : Text) : AuditCall :=
  adminCall session (some controllerId) none
    [(text "action", .str (text "controller.block")), (text "reason", .str reason)]

def createDoorCall (session : Session) (doorId : Uuid) (code : Text) : AuditCall :=
  adminCall session none (some doorId)
    [(text "action", .str (text "door.create")), (text "code", .str code)]

def grantCall (session : Session) (args : GrantArgs) : AuditCall :=
  adminCall session none (some args.doorId)
    [(text "action", .str (text "permission.grant")),
     (text "target_user", .str (uuidText args.userId)),
     (text "weekday_mask", .int args.weekdayMask),
     (text "window", .str (timeText args.startTime ++ text "-" ++ timeText args.endTime)),
     (text "time_zone", .str args.timeZone)]

/-- What the routes use: the settings of `AuthService`, the networks, where a sigma ends a word,
and `uuid.UUID(..)`, which raises `ValueError` where this is `none`. -/
structure AdminSettings extends AuthSettings where
  networks : List IpNetwork
  isFinal : Text → Text → Bool
  parseUuid : Text → Option Uuid

/-- `read_audit` -/
def readAudit (limit : Int) (beforeSeq : Option Int) (eventType : Option Text) : Py AdminReply := do
  let rows ← recent (min limit 500) beforeSeq eventType
  return .entries rows

/-- `verify_chain` -/
def verifyChain (fromSeq : Int) : Py AdminReply := do
  let status ← chainStatus fromSeq
  let head ← head
  return .chain status head

/-- The summaries of `list_controllers`. -/
def summaries : List ListedController → Py (List (ListedController × Bool))
  | [] => return []
  | row :: rest => do
      let online ← isOnline row.code
      let others ← summaries rest
      return (row, online) :: others

/-- `list_controllers` -/
def listControllers : Py AdminReply := do
  let rows ← listAll
  let summaries ← summaries rows
  return .controllers summaries

/-- `base64.b64decode(value, validate=True)` -/
def decodeKey (value : Text) : Py Bytes :=
  match b64decodeStrict value with
  | some key => return key
  | none => throw (.raised (text "Error"))

/-- `register_controller` -/
def registerController (session : Session) (body : ControllerBody) : Py AdminReply := do
  let publicKey ← decodeKey body.publicKey
  let beaconKey ← decodeKey body.beaconKey
  let controllerId ← register body.code body.name publicKey beaconKey
  let _ ← audit (registerCall session controllerId body.code)
  return .created (text "controller_id") controllerId

/-- `block_controller` -/
def blockController (settings : AdminSettings) (session : Session) (controllerId reason : Text) :
    Py AdminReply :=
  match settings.parseUuid controllerId with
  | none => throw (.raised (text "ValueError"))
  | some cid => do
      block cid reason
      let _ ← audit (blockCall session cid reason)
      return .noContent

/-- `create_door` -/
def createDoor (session : Session) (body : DoorCreate) : Py AdminReply := do
  let doorId ← createDoorRow body
  let _ ← audit (createDoorCall session doorId body.code)
  return .created (text "door_id") doorId

/-- The arguments of `grant`. -/
def PermissionCreate.args (body : PermissionCreate) (session : Session) : GrantArgs where
  userId := body.userId
  doorId := body.doorId
  createdBy := some session.userId
  weekdayMask := body.weekdayMask
  startTime := body.startTime
  endTime := body.endTime
  timeZone := body.timeZone
  validUntil := body.validUntil

/-- `grant_permission` -/
def grantPermission (session : Session) (body : PermissionCreate) : Py AdminReply := do
  let permissionId ← grant (body.args session)
  let _ ← audit (grantCall session (body.args session))
  return .created (text "permission_id") permissionId

/-- The route of a request. -/
def route (settings : AdminSettings) (session : Session) : AdminRequest → Py AdminReply
  | .readAudit limit beforeSeq eventType => readAudit limit beforeSeq eventType
  | .verifyChain fromSeq => verifyChain fromSeq
  | .listControllers => listControllers
  | .registerController body => registerController session body
  | .blockController controllerId reason => blockController settings session controllerId reason
  | .createDoor body => createDoor session body
  | .grantPermission body => grantPermission session body

/-- What becomes of a request, with the address that it comes from and its header. -/
def handle (settings : AdminSettings) (client authorization : Option Text)
    (request : AdminRequest) : Py AdminReply :=
  if restrictSource settings.networks client then do
    let session ← adminSession settings.toAuthSettings settings.isFinal authorization
    route settings session request
  else return .forbidden

end DoorsControl.Admin
