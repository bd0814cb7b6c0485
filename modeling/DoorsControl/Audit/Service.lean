import DoorsControl.Audit.Chain

/-!
# Audit records as the services write them

`AuditEvent` of `app/core/errors.py` and the arguments of `AuditService.record`.
-/

namespace DoorsControl.Audit

/-- `AuditEvent` -/
inductive AuditEvent where
  | deviceEnroll
  | deviceEnrollDenied
  | authLogin
  | authLoginFailed
  | authRefresh
  | authRefreshReuse
  | authLogout
  | authTokenRejected
  | doorUnlockRequested
  | doorUnlockGranted
  | doorUnlockDenied
  | doorUnlockConfirmed
  | doorUnlockFailed
  | rateLimitTripped
  | controllerConnected
  | controllerAuthFailed
  | controllerDisconnected
  | adminAction
  deriving DecidableEq, Repr

/-- `str(event)`, the `event_type` column. -/
def AuditEvent.label : AuditEvent → Text
  | .deviceEnroll => text "device.enroll"
  | .deviceEnrollDenied => text "device.enroll_denied"
  | .authLogin => text "auth.login"
  | .authLoginFailed => text "auth.login_failed"
  | .authRefresh => text "auth.refresh"
  | .authRefreshReuse => text "auth.refresh_reuse_detected"
  | .authLogout => text "auth.logout"
  | .authTokenRejected => text "auth.token_rejected"
  | .doorUnlockRequested => text "door.unlock_requested"
  | .doorUnlockGranted => text "door.unlock_granted"
  | .doorUnlockDenied => text "door.unlock_denied"
  | .doorUnlockConfirmed => text "door.unlock_confirmed"
  | .doorUnlockFailed => text "door.unlock_failed"
  | .rateLimitTripped => text "rate.limit_tripped"
  | .controllerConnected => text "controller.connected"
  | .controllerAuthFailed => text "controller.auth_failed"
  | .controllerDisconnected => text "controller.disconnected"
  | .adminAction => text "admin.action"

/-- The arguments of `AuditService.record`. -/
structure AuditCall where
  event : AuditEvent
  outcome : AuditOutcome
  actorType : ActorType := .system
  actorId : Option Uuid := none
  deviceId : Option Uuid := none
  doorId : Option Uuid := none
  controllerId : Option Uuid := none
  clientIp : Option Text := none
  detail : List (Text × Json Text) := []

end DoorsControl.Audit
