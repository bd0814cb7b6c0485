import DoorsControl.Data.Text

/-!
# What the backend raises

The errors of `app/core/errors.py`, of the signer client and of the hub that the
unlock path raises or catches, with the built-in exceptions its expressions can
raise.
-/

namespace DoorsControl.Backend

/-- `DenyReason`, what the phone is told. -/
inductive DenyReason where
  | denied
  | notPresent
  | controllerOffline
  | rateLimited
  | failed
  deriving DecidableEq, Repr

inductive PyError where
  | unlockDenied (reason : DenyReason) (internalReason : Text)
  | rateLimited (retryAfterSeconds : Int)
  | signerUnavailable (message : Text)
  | signerRefused (message : Text)
  | controllerOffline (message : Text)
  | commandTimeout (message : Text)
  | typeError
  | valueError
  | overflowError
  | zeroDivisionError
  | unboundLocalError
  /-- Anything else, such as what the database driver raises. -/
  | other (name : Text)
  deriving DecidableEq, Repr

end DoorsControl.Backend
