import DoorsControl.Data.Base64
import DoorsControl.Signer.Protocol

/-!
# The signer's service

`SignerService.handle` of `backend/signer/server.py`. The Ed25519 key is a signing
function; `signed` is what `handle` passes to it.
-/

namespace DoorsControl.Signer

structure SignerService where
  /-- `self._key.sign` -/
  sign : Bytes → Bytes
  publicKey : Bytes
  keyId : Text

/-- A command that was signed: the payload and the bytes under the signature. -/
structure SignedCommand where
  payload : Dict
  message : Bytes

/-- What a request leads to: the response, unless an exception ended the
connection, and the command that was signed for it. -/
structure Handled where
  response : Option Dict
  signed : Option SignedCommand

def errorResponse (message : Text) : Dict :=
  [(text "ok", .bool false), (text "error", .str message)]

/-- The branch of `handle` for `"op": "sign"`. -/
def handleSign (service : SignerService) (payload : Dict) : Handled :=
  match validateCommand payload with
  | .error message => ⟨some (errorResponse (text "refused: " ++ message)), none⟩
  | .ok () =>
      match canonicalBytes payload with
      | none => ⟨none, none⟩
      | some message =>
          ⟨some [(text "ok", .bool true),
              (text "signature", .str (chars (b64encode (service.sign message)))),
              (text "key_id", .str service.keyId), (text "alg", .str (text "ed25519"))],
            some ⟨payload, message⟩⟩

/-- `SignerService.handle` -/
def handle (service : SignerService) (request : Dict) : Handled :=
  match Json.get? request (text "op") with
  | some (.str op) =>
      if op = text "public_key" then
        ⟨some [(text "ok", .bool true),
            (text "public_key", .str (chars (b64encode service.publicKey))),
            (text "key_id", .str service.keyId), (text "alg", .str (text "ed25519"))], none⟩
      else if op = text "sign" then
        match Json.get? request (text "payload") with
        | some (.obj payload) => handleSign service payload
        | _ => ⟨some (errorResponse (text "payload must be an object")), none⟩
      else ⟨some (errorResponse (text "unknown op")), none⟩
  | _ => ⟨some (errorResponse (text "unknown op")), none⟩

/-- Only valid commands are signed: the payload of the request, over its canonical
bytes. -/
theorem signed_of_handle {service : SignerService} {request : Dict} {command : SignedCommand}
    (h : (handle service request).signed = some command) :
    Json.get? request (text "payload") = some (.obj command.payload) ∧
      validateCommand command.payload = .ok () ∧
      canonicalBytes command.payload = some command.message := by
  have signing : ∀ payload, (handleSign service payload).signed = some command →
      payload = command.payload ∧ validateCommand command.payload = .ok () ∧
        canonicalBytes command.payload = some command.message := by
    intro payload signed
    unfold handleSign at signed
    split at signed
    · cases signed
    · rename_i valid
      split at signed
      · cases signed
      · rename_i message canonical
        obtain rfl := Option.some.inj signed
        exact ⟨rfl, valid, canonical⟩
  unfold handle at h
  split at h
  · split_ifs at h
    split at h
    · rename_i payload sent
      obtain ⟨rfl, rest⟩ := signing payload h
      exact ⟨sent, rest⟩
    · cases h
  · cases h

end DoorsControl.Signer
