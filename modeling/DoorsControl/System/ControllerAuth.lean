import DoorsControl.Backend.HandshakeRun
import DoorsControl.Firmware.WsLink

/-!
# Controller authentication

Both ends of the handshake. The board builds the message that it signs in a buffer of 128
bytes, the server with `bytes`; what the server concludes from a signature that verifies is
in `Backend.HandshakeRun`.

* `handleChallenge_eq` — **the board signs exactly `auth_message`**;
* `controller_authentication` — the handshake as a whole.
-/

namespace DoorsControl.System

open Backend (AuthFrame Authenticated ControllerCreate HandshakeAction HandshakeChoice HandshakePool
  HandshakeReach SocketError SocketSettings authMessage handshakeServer handshakeBody
  quietHandshakes)
open Firmware (Config Effect Platform handleChallenge)

/-! ## The board's end -/

/-- The codes of controllers are ASCII. -/
theorem ascii_of_create (body : ControllerCreate) : ∀ c ∈ body.code, c.val < 0x80 := by
  intro c mem
  have allowed := List.all_eq_true.mp body.code_pattern c mem
  unfold Backend.isCodeChar at allowed
  simp only [Bool.or_eq_true, Bool.and_eq_true, decide_eq_true_eq] at allowed
  rcases allowed with (⟨-, letter⟩ | ⟨-, digit⟩) | rfl
  · omega
  · omega
  · decide

/-- A byte for every character. -/
theorem length_utf8_ascii {s : Text} (ascii : ∀ c ∈ s, c.val < 0x80) :
    (utf8 s).length = s.length := by
  induction s with
  | nil => rfl
  | cons c rest ih =>
      rw [utf8_cons, utf8Char_ascii (ascii c List.mem_cons_self), List.length_append,
        List.length_cons, ih fun d mem => ascii d (List.mem_cons_of_mem _ mem)]
      simp only [List.length_cons, List.length_nil]
      omega

theorem encodeUtf8_ascii {s : Text} (ascii : ∀ c ∈ s, c.val < 0x80) :
    encodeUtf8 s = some (utf8 s) := by
  unfold encodeUtf8
  refine if_neg ?_
  simp only [List.any_eq_true, isSurrogate, Bool.and_eq_true, decide_eq_true_eq]
  rintro ⟨c, mem, high, -⟩
  have small := ascii c mem
  omega

/-- The frame with which a board answers a challenge. -/
def authReply (config : Config) (signature : Bytes) : Effect :=
  .sendTXT (.obj
    [(ascii "type", .str (ascii "auth")), (ascii "controller_code", .str config.controllerCode),
      (ascii "signature", .str (asciiBytes (b64encode signature))),
      (ascii "firmware_version", .str config.firmwareVersion)])

/-- The board signs the server's message, which fits the buffer. -/
theorem handleChallenge_eq {platform : Platform} {config : Config} {code : Text} {nonce : Bytes}
    (length : nonce.length = 32) (short : code.length ≤ 64) (ascii : ∀ c ∈ code, c.val < 0x80)
    (configured : config.controllerCode = utf8 code)
    (decoded : platform.base64Decode (asciiBytes (b64encode nonce)) 64 = nonce) :
    ∃ message, authMessage code nonce = some message ∧
      handleChallenge platform config (asciiBytes (b64encode nonce)) =
        [authReply config (platform.signWithControllerKey message)] := by
  refine ⟨Backend.authDomain ++ utf8 code ++ [0] ++ nonce, ?_, ?_⟩
  · unfold authMessage
    rw [encodeUtf8_ascii ascii, Option.map_some]
  · have domain : Firmware.authDomain = Backend.authDomain := rfl
    have domainLength : Backend.authDomain.length = 23 := by decide
    have fits : ¬ (Backend.authDomain ++ utf8 code ++ [0] ++ nonce).length > 128 := by
      simp only [List.length_append, List.length_singleton, length_utf8_ascii ascii, length,
        domainLength]
      omega
    have some : nonce ≠ [] := by
      rintro rfl
      cases length
    unfold handleChallenge
    rw [decoded, configured, domain, if_neg some, if_neg fits]
    rw [← configured]
    rfl

/-! ## The handshake -/

/-- **Controller authentication.** Whatever runs on any number of connections, a session is
registered under a code only if the key of that controller has signed the message for the code
and the nonce of this very connection, and the controller was not blocked when it was looked
up; the message is for one code and one nonce; and it is what the board signs. -/
theorem controller_authentication :
    (∀ (settings : SocketSettings) (p : HandshakePool), HandshakeReach settings p →
      ∀ object ∈ p.store.hub.objects, Authenticated p object.remote object.controllerCode) ∧
    (∀ (code code' : Text) (nonce nonce' message : Bytes), nonce.length = 32 →
      nonce'.length = 32 → authMessage code nonce = some message →
        authMessage code' nonce' = some message → code = code' ∧ nonce = nonce') ∧
    (∀ (platform : Platform) (config : Config) (code : Text) (nonce : Bytes),
      nonce.length = 32 → code.length ≤ 64 → (∀ c ∈ code, c.val < 0x80) →
        config.controllerCode = utf8 code →
          platform.base64Decode (asciiBytes (b64encode nonce)) 64 = nonce →
            ∃ message, authMessage code nonce = some message ∧
              handleChallenge platform config (asciiBytes (b64encode nonce)) =
                [authReply config (platform.signWithControllerKey message)]) := by
  refine ⟨?_, ?_, ?_⟩
  · intro settings p reach
    exact Backend.session_authenticated reach
  · intro code code' nonce nonce' message length length' first second
    exact Backend.authMessage_inj (length.trans length'.symm) first second
  · intro platform config code nonce length short ascii configured decoded
    exact handleChallenge_eq length short ascii configured decoded

/-! ### One controller -/

def frontKey : Bytes := List.replicate 32 7
def frontNonce : Bytes := List.replicate 32 1
def frontSignature : Bytes := List.replicate 64 0

def frontAuth : Json Text :=
  .obj [(text "type", .str (text "auth")), (text "controller_code", .str (text "front")),
    (text "signature", .str (chars (b64encode frontSignature)))]

/-- The libraries, on what is sent here. -/
def frontSocket : SocketSettings where
  handshakeTimeoutSeconds := 10
  heartbeatSeconds := 25
  signerKeyId := text "signer-1"
  loads raw :=
    if raw = Backend.jsonDumps frontAuth then .ok frontAuth
    else .error (.refused (text "JSONDecodeError"))
  pyStr _ := []
  b64decode
    | .str s =>
        if s = chars (b64encode frontSignature) then .ok frontSignature
        else .error (.refused (text "Error"))
    | _ => .error (.other (text "TypeError"))

def frontMessage : Bytes := Backend.authDomain ++ ascii "front" ++ [0] ++ frontNonce

def frontStep (call : Nat) : HandshakeAction :=
  .run call { nonce := frontNonce, frame := some (Backend.jsonDumps frontAuth), valid := true }

/-- The controller is created and connects, and its key signs the challenge. -/
def frontHandshake : List HandshakeAction :=
  [.start (.create ⟨1, text "front", frontKey, false⟩), frontStep 0, .start (.connect none)] ++
    List.replicate 4 (frontStep 1) ++ [.start (.sign frontKey frontMessage), frontStep 2] ++
    List.replicate 7 (frontStep 1)

def frontConfig : Config where
  controllerCode := utf8 (text "front")
  firmwareVersion := ascii "1.0.0"
  signerPublicKey := []
  pinRelay := 0
  relayActiveHigh := true
  relayMaxMs := 10000
  heartbeatTimeoutS := 60
  maxClockSkewS := 30

def frontPlatform : Platform where
  deserializeJson _ := none
  base64Decode input _ := if input = asciiBytes (b64encode frontNonce) then frontNonce else []
  verifySignature _ _ _ := false
  signWithControllerKey _ := frontSignature

theorem controller_authentication_sample :
    (∃ p, HandshakeReach frontSocket p ∧
      p.store.hub.objects.map (fun object => (object.remote, object.controllerCode)) =
        [(1, text "front")] ∧
      ∀ object ∈ p.store.hub.objects, Authenticated p object.remote object.controllerCode) ∧
    (text "front" = text "front" ∧ frontNonce = frontNonce) ∧
    ∃ message, authMessage (text "front") frontNonce = some message ∧
      handleChallenge frontPlatform frontConfig (asciiBytes (b64encode frontNonce)) =
        [authReply frontConfig (frontPlatform.signWithControllerKey message)] := by
  have ran : (Kit.Pool.run handshakeServer (handshakeBody frontSocket) (fun _ _ => true)
      quietHandshakes frontHandshake).map
        (fun p => p.store.hub.objects.map fun object => (object.remote, object.controllerCode)) =
      some [(1, text "front")] := by
    decide +kernel
  obtain ⟨p, reach, seen⟩ := Kit.Pool.reach_of_map_run frontHandshake ran
  have isMessage : authMessage (text "front") frontNonce = some frontMessage := by
    decide +kernel
  refine ⟨⟨p, reach, seen, controller_authentication.1 frontSocket p reach⟩, ?_, ?_⟩
  · exact controller_authentication.2.1 _ _ _ _ frontMessage (by decide) (by decide) isMessage
      isMessage
  · have ascii := ascii_of_create
      ⟨text "front", text "Front", by decide, by decide, by decide⟩
    exact controller_authentication.2.2 frontPlatform frontConfig (text "front") frontNonce
      (by decide) (by decide) ascii rfl (by decide +kernel)

end DoorsControl.System
