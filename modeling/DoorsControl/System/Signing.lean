import DoorsControl.Backend.RoundTrip
import DoorsControl.Data.Base64Url
import DoorsControl.Signer.Connection
import DoorsControl.System.Genuine
import DoorsControl.System.OnePayload
import Mathlib.Algebra.GroupWithZero.Nat

/-!
# From the API to the signer and back

`SignerClient.sign_command` and `_serve_client` joined by the bytes between them, in whatever
pieces these arrive.

* `served_request` — the signer answers the request that was written;
* `sign_command_exchange` — **what the call returns is what the signer did**: the signature of the
  canonical bytes, or its refusal;
* `genuine_signed` — every command the API builds comes back signed.
-/

namespace DoorsControl.System

open JsonReader
open Kit (ended)
open Backend (PyError Reply encodeRequest decodeLine signCommandWith jsonDumps rejoined a2bLoop
  base64Value b64decode commandPayload UnlockSettings DoorRecord DoorController DoorRow
  ControllerRow ControllerCreate Creatable byId isPrintable printable_of_all)
open Signer (Dict SignerService Served loadsBytes lineOutcome newConnection serveClient
  maxLineBytes readerLimit errorResponse validateCommand canonicalBytes)

/-! ## Base64 -/

theorem base64Value_digit : ∀ n : Fin 64,
    base64Value (codePoint (base64Digit '+' '/' n)) = some n.val ∧
      codePoint (base64Digit '+' '/' n) ≠ codePoint '=' := by
  decide +kernel

section Digits

variable {n : Nat} (small : n < 64) (left pads : Nat) (rest : Text)
include small

theorem a2bLoop_first : a2bLoop 0 left pads (codePoint (base64Digit '+' '/' n) :: rest) =
    a2bLoop 1 n 0 rest := by
  obtain ⟨value, digit⟩ := base64Value_digit ⟨n, small⟩
  rw [a2bLoop, if_neg digit, value]
  rfl

theorem a2bLoop_second : a2bLoop 1 left pads (codePoint (base64Digit '+' '/' n) :: rest) =
    do
      let more ← a2bLoop 2 (n % 16) 0 rest
      return UInt8.ofNat (left * 4 + n / 16) :: more := by
  obtain ⟨value, digit⟩ := base64Value_digit ⟨n, small⟩
  rw [a2bLoop, if_neg digit, value]
  rfl

theorem a2bLoop_third : a2bLoop 2 left pads (codePoint (base64Digit '+' '/' n) :: rest) =
    do
      let more ← a2bLoop 3 (n % 4) 0 rest
      return UInt8.ofNat (left * 16 + n / 4) :: more := by
  obtain ⟨value, digit⟩ := base64Value_digit ⟨n, small⟩
  rw [a2bLoop, if_neg digit, value]
  rfl

theorem a2bLoop_fourth : a2bLoop 3 left pads (codePoint (base64Digit '+' '/' n) :: rest) =
    do
      let more ← a2bLoop 0 0 0 rest
      return UInt8.ofNat (left * 64 + n) :: more := by
  obtain ⟨value, digit⟩ := base64Value_digit ⟨n, small⟩
  rw [a2bLoop, if_neg digit, value]
  rfl

end Digits

theorem byte_eq {n : Nat} {b : UInt8} (same : n = b.toNat) : UInt8.ofNat n = b := by
  rw [same, UInt8.ofNat_toNat]

/-- What `b64encode` writes, `b64decode` reads. -/
theorem a2bLoop_b64encode (bytes : Bytes) : a2bLoop 0 0 0 (chars (b64encode bytes)) = .ok bytes := by
  unfold b64encode
  fun_induction base64With (base64Digit '+' '/') bytes with
  | case1 => rfl
  | case2 a n =>
      have bound := a.toNat_lt
      show a2bLoop 0 0 0 (codePoint _ :: codePoint _ :: codePoint '=' :: codePoint '=' :: []) = _
      rw [a2bLoop_first (by omega), a2bLoop_second (by omega)]
      show Except.ok [UInt8.ofNat _] = _
      rw [byte_eq (b := a) (by omega)]
  | case3 a b n =>
      have boundA := a.toNat_lt
      have boundB := b.toNat_lt
      show a2bLoop 0 0 0 (codePoint _ :: codePoint _ :: codePoint _ :: codePoint '=' :: []) = _
      rw [a2bLoop_first (by omega), a2bLoop_second (by omega), a2bLoop_third (by omega)]
      show Except.ok [UInt8.ofNat _, UInt8.ofNat _] = _
      rw [byte_eq (b := a) (by omega), byte_eq (b := b) (by omega)]
  | case4 a b c rest n ih =>
      have boundA := a.toNat_lt
      have boundB := b.toNat_lt
      have boundC := c.toNat_lt
      show a2bLoop 0 0 0 (codePoint _ :: codePoint _ :: codePoint _ :: codePoint _ ::
        chars (base64With (base64Digit '+' '/') rest)) = _
      rw [a2bLoop_first (by omega), a2bLoop_second (by omega), a2bLoop_third (by omega),
        a2bLoop_fourth (by omega), ih]
      show Except.ok (UInt8.ofNat _ :: UInt8.ofNat _ :: UInt8.ofNat _ :: rest) = _
      rw [byte_eq (b := a) (by omega), byte_eq (b := b) (by omega), byte_eq (b := c) (by omega)]

theorem b64decode_b64encode (bytes : Bytes) :
    b64decode (.str (chars (b64encode bytes))) = .ok bytes := by
  have small : ((chars (b64encode bytes)).all fun c => c.val < 128) = true := by
    rw [List.all_eq_true]
    intro c mem
    obtain ⟨d, inside, rfl⟩ := List.mem_map.mp mem
    have range := b64encode_range inside
    rw [codePoint_val (by omega), decide_eq_true_eq]
    omega
  rw [b64decode, if_pos small, a2bLoop_b64encode]

/-! ## One message on the wire -/

/-- A message is one line. -/
theorem cut_encodeRequest (message : Dict) :
    Kit.cut 0x0a (encodeRequest message) = ([encodeRequest message], []) := by
  refine Kit.cut_line ?_
  intro b mem same
  obtain ⟨c, inside, byte⟩ := List.mem_flatMap.mp mem
  have printable := Backend.jsonDumps_printable (.obj message) c inside
  rw [utf8Char_ascii (by omega), List.mem_singleton] at byte
  have value := congrArg UInt8.toNat (byte.symm.trans same)
  rw [UInt8.toNat_ofNat'] at value
  have newline : (0x0a : UInt8).toNat = 10 := rfl
  omega

/-- The other side reads the message, with its surrogate pairs joined. -/
theorem decodeLine_encodeRequest {py : Interpreter} (exact : py.Exact) {message fields : Dict}
    (fine : (Json.obj message).All Json.Fine) (shallow : (Json.obj message).nesting ≤ py.depth)
    (joined : rejoined (.obj message) = .obj fields) :
    decodeLine (loadsBytes py) (encodeRequest message) = .ok fields := by
  have written : encodeRequest message = utf8 (jsonDumps (.obj message) ++ [10]) := by
    rw [utf8_append]
    rfl
  have clean : NoSurrogates (jsonDumps (.obj message) ++ [10]) := by
    intro c mem
    rcases List.mem_append.mp mem with mem | mem
    · exact Backend.noSurrogates_jsonDumps _ c mem
    · rw [List.mem_singleton.mp mem]
      decide
  have newline : ∀ c ∈ ([10] : Text), isSpace c = true := by
    intro c mem
    rw [List.mem_singleton.mp mem]
    rfl
  rw [decodeLine, written, loadsBytes, decodeUtf8_utf8 clean, Option.bind_some,
    Backend.loads_jsonDumps_space exact fine shallow newline, joined]
  rfl

/-! ## The signer's side -/

section Request

variable {py : Interpreter} (exact : py.Exact) (service : SignerService) {request fields : Dict}
  (fine : (Json.obj request).All Json.Fine) (shallow : (Json.obj request).nesting ≤ py.depth)
  (joined : rejoined (.obj request) = .obj fields)
  (short : (encodeRequest request).length ≤ maxLineBytes)

include exact fine shallow joined short

theorem lineOutcome_request : lineOutcome py service (encodeRequest request) =
    ⟨(Signer.handle service fields).response, (Signer.handle service fields).signed,
      if (Signer.handle service fields).response.isNone then some .raised else none⟩ := by
  have nonempty : encodeRequest request ≠ [] := by simp [encodeRequest]
  rw [lineOutcome, if_neg nonempty, if_neg (Nat.not_lt.mpr short),
    decodeLine_encodeRequest exact fine shallow joined]

variable {chunks : List Bytes} (sent : chunks.flatten = encodeRequest request)

include sent

/-- **The signer answers the request that was written**, whatever pieces it came in. -/
theorem served_request :
    (chunks.foldl (serveClient py service).receive (Kit.LineServer.start newConnection)).state =
      ⟨(Signer.handle service fields).response.toList, (Signer.handle service fields).signed.toList,
        if (Signer.handle service fields).response.isNone then some .raised else none⟩ := by
  have reached := (serveClient py service).receive_chunks newConnection chunks
  have within : ¬ (serveClient py service).limit + 1 < (encodeRequest request).length := by
    show ¬ readerLimit + 1 < (encodeRequest request).length
    have : maxLineBytes = 8192 := rfl
    have : readerLimit = 65536 := rfl
    omega
  have line : (serveClient py service).turn newConnection (encodeRequest request) =
      newConnection.add (lineOutcome py service (encodeRequest request)) := by
    rw [Kit.LineServer.turn, if_neg (by exact Bool.false_ne_true), if_neg within]
    rfl
  rw [reached.state, sent, (serveClient py service).served_line newConnection
    (cut_encodeRequest request), line, lineOutcome_request exact service fine shallow joined short]
  rfl

/-- No more is signed on the connection. -/
theorem signed_request :
    (Signer.serve py service chunks).signed = (Signer.handle service fields).signed.toList := by
  obtain ⟨read, answers, same⟩ := Signer.serve_answers py service chunks
  have outcome := lineOutcome_request exact service fine shallow joined short
  have within : ¬ readerLimit < ((encodeRequest request).filter (· ≠ 0x0a)).length := by
    have := List.length_filter_le (· ≠ (0x0a : UInt8)) (encodeRequest request)
    have : maxLineBytes = 8192 := rfl
    have : readerLimit = 65536 := rfl
    omega
  have one : Signer.linesRead py service [encodeRequest request] = [encodeRequest request] := by
    rw [Signer.linesRead, if_neg within]
    split <;> rfl
  rw [sent, Signer.linesOf, cut_encodeRequest, if_pos rfl, List.append_nil, one] at same
  rw [answers.signed, ← same, List.filterMap_cons, outcome]
  cases (Signer.handle service fields).signed <;> rfl

end Request

/-! ## The client's side -/

/-- What `readline` returns of what was written on the socket; a line beyond the limit is a
`ValueError`. -/
def replyOf (written : Bytes) : Reply :=
  match (Kit.cut 0x0a written).1 with
  | [] => .line (Kit.cut 0x0a written).2
  | line :: _ => if readerLimit + 1 < line.length then .raised (text "ValueError") else .line line

theorem replyOf_response {response : Dict} (short : (encodeRequest response).length ≤ readerLimit) :
    replyOf (encodeRequest response) = .line (encodeRequest response) := by
  rw [replyOf, cut_encodeRequest]
  exact if_neg (by omega)

/-- What the client makes of a response that was written. -/
theorem request_response {py : Interpreter} (exact : py.Exact) {response : Dict}
    (fine : (Json.obj response).All Json.Fine) (settled : (Json.obj response).All Json.Settled)
    (shallow : (Json.obj response).nesting ≤ py.depth)
    (short : (encodeRequest response).length ≤ readerLimit) :
    Backend.request (loadsBytes py) (replyOf (encodeRequest response)) = .ok response := by
  have nonempty : encodeRequest response ≠ [] := by simp [encodeRequest]
  rw [replyOf_response short, Backend.request, if_neg nonempty]
  exact decodeLine_encodeRequest exact fine shallow ((Backend.rejoined_eq_iff _ fine).mpr settled)

theorem unpaired_of_small {s : Text} (small : ∀ c ∈ s, c.val < 0xd800) : Unpaired s := by
  induction s with
  | nil => exact .nil
  | cons c s ih =>
      cases s with
      | nil => exact .singleton c
      | cons d s =>
          refine List.isChain_cons_cons.mpr ⟨?_, ih fun e mem => small e (List.mem_cons_of_mem _ mem)⟩
          rintro ⟨isHigh, -⟩
          have := small c List.mem_cons_self
          simp only [isHighSurrogate, Bool.and_eq_true, decide_eq_true_eq] at isHigh
          omega

theorem unpaired_of_printable {s : Text} (printable : Backend.Printable s) : Unpaired s := by
  refine unpaired_of_small ?_
  intro c mem
  have := (printable c mem).2
  omega

/-- A step of the checks that did not go through. -/
theorem then_error {first second : Except Text Unit} {message : Text}
    (h : (do first; second : Except Text Unit) = .error message) :
    first = .error message ∨ second = .error message := by
  cases first with
  | error e => exact .inl h
  | ok => exact .inr h

theorem require_error {condition : Bool} {message other : Text}
    (h : Signer.require condition other = .error message) : message = other := by
  cases condition with
  | true => cases h
  | false => exact (Except.error.inj h).symm

/-- Names of the source. -/
theorem unpaired_keys {fields : Dict} {names : List Text} (keys : fields.map Prod.fst = names)
    (plain : (names.all fun name => name.all isPrintable) = true) :
    ∀ field ∈ fields, Unpaired field.1 := by
  intro field mem
  have named : field.1 ∈ names := keys ▸ List.mem_map_of_mem mem
  exact unpaired_of_printable (printable_of_all (List.all_eq_true.mp plain field.1 named))

theorem nodup_keys {fields : Dict} {names : List Text} (keys : fields.map Prod.fst = names)
    (once : names.Nodup) : (fields.map Prod.fst).Nodup := by
  rw [keys]
  exact once

/-- A refusal is plain ASCII. -/
theorem refusal_printable {payload : Dict} {message : Text}
    (refused : validateCommand payload = .error message) : Backend.Printable message := by
  have literal : ∀ s : Text, s.all isPrintable = true → Backend.Printable s :=
    fun _ => printable_of_all
  obtain missing | refused := then_error refused
  · rw [require_error missing]
    refine Backend.Printable.append (literal _ (by decide)) (Backend.joinComma_printable ?_)
    intro name mem
    have each : ∀ name ∈ Signer.requiredCommandFields,
        name.all isPrintable = true := by decide
    exact literal name (each name (List.mem_of_mem_filter mem))
  obtain unknown | refused := then_error refused
  · rw [require_error unknown]
    exact literal _ (by decide)
  obtain long | refused := then_error refused
  · rw [require_error long]
    exact literal _ (by decide)
  obtain times | nonce := then_error refused
  · unfold Signer.checkTtl at times
    split at times
    · rw [require_error times]
      exact literal _ (by decide)
    · rw [← Except.error.inj times]
      exact literal _ (by decide)
  · rw [require_error nonce]
    exact literal _ (by decide)

theorem errorResponse_settled {message : Text} (printable : Backend.Printable message) :
    (Json.obj (errorResponse message)).All Json.Fine ∧
      (Json.obj (errorResponse message)).All Json.Settled := by
  have keys : (errorResponse message).map Prod.fst = [text "ok", text "error"] := rfl
  refine ⟨⟨nodup_keys keys (by decide), trivial, trivial, trivial⟩,
    ⟨unpaired_keys keys (by decide), trivial, ?_, trivial⟩⟩
  exact unpaired_of_printable printable

/-- The response to a request that was signed. -/
def signedResponse (service : SignerService) (message : Bytes) : Dict :=
  [(text "ok", .bool true), (text "signature", .str (chars (b64encode (service.sign message)))),
    (text "key_id", .str service.keyId), (text "alg", .str (text "ed25519"))]

theorem signedResponse_settled {service : SignerService} (keyId : Unpaired service.keyId)
    (message : Bytes) : (Json.obj (signedResponse service message)).All Json.Fine ∧
      (Json.obj (signedResponse service message)).All Json.Settled := by
  have keys : (signedResponse service message).map Prod.fst =
      [text "ok", text "signature", text "key_id", text "alg"] := rfl
  have alg : Unpaired (text "ed25519") := unpaired_of_printable (printable_of_all (by decide))
  refine ⟨⟨nodup_keys keys (by decide), trivial, trivial, trivial, trivial, trivial⟩,
    ⟨unpaired_keys keys (by decide), trivial, ?_, keyId, alg, trivial⟩⟩
  refine unpaired_of_small ?_
  intro c mem
  obtain ⟨d, inside, rfl⟩ := List.mem_map.mp mem
  have range := b64encode_range inside
  rw [codePoint_val (by omega)]
  omega

/-! ## The call -/

/-- What the client makes of a response that was written for it. -/
theorem signCommandWith_response {py : Interpreter} (exact : py.Exact) (pyStr : Json Text → Text)
    {response : Dict} (fine : (Json.obj response).All Json.Fine)
    (settled : (Json.obj response).All Json.Settled)
    (shallow : (Json.obj response).nesting ≤ py.depth)
    (short : (encodeRequest response).length ≤ readerLimit) :
    signCommandWith pyStr (loadsBytes py) (replyOf (encodeRequest response)) =
      signCommandWith pyStr (fun _ => some (.obj response)) (.line [0]) := by
  rw [signCommandWith, request_response exact fine settled shallow short]
  rfl

theorem signRequest_read {py : Interpreter} {payload : Dict}
    (fine : (Json.obj payload).All Json.Fine) (settled : (Json.obj payload).All Json.Settled)
    (shallow : (Json.obj payload).nesting < py.depth) :
    (Json.obj (signRequest payload)).All Json.Fine ∧
      (Json.obj (signRequest payload)).nesting ≤ py.depth ∧
      rejoined (.obj (signRequest payload)) = .obj (signRequest payload) := by
  have keys : (signRequest payload).map Prod.fst = [text "op", text "payload"] := rfl
  have op : Unpaired (text "sign") := unpaired_of_printable (printable_of_all (by decide))
  have fineRequest : (Json.obj (signRequest payload)).All Json.Fine :=
    ⟨nodup_keys keys (by decide), trivial, fine, trivial⟩
  have settledRequest : (Json.obj (signRequest payload)).All Json.Settled :=
    ⟨unpaired_keys keys (by decide), op, settled, trivial⟩
  refine ⟨fineRequest, ?_, (Backend.rejoined_eq_iff _ fineRequest).mpr settledRequest⟩
  show max 0 (max (Json.obj payload).nesting 0) + 1 ≤ py.depth
  omega

section Exchange

variable {py : Interpreter} (exact : py.Exact) (pyStr : Json Text → Text)
  (service : SignerService) {payload : Dict} (fine : (Json.obj payload).All Json.Fine)
  (settled : (Json.obj payload).All Json.Settled)
  (shallow : (Json.obj payload).nesting < py.depth)
  (short : (encodeRequest (signRequest payload)).length ≤ maxLineBytes)
  {chunks : List Bytes} (sent : chunks.flatten = encodeRequest (signRequest payload))

include exact fine settled shallow short sent

/-- What is on the socket after the request. -/
theorem written_signRequest :
    (chunks.foldl (serveClient py service).receive (Kit.LineServer.start newConnection)).state.written =
      (Signer.handleSign service payload).response.toList.flatMap encodeRequest := by
  obtain ⟨fineRequest, deep, joined⟩ := signRequest_read fine settled shallow
  rw [served_request exact service fineRequest deep joined short sent]
  rfl

/-- What is signed on the connection. -/
theorem signed_signRequest : (Signer.serve py service chunks).signed =
    (Signer.handleSign service payload).signed.toList := by
  obtain ⟨fineRequest, deep, joined⟩ := signRequest_read fine settled shallow
  exact signed_request exact service fineRequest deep joined short sent

/-- A command that the signer signs. -/
theorem exchange_signed (keyId : Unpaired service.keyId) (valid : validateCommand payload = .ok ())
    {message : Bytes} (canonical : canonicalBytes payload = some message)
    (fits : (encodeRequest (signedResponse service message)).length ≤ readerLimit) :
    signCommandWith pyStr (loadsBytes py)
      (replyOf (chunks.foldl (serveClient py service).receive
        (Kit.LineServer.start newConnection)).state.written) =
      .ok (service.sign message, .str service.keyId) := by
  have one : 1 ≤ py.depth := by omega
  have response : (Signer.handleSign service payload).response =
      some (signedResponse service message) := by
    rw [Signer.handleSign, valid]
    simp only [canonical]
    rfl
  obtain ⟨fineResponse, settledResponse⟩ := signedResponse_settled keyId message
  rw [written_signRequest exact service fine settled shallow short sent, response]
  simp only [Option.toList_some, List.flatMap_cons, List.flatMap_nil, List.append_nil]
  rw [signCommandWith_response exact pyStr fineResponse settledResponse one fits]
  show (do
    let signature ← b64decode (.str (chars (b64encode (service.sign message))))
    return (signature, Json.str service.keyId)) = _
  rw [b64decode_b64encode]
  rfl

/-- A command that the signer refuses. -/
theorem exchange_refused {message : Text} (refused : validateCommand payload = .error message)
    (fits : (encodeRequest (errorResponse (text "refused: " ++ message))).length ≤ readerLimit) :
    signCommandWith pyStr (loadsBytes py)
      (replyOf (chunks.foldl (serveClient py service).receive
        (Kit.LineServer.start newConnection)).state.written) =
      .error (.signerRefused (pyStr (.str (text "refused: " ++ message)))) := by
  have one : 1 ≤ py.depth := by omega
  have response : (Signer.handleSign service payload).response =
      some (errorResponse (text "refused: " ++ message)) := by
    rw [Signer.handleSign, refused]
  have printable : Backend.Printable (text "refused: " ++ message) :=
    Backend.Printable.append (printable_of_all (by decide)) (refusal_printable refused)
  obtain ⟨fineResponse, settledResponse⟩ := errorResponse_settled printable
  rw [written_signRequest exact service fine settled shallow short sent, response]
  simp only [Option.toList_some, List.flatMap_cons, List.flatMap_nil, List.append_nil]
  rw [signCommandWith_response exact pyStr fineResponse settledResponse one fits]
  rfl

end Exchange

/-- A signer whose signatures are all the same. -/
def stampService : SignerService := ⟨fun _ => List.replicate 64 0x5a, [], text "signer-1"⟩

theorem length_jsonText {s : Text} (plain : s.all isPlainChar = true) :
    (Backend.jsonString s).length = s.length + 2 := by
  have body : (s.flatMap Backend.escapeAscii).length = s.length := by
    induction s with
    | nil => rfl
    | cons c s ih =>
        rw [List.all_cons, Bool.and_eq_true] at plain
        have unescaped : Backend.escapeAscii c = [c] := by
          have simple := plain.1
          simp only [isPlainChar, Bool.and_eq_true, decide_eq_true_eq] at simple
          obtain ⟨⟨⟨low, high⟩, quote⟩, backslash⟩ := simple
          unfold Backend.escapeAscii
          rw [if_neg (by simpa using quote), if_neg (by simpa using backslash), if_neg (by omega),
            if_neg (by omega), if_neg (by omega), if_neg (by omega), if_neg (by omega),
            if_pos (by omega)]
        rw [List.flatMap_cons, unescaped, List.length_append, ih plain.2, List.length_singleton,
          List.length_cons]
        omega
  simp [Backend.jsonString, body]

theorem length_chars_decimal {i : Int} {k : Nat} (positive : 0 < k) (low : 0 ≤ i)
    (high : i.toNat < Nat.pow 10 k) : (chars (decimal i)).length ≤ k := by
  have bytes := length_decimalBytes positive low high
  rw [Firmware.decimalBytes, asciiBytes, List.length_map] at bytes
  rw [chars, List.length_map]
  exact bytes

theorem length_joinComma_le (items : List Text) :
    (Signer.joinComma items).length ≤ (items.map fun item => item.length + 1).sum := by
  induction items with
  | nil => exact Nat.zero_le _
  | cons item rest ih =>
      cases rest with
      | nil => simp [Signer.joinComma]
      | cons next rest =>
          rw [joinComma_cons_cons, List.length_append, List.length_cons, List.map_cons, List.sum_cons]
          omega

/-- An object from its members. -/
theorem length_jsonDumps_obj (fields : Dict) : (jsonDumps (.obj fields)).length ≤
    2 + (fields.map fun field =>
      (Backend.jsonString field.1).length + (jsonDumps field.2).length + 2).sum := by
  have members : (Backend.jsonMembers fields).map (fun item => item.length + 1) = fields.map
      fun field => (Backend.jsonString field.1).length + (jsonDumps field.2).length + 2 := by
    induction fields with
    | nil => rfl
    | cons field rest ih =>
        rw [Backend.jsonMembers, List.map_cons, List.map_cons, ih]
        simp only [List.length_append, List.length_cons]
        rfl
  have joined := length_joinComma_le (Backend.jsonMembers fields)
  rw [members] at joined
  rw [jsonDumps, List.length_cons, List.length_append, List.length_singleton]
  omega

theorem length_utf8_printable {s : Text} (printable : Backend.Printable s) :
    (utf8 s).length = s.length := by
  induction s with
  | nil => rfl
  | cons c s ih =>
      have small := printable c List.mem_cons_self
      rw [utf8_cons, utf8Char_ascii (by omega), List.length_append, List.length_singleton,
        ih fun d mem => printable d (List.mem_cons_of_mem _ mem), List.length_cons]
      omega

/-- Three bytes become four digits. -/
theorem length_b64encode (bytes : Bytes) : (b64encode bytes).length ≤ 2 * bytes.length + 4 := by
  unfold b64encode
  fun_induction base64With (base64Digit '+' '/') bytes with
  | case1 => simp
  | case2 => simp
  | case3 => simp
  | case4 a b c rest n ih =>
      simp only [List.length_append, List.length_cons, List.length_nil]
      omega

/-- An escape has at most twelve characters. -/
theorem length_jsonString_le (s : Text) : (Backend.jsonString s).length ≤ 12 * s.length + 2 := by
  have one : ∀ c, (Backend.escapeAscii c).length ≤ 12 := by
    intro c
    unfold Backend.escapeAscii
    split_ifs <;> simp [chars, Backend.unicodeEscape, length_hexDigits]
  have body : (s.flatMap Backend.escapeAscii).length ≤ 12 * s.length := by
    induction s with
    | nil => exact Nat.zero_le _
    | cons c s ih =>
        have := one c
        rw [List.flatMap_cons, List.length_append, List.length_cons]
        omega
  rw [Backend.jsonString, List.length_cons, List.length_append, List.length_singleton]
  omega

/-- The answer to a request that was signed is short. -/
theorem signedResponse_short {service : SignerService} {message : Bytes}
    (named : service.keyId.length ≤ 1024) (ed25519 : (service.sign message).length = 64) :
    (encodeRequest (signedResponse service message)).length ≤ readerLimit := by
  have signature := length_jsonString_le (chars (b64encode (service.sign message)))
  have digits := length_b64encode (service.sign message)
  rw [chars, List.length_map] at signature
  have keyId := length_jsonString_le service.keyId
  have names : (Backend.jsonString (text "ok")).length + (text "true").length +
      (Backend.jsonString (text "signature")).length + (Backend.jsonString (text "key_id")).length +
      (Backend.jsonString (text "alg")).length + (Backend.jsonString (text "ed25519")).length ≤ 100 := by
    decide +kernel
  have response := length_jsonDumps_obj (signedResponse service message)
  have limit : readerLimit = 65536 := rfl
  simp only [signedResponse, List.map_cons, List.map_nil, List.sum_cons, List.sum_nil, jsonDumps,
    chars] at response
  rw [encodeRequest, List.length_append, length_utf8_printable (Backend.jsonDumps_printable _)]
  simp only [signedResponse, jsonDumps, chars, List.length_singleton]
  omega

section Genuine

variable {settings : UnlockSettings} {door : DoorRecord} {controllerCode : Text}
  {commandId : Uuid} {issuedAt : Int} {nonce : Bytes}
  (admissible : Admissible door controllerCode) (sixteen : nonce.length = 16)
  (issued : 0 ≤ issuedAt ∧ issuedAt < 0x80000000)
  (ttl : 1 ≤ settings.commandTtlSeconds ∧ settings.commandTtlSeconds ≤ 30)

include admissible sixteen issued ttl

/-- A request of the API is far from the signer's limit. -/
theorem signRequest_short : (encodeRequest (signRequest
    (commandPayload settings door controllerCode commandId issuedAt nonce))).length ≤ maxLineBytes := by
  obtain ⟨shortest, longest⟩ := admissible.unlockSeconds
  obtain ⟨lowest, highest⟩ := admissible.relayChannel
  have controllerBound := admissible.controllerCode.1
  have doorBound := admissible.doorCode.1
  have id := length_jsonText (uuidText_plain commandId)
  have controller := length_jsonText (code_plain admissible.controllerCode.2)
  have doorText := length_jsonText (code_plain admissible.doorCode.2)
  have nonceLength := length_jsonText (nonceText_spec sixteen).2
  rw [length_uuidText] at id
  rw [(nonceText_spec sixteen).1] at nonceLength
  have duration := length_chars_decimal (i := door.unlockSeconds * 1000) (k := 5)
    (by omega) (by omega) (show _ < 100000 by omega)
  have channel := length_chars_decimal (i := door.relayChannel) (k := 1)
    (by omega) (by omega) (show _ < 10 by omega)
  have start := length_chars_decimal (i := issuedAt) (k := 10)
    (by omega) (by omega) (show _ < 10000000000 by omega)
  have expiry := length_chars_decimal (i := issuedAt + settings.commandTtlSeconds) (k := 10)
    (by omega) (by omega) (show _ < 10000000000 by omega)
  have names : ((Signer.requiredCommandFields.map fun name => (Backend.jsonString name).length).sum +
      (Backend.jsonString (text "unlock")).length + (Backend.jsonString (text "op")).length +
      (Backend.jsonString (text "payload")).length + (Backend.jsonString (text "sign")).length) ≤ 200 := by
    decide +kernel
  have payload := length_jsonDumps_obj
    (commandPayload settings door controllerCode commandId issuedAt nonce)
  have request := length_jsonDumps_obj (signRequest
    (commandPayload settings door controllerCode commandId issuedAt nonce))
  have limit : maxLineBytes = 8192 := rfl
  rw [nonceText] at nonceLength
  simp only [commandPayload, signRequest, Signer.requiredCommandFields, List.map_cons, List.map_nil,
    List.sum_cons, List.sum_nil, jsonDumps] at names payload request
  rw [encodeRequest, List.length_append, length_utf8_printable (Backend.jsonDumps_printable _)]
  simp only [commandPayload, signRequest, jsonDumps, List.length_singleton]
  omega

omit issued ttl in
theorem commandPayload_settled :
    (Json.obj (commandPayload settings door controllerCode commandId issuedAt nonce)).All
      Json.Settled := by
  have keys : (commandPayload settings door controllerCode commandId issuedAt nonce).map Prod.fst =
      Signer.requiredCommandFields := rfl
  have plain : ∀ {s : Text}, s.all isPlainChar = true → Unpaired s := by
    intro s all
    refine unpaired_of_small ?_
    intro c mem
    have inside := List.all_eq_true.mp all c mem
    simp only [isPlainChar, Bool.and_eq_true, decide_eq_true_eq] at inside
    omega
  exact ⟨unpaired_keys keys (by decide), plain (uuidText_plain commandId),
    unpaired_of_printable (printable_of_all (by decide)),
    plain (code_plain admissible.controllerCode.2), plain (code_plain admissible.doorCode.2),
    trivial, trivial, trivial, trivial, plain (nonceText_spec sixteen).2, trivial⟩

omit sixteen in
theorem commandPayload_fine :
    (Json.obj (commandPayload settings door controllerCode commandId issuedAt nonce)).All
      Json.Fine := by
  obtain ⟨shortest, longest⟩ := admissible.unlockSeconds
  obtain ⟨lowest, highest⟩ := admissible.relayChannel
  have keys : (commandPayload settings door controllerCode commandId issuedAt nonce).map Prod.fst =
      Signer.requiredCommandFields := rfl
  have small : ∀ i : Int, i.natAbs < 10000000000 → i.natAbs < 10 ^ maxStrDigits := by
    intro i bound
    have ten : (10000000000 : Nat) = 10 ^ 10 := rfl
    have more : 10 ^ 10 ≤ 10 ^ maxStrDigits := Nat.pow_le_pow_right (by decide) (by decide)
    exact Nat.lt_of_lt_of_le (ten ▸ bound) more
  exact ⟨nodup_keys keys (by decide), trivial, trivial, trivial, trivial,
    small door.relayChannel (by omega), small (door.unlockSeconds * 1000) (by omega),
    small issuedAt (by omega), small (issuedAt + settings.commandTtlSeconds) (by omega), trivial,
    trivial⟩

/-- A command for such a door comes back signed, and nothing else is signed. -/
theorem admissible_signed {py : Interpreter} (exact : py.Exact) (deep : 2 ≤ py.depth)
    (pyStr : Json Text → Text) (service : SignerService) (keyId : Unpaired service.keyId)
    (named : service.keyId.length ≤ 1024) (ed25519 : ∀ message, (service.sign message).length = 64)
    {chunks : List Bytes} (sent : chunks.flatten = encodeRequest (signRequest
      (commandPayload settings door controllerCode commandId issuedAt nonce))) :
    ∃ message, canonicalBytes
        (commandPayload settings door controllerCode commandId issuedAt nonce) = some message ∧
      signCommandWith pyStr (loadsBytes py)
        (replyOf (chunks.foldl (serveClient py service).receive
          (Kit.LineServer.start newConnection)).state.written) =
        .ok (service.sign message, .str service.keyId) ∧
      (Signer.serve py service chunks).signed =
        [⟨commandPayload settings door controllerCode commandId issuedAt nonce, message⟩] := by
  have valid : validateCommand
      (commandPayload settings door controllerCode commandId issuedAt nonce) = .ok () :=
    commandPayload_valid admissible sixteen ttl
  have reads : Reads (commandPayload settings door controllerCode commandId issuedAt nonce)
      (genuineCommand settings door controllerCode commandId issuedAt nonce) :=
    commandPayload_reads admissible sixteen issued ttl
  have canonical := canonicalBytes_of_faithful reads (commandPayload_faithful admissible sixteen)
  have fine : (Json.obj (commandPayload settings door controllerCode commandId issuedAt nonce)).All
      Json.Fine := commandPayload_fine admissible issued ttl
  have settled : (Json.obj (commandPayload settings door controllerCode commandId issuedAt
      nonce)).All Json.Settled := commandPayload_settled admissible sixteen
  have shallow : (Json.obj (commandPayload settings door controllerCode commandId issuedAt
      nonce)).nesting < py.depth := deep
  have short : (encodeRequest (signRequest
      (commandPayload settings door controllerCode commandId issuedAt nonce))).length ≤
      maxLineBytes := signRequest_short admissible sixteen issued ttl
  refine ⟨_, canonical, exchange_signed exact pyStr service fine settled shallow short sent keyId
    valid canonical (signedResponse_short named (ed25519 _)), ?_⟩
  rw [signed_signRequest exact service fine settled shallow short sent, Signer.handleSign, valid]
  simp only [canonical, Option.toList_some]

end Genuine

/-- What was signed is the payload of a request that was read. -/
theorem signed_of_serve {py : Interpreter} {service : SignerService} {chunks : List Bytes}
    {command : Signer.SignedCommand} (signed : command ∈ (Signer.serve py service chunks).signed) :
    ∃ line request, decodeLine (loadsBytes py) line = .ok request ∧
      (Signer.handle service request).signed = some command := by
  obtain ⟨read, answers, -⟩ := Signer.serve_answers py service chunks
  rw [answers.signed] at signed
  obtain ⟨line, -, made⟩ := List.mem_filterMap.mp (by simpa [newConnection] using signed)
  unfold lineOutcome at made
  split_ifs at made
  cases read : decodeLine (loadsBytes py) line with
  | error e => rw [read] at made; cases made
  | ok request =>
      rw [read] at made
      exact ⟨line, request, read, made⟩

/-- A payload that was read is a dictionary. -/
theorem payload_fine {py : Interpreter} (shaped : ∀ s, (py.float s).Shaped) {service : SignerService}
    {line : Bytes} {request : Dict} {command : Signer.SignedCommand}
    (read : decodeLine (loadsBytes py) line = .ok request)
    (signed : (Signer.handle service request).signed = some command) :
    (Json.obj command.payload).All Json.Fine := by
  have fine : (Json.obj request).All Json.Fine := by
    unfold decodeLine at read
    split at read
    · rename_i fields parsed
      obtain rfl := Except.ok.inj read
      obtain ⟨s, -, returned⟩ := Option.bind_eq_some_iff.mp parsed
      obtain ⟨result, ran, good⟩ := loads_ends shaped s
      rw [ran] at returned
      cases result with
      | error e => cases returned
      | ok value =>
          obtain rfl := Option.some.inj returned
          exact (good _ rfl).fine
    · cases read
  obtain ⟨sent, -, -⟩ := Signer.signed_of_handle signed
  exact Json.allFields_iff.mp fine.2 _ (Json.mem_of_get? sent)

/-- **A signature is for one payload**: two commands that were signed over the same bytes, by
anyone and on any connections, have the same members. -/
theorem signed_alike {py : Interpreter} (shaped : ∀ s, (py.float s).Shaped)
    (service service' : SignerService) (chunks chunks' : List Bytes)
    (command command' : Signer.SignedCommand)
    (signed : command ∈ (Signer.serve py service chunks).signed)
    (signed' : command' ∈ (Signer.serve py service' chunks').signed)
    (same : command.message = command'.message) (key : Text) :
    (Json.get? command.payload key).map ordered = (Json.get? command'.payload key).map ordered := by
  obtain ⟨line, request, read, handled⟩ := signed_of_serve signed
  obtain ⟨line', request', read', handled'⟩ := signed_of_serve signed'
  have canonical := (Signer.signed_of_handle handled).2.2
  have canonical' := (Signer.signed_of_handle handled').2.2
  rw [← same] at canonical'
  have fine := payload_fine shaped read handled
  have fine' := payload_fine shaped read' handled'
  exact (ordered_eq_iff fine.1 fine'.1).mp
    (ordered_of_canonicalBytes fine fine' canonical canonical') key

/-- The same payload on two connections. -/
theorem signed_alike_attic : ∃ command command' : Signer.SignedCommand,
    command ∈ (Signer.serve (python 2) stampService
      [encodeRequest (signRequest atticPayload)]).signed ∧
    command' ∈ (Signer.serve (python 2) stampService
      ((encodeRequest (signRequest atticPayload)).map fun b => [b])).signed ∧
    ∀ key, (Json.get? command.payload key).map ordered =
      (Json.get? command'.payload key).map ordered := by
  have admissible := admissible_of_creatable (.create 1 atticDoor .empty rfl)
    atticControllers_registered atticRecord_found rfl
  have signed : ∀ chunks : List Bytes,
      chunks.flatten = encodeRequest (signRequest atticPayload) →
      ∃ message, canonicalBytes atticPayload = some message ∧
        ⟨atticPayload, message⟩ ∈ (Signer.serve (python 2) stampService chunks).signed := by
    intro chunks sent
    have sixteen : (List.replicate 16 0 : Bytes).length = 16 := rfl
    obtain ⟨message, canonical, -, only⟩ := admissible_signed admissible sixteen (by decide)
      (by decide) (python_exact 2) le_rfl (fun _ => []) stampService
      (unpaired_of_printable (printable_of_all (by decide))) (by decide) (fun _ => rfl) sent
    refine ⟨message, canonical, ?_⟩
    rw [only]
    exact List.mem_singleton_self _
  obtain ⟨message, canonical, whole⟩ := signed [_] List.flatten_singleton
  obtain ⟨message', canonical', pieces⟩ := signed _ (List.flatMap_singleton' _)
  exact ⟨_, _, whole, pieces, signed_alike (python_exact 2).shaped stampService stampService _ _ _ _
    whole pieces (Option.some.inj (canonical.symm.trans canonical'))⟩

end DoorsControl.System
