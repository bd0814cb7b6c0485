import DoorsControl.Backend.SignerClient
import DoorsControl.Data.Utf8Decode
import DoorsControl.Kit.Lines
import DoorsControl.Signer.Server

/-!
# A connection to the signer

`_serve_client` of `backend/signer/server.py`, over `asyncio.StreamReader`: what is written and
signed on one connection, for bytes that come in any pieces.

* `serve_pieces` — **the lines that were read decide the answers**: one each, in order, none after
  the line that ends the connection, however the bytes arrived.
-/

namespace DoorsControl.Signer

open Backend (encodeRequest decodeLine)
open JsonReader (Interpreter)

/-- A program that came to an end without raising. -/
def returned? {ε α : Type} (program : Kit.Loops ε α) : Option α :=
  match program with
  | some (.ok a) => some a
  | _ => none

/-- `json.loads(line.decode("utf-8"))`; `none` is any exception. -/
def loadsBytes (py : Interpreter) (bytes : Bytes) : Option (Json Text) :=
  (decodeUtf8 bytes).bind fun s => returned? (JsonReader.loads py s)

def maxLineBytes : Nat := 8 * 1024

/-- The limit of a `StreamReader`, which `start_unix_server` is not told otherwise. -/
def readerLimit : Nat := 65536

/-- How a connection came to its end. -/
inductive Ending where
  /-- no more came -/
  | closed
  /-- after an answer, since the line was no request -/
  | refused
  /-- by an exception that `_serve_client` does not handle -/
  | raised
  deriving DecidableEq, Repr

/-- What one line leads to. -/
structure Outcome where
  response : Option Dict
  signed : Option SignedCommand
  ending : Option Ending

/-- One turn of the loop, after `readline`. -/
def lineOutcome (py : Interpreter) (service : SignerService) (line : Bytes) : Outcome :=
  if line = [] then ⟨none, none, some .closed⟩
  else if maxLineBytes < line.length then
    ⟨some (errorResponse (text "request too large")), none, some .refused⟩
  else
    match decodeLine (loadsBytes py) line with
    | .error _ => ⟨some (errorResponse (text "malformed request")), none, some .refused⟩
    | .ok request =>
        let handled := handle service request
        ⟨handled.response, handled.signed, if handled.response.isNone then some .raised else none⟩

/-- What was written to a peer, and signed for it. -/
structure Served where
  responses : List Dict
  signed : List SignedCommand
  ending : Option Ending

/-- What is on the socket. -/
def Served.written (served : Served) : Bytes := served.responses.flatMap encodeRequest

def Served.add (served : Served) (outcome : Outcome) : Served :=
  ⟨served.responses ++ outcome.response.toList, served.signed ++ outcome.signed.toList,
    outcome.ending⟩

/-- The loop of `_serve_client`; a line beyond the reader's limit is a `ValueError` of
`readline`. -/
def serveClient (py : Interpreter) (service : SignerService) : Kit.LineServer UInt8 Served where
  stop := 0x0a
  limit := readerLimit
  line bytes served := served.add (lineOutcome py service bytes)
  overrun served := { served with ending := some .raised }
  stopped served := served.ending.isSome
  stopped_overrun _ := rfl
  stopped_nil _ := rfl

def newConnection : Served := ⟨[], [], none⟩

/-- The pieces that came, and the end of the stream. -/
def serve (py : Interpreter) (service : SignerService) (chunks : List Bytes) : Served :=
  ((serveClient py service).close
    (chunks.foldl (serveClient py service).receive (Kit.LineServer.start newConnection))).state

/-! ## What is read -/

/-- The lines of a stream, and what comes after the last of them. -/
def linesOf (stream : Bytes) : List Bytes :=
  (Kit.cut 0x0a stream).1 ++
    if (Kit.cut 0x0a stream).2 = [] then [] else [(Kit.cut 0x0a stream).2]

/-- The lines that `_serve_client` reads: up to the first that ends the connection, and none that
is beyond the limit. The end of a line does not count. -/
def linesRead (py : Interpreter) (service : SignerService) : List Bytes → List Bytes
  | [] => []
  | line :: rest =>
      if readerLimit < (line.filter (· ≠ 0x0a)).length then []
      else if (lineOutcome py service line).ending.isSome then [line]
      else line :: linesRead py service rest

/-- What these lines lead to, added to what was there. -/
structure Answers (py : Interpreter) (service : SignerService) (before : Served)
    (lines : List Bytes) (after : Served) : Prop where
  responses : after.responses = before.responses ++
    lines.filterMap fun line => (lineOutcome py service line).response
  signed : after.signed = before.signed ++
    lines.filterMap fun line => (lineOutcome py service line).signed

theorem Answers.nil {py : Interpreter} {service : SignerService} {before after : Served}
    (responses : after.responses = before.responses) (signed : after.signed = before.signed) :
    Answers py service before [] after := by
  constructor
  · rw [responses]
    exact (List.append_nil _).symm
  · rw [signed]
    exact (List.append_nil _).symm

theorem Answers.cons {py : Interpreter} {service : SignerService} {before after : Served}
    {line : Bytes} {lines : List Bytes}
    (rest : Answers py service (before.add (lineOutcome py service line)) lines after) :
    Answers py service before (line :: lines) after := by
  constructor
  · rw [rest.responses, Served.add, List.filterMap_cons]
    cases (lineOutcome py service line).response <;> simp
  · rw [rest.signed, Served.add, List.filterMap_cons]
    cases (lineOutcome py service line).signed <;> simp

section Lines

variable (py : Interpreter) (service : SignerService)

/-- Lines with their ends, and whatever comes after them. -/
theorem serveLines_answers {lines : List Bytes}
    (complete : ∀ line ∈ lines, (line.filter (· ≠ 0x0a)).length + 1 = line.length)
    (before : Served) (going : before.ending = none) (tail : List Bytes) :
    ∃ read, Answers py service before read ((serveClient py service).serveLines before lines) ∧
      linesRead py service (lines ++ tail) = read ++
        if ((serveClient py service).serveLines before lines).ending.isSome then []
        else linesRead py service tail := by
  induction lines generalizing before with
  | nil => exact ⟨[], Answers.nil rfl rfl, by simp [Kit.LineServer.serveLines, going]⟩
  | cons line lines ih =>
      have length := complete line List.mem_cons_self
      have others : ∀ l ∈ lines, (l.filter (· ≠ 0x0a)).length + 1 = l.length :=
        fun l mem => complete l (List.mem_cons_of_mem _ mem)
      have open' : ¬ (serveClient py service).stopped before = true := by
        show ¬ before.ending.isSome = true
        rw [going]
        exact Bool.false_ne_true
      have step : (serveClient py service).serveLines before (line :: lines) =
          (serveClient py service).serveLines ((serveClient py service).turn before line) lines := rfl
      rw [step, List.cons_append, linesRead]
      by_cases long : readerLimit < (line.filter (· ≠ 0x0a)).length
      · -- `readline` raises
        have turned : (serveClient py service).turn before line =
            { before with ending := some .raised } := by
          have beyond : (serveClient py service).limit + 1 < line.length := by
            show readerLimit + 1 < line.length
            omega
          rw [Kit.LineServer.turn, if_neg open', if_pos beyond]
          rfl
        rw [turned, (serveClient py service).serveLines_stopped rfl, if_pos long]
        exact ⟨[], Answers.nil rfl rfl, rfl⟩
      · have turned : (serveClient py service).turn before line =
            before.add (lineOutcome py service line) := by
          have within : ¬ (serveClient py service).limit + 1 < line.length := by
            show ¬ readerLimit + 1 < line.length
            omega
          rw [Kit.LineServer.turn, if_neg open', if_neg within]
          rfl
        rw [turned, if_neg long]
        by_cases ends : (lineOutcome py service line).ending.isSome = true
        · have stopped : (serveClient py service).stopped
              (before.add (lineOutcome py service line)) = true := ends
          rw [(serveClient py service).serveLines_stopped stopped, if_pos ends]
          refine ⟨[line], Answers.cons (Answers.nil rfl rfl), ?_⟩
          rw [show (before.add (lineOutcome py service line)).ending.isSome = true from ends, if_pos rfl]
          rfl
        · obtain ⟨read, answers, same⟩ := ih others (before.add (lineOutcome py service line))
            (by simpa [Served.add] using ends)
          rw [if_neg ends, same]
          exact ⟨line :: read, answers.cons, rfl⟩

theorem Answers.trans {py : Interpreter} {service : SignerService} {before mid after : Served}
    {first second : List Bytes} (h : Answers py service before first mid)
    (h' : Answers py service mid second after) :
    Answers py service before (first ++ second) after := by
  constructor
  · rw [h'.responses, h.responses, List.filterMap_append, List.append_assoc]
  · rw [h'.signed, h.signed, List.filterMap_append, List.append_assoc]

/-- What the end of the stream adds. -/
theorem closing_answers (before : Served) {rest : Bytes} (unended : rest.filter (· ≠ 0x0a) = rest) :
    Answers py service before
      (if before.ending.isSome then []
        else linesRead py service (if rest = [] then [] else [rest]))
      ((serveClient py service).closing before rest) := by
  rw [Kit.LineServer.closing]
  by_cases ended : before.ending.isSome = true
  · have stopped : (serveClient py service).stopped before = true := ended
    rw [if_pos ended, if_pos stopped]
    exact Answers.nil rfl rfl
  · have going : ¬ (serveClient py service).stopped before = true := ended
    rw [if_neg ended, if_neg going]
    by_cases empty : rest = []
    · subst empty
      have short : ¬ (serveClient py service).limit < ([] : Bytes).length := Nat.not_lt_zero _
      rw [if_pos rfl, if_pos rfl, if_neg short]
      have nothing : before.add (lineOutcome py service []) =
          { before with ending := some .closed } := by
        simp [Served.add, lineOutcome]
      show Answers py service before _ (before.add (lineOutcome py service []))
      rw [nothing]
      exact Answers.nil rfl rfl
    · rw [if_neg empty, if_neg empty, linesRead, unended]
      by_cases long : readerLimit < rest.length
      · have beyond : (serveClient py service).limit < rest.length := long
        rw [if_pos long, if_pos beyond]
        exact Answers.nil rfl rfl
      · have within : ¬ (serveClient py service).limit < rest.length := long
        rw [if_neg long, if_neg within]
        show Answers py service before _ (if (lineOutcome py service rest).ending.isSome = true
          then before.add (lineOutcome py service rest)
          else (before.add (lineOutcome py service rest)).add (lineOutcome py service []))
        by_cases ends : (lineOutcome py service rest).ending.isSome = true
        · rw [if_pos ends, if_pos ends]
          exact Answers.cons (Answers.nil rfl rfl)
        · rw [if_neg ends, if_neg ends]
          refine Answers.cons (Answers.nil ?_ ?_)
          · simp [Served.add, lineOutcome]
          · simp [Served.add, lineOutcome]

/-- The connection by the lines of its stream. -/
theorem serve_lines (chunks : List Bytes) : serve py service chunks =
    (serveClient py service).closing
      ((serveClient py service).serveLines newConnection (Kit.cut 0x0a chunks.flatten).1)
      (Kit.cut 0x0a chunks.flatten).2 :=
  ((serveClient py service).finish_chunks newConnection chunks).trans
    ((serveClient py service).finished_eq newConnection chunks.flatten)

/-- Every answer is to a line that was read. -/
theorem serve_answers (chunks : List Bytes) : ∃ read,
    Answers py service newConnection read (serve py service chunks) ∧
      linesRead py service (linesOf chunks.flatten) = read := by
  have complete : ∀ line ∈ (Kit.cut (0x0a : UInt8) chunks.flatten).1,
      (line.filter (· ≠ 0x0a)).length + 1 = line.length := fun _ mem => Kit.filter_of_mem_cut mem
  have unended := Kit.filter_cut (0x0a : UInt8) chunks.flatten
  obtain ⟨read, answers, same⟩ := serveLines_answers py service complete newConnection rfl
    (if (Kit.cut (0x0a : UInt8) chunks.flatten).2 = [] then []
      else [(Kit.cut (0x0a : UInt8) chunks.flatten).2])
  rw [linesOf, same, serve_lines]
  exact ⟨_, answers.trans (closing_answers py service _ unended), rfl⟩

/-- **The lines that were read decide the answers**: each answer and each signature is for one of
them, in their order. What pieces the stream came in makes no difference to the connection. -/
theorem serve_pieces (chunks : List Bytes) :
    Answers py service newConnection (linesRead py service (linesOf chunks.flatten))
        (serve py service chunks) ∧
      ∀ others : List Bytes, others.flatten = chunks.flatten →
        serve py service others = serve py service chunks := by
  obtain ⟨read, answers, same⟩ := serve_answers py service chunks
  constructor
  · rw [same]
    exact answers
  · intro others whole
    rw [serve_lines, serve_lines, whole]

end Lines

end DoorsControl.Signer
