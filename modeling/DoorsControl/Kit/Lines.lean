import Mathlib.Data.List.Basic

/-!
# Lines of a stream that comes in pieces

A reader keeps what has come in a buffer and looks for the end of a line, each time only in what
is new. A server does something with each line, may stop, and is told when a line is too long.

* `cut` — a stream as its complete lines and an open one;
* `receive_chunks` — **the pieces do not matter**: the server is where the lines of the whole
  stream bring it;
* `finish_chunks` — the same with the end of the stream.
-/

namespace DoorsControl.Kit

variable {α σ : Type} [DecidableEq α]

/-! ## A stream as lines -/

/-- The complete lines, each with its end, and what comes after the last one. -/
def cut (stop : α) : List α → List (List α) × List α
  | [] => ([], [])
  | a :: s =>
      if a = stop then ([a] :: (cut stop s).1, (cut stop s).2)
      else
        match cut stop s with
        | ([], rest) => ([], a :: rest)
        | (line :: lines, rest) => ((a :: line) :: lines, rest)

/-- `buffer.find(stop, offset)` -/
def findFrom (stop : α) (buffer : List α) (offset : Nat) : Option Nat :=
  ((buffer.drop offset).findIdx? (· = stop)).map (· + offset)

theorem cut_of_find_none {stop : α} {s : List α} (h : s.findIdx? (· = stop) = none) :
    cut stop s = ([], s) := by
  induction s with
  | nil => rfl
  | cons a s ih =>
      rw [List.findIdx?_cons] at h
      by_cases same : a = stop
      · simp [same] at h
      · rw [cut, if_neg same, ih (by simpa [same] using h)]

theorem cut_of_find_some {stop : α} {s : List α} {i : Nat}
    (h : s.findIdx? (· = stop) = some i) :
    cut stop s = (s.take (i + 1) :: (cut stop (s.drop (i + 1))).1,
      (cut stop (s.drop (i + 1))).2) := by
  induction s generalizing i with
  | nil => cases h
  | cons a s ih =>
      rw [List.findIdx?_cons] at h
      by_cases same : a = stop
      · obtain rfl : i = 0 := by simpa [same] using h.symm
        rw [cut, if_pos same]
        rfl
      · obtain ⟨k, found, rfl⟩ : ∃ k, s.findIdx? (· = stop) = some k ∧ k + 1 = i := by
          simpa [same] using h
        rw [cut, if_neg same, ih found]
        rfl

/-- The open line has no end in it. -/
theorem find_cut (stop : α) (s : List α) : (cut stop s).2.findIdx? (· = stop) = none := by
  induction s with
  | nil => rfl
  | cons a s ih =>
      rw [cut]
      split_ifs with same
      · exact ih
      · cases lines : (cut stop s).1 with
        | nil =>
            have shape : cut stop s = ([], (cut stop s).2) := Prod.ext lines rfl
            rw [shape]
            show (a :: (cut stop s).2).findIdx? _ = none
            rw [List.findIdx?_cons, ih]
            simp [same]
        | cons line more =>
            have shape : cut stop s = (line :: more, (cut stop s).2) := Prod.ext lines rfl
            rw [shape]
            exact ih

/-- A stream that is one line. -/
theorem cut_line {stop : α} {body : List α} (inside : ∀ a ∈ body, a ≠ stop) :
    cut stop (body ++ [stop]) = ([body ++ [stop]], []) := by
  induction body with
  | nil => simp [cut]
  | cons a body ih =>
      rw [List.cons_append, cut, if_neg (inside a List.mem_cons_self),
        ih fun b mem => inside b (List.mem_cons_of_mem _ mem)]

/-- A complete line has its end and no other. -/
theorem filter_of_mem_cut {stop : α} {s line : List α} (mem : line ∈ (cut stop s).1) :
    (line.filter (· ≠ stop)).length + 1 = line.length := by
  induction s generalizing line with
  | nil => cases mem
  | cons a s ih =>
      rw [cut] at mem
      split_ifs at mem with same
      · rcases List.mem_cons.mp mem with rfl | mem
        · simp [same]
        · exact ih mem
      · cases lines : (cut stop s).1 with
        | nil =>
            have shape : cut stop s = ([], (cut stop s).2) := Prod.ext lines rfl
            rw [shape] at mem
            cases mem
        | cons first more =>
            have shape : cut stop s = (first :: more, (cut stop s).2) := Prod.ext lines rfl
            rw [shape] at mem
            rcases List.mem_cons.mp mem with rfl | mem
            · rw [List.filter_cons_of_pos (by simpa using same), List.length_cons, List.length_cons,
                ih (by rw [lines]; exact List.mem_cons_self)]
            · exact ih (by rw [lines]; exact List.mem_cons_of_mem _ mem)

theorem filter_cut (stop : α) (s : List α) :
    (cut stop s).2.filter (· ≠ stop) = (cut stop s).2 := by
  rw [List.filter_eq_self]
  intro a mem
  have none := List.findIdx?_eq_none_iff.mp (find_cut stop s) a mem
  simpa using none

/-- More of a stream: the open line goes on. -/
theorem cut_append (stop : α) (s t : List α) :
    cut stop (s ++ t) = ((cut stop s).1 ++ (cut stop ((cut stop s).2 ++ t)).1,
      (cut stop ((cut stop s).2 ++ t)).2) := by
  induction s with
  | nil => rfl
  | cons a s ih =>
      rw [List.cons_append, cut, cut]
      split_ifs with same
      · rw [ih]
        rfl
      · rw [ih]
        cases lines : (cut stop s).1 with
        | nil =>
            have shape : cut stop s = ([], (cut stop s).2) := Prod.ext lines rfl
            rw [shape]
            show _ = (_ ++ (cut stop (a :: ((cut stop s).2 ++ t))).1,
              (cut stop (a :: ((cut stop s).2 ++ t))).2)
            rw [cut, if_neg same]
            cases cut stop ((cut stop s).2 ++ t) with
            | mk first rest => cases first <;> rfl
        | cons line more =>
            have shape : cut stop s = (line :: more, (cut stop s).2) := Prod.ext lines rfl
            rw [shape]
            rfl

/-- The first end of a line is not among what was looked through before. -/
theorem findFrom_eq {stop : α} {buffer : List α} {offset : Nat}
    (seen : (buffer.take offset).findIdx? (· = stop) = none) (inside : offset ≤ buffer.length) :
    findFrom stop buffer offset = buffer.findIdx? (· = stop) := by
  have whole : buffer = buffer.take offset ++ buffer.drop offset := (List.take_append_drop _ _).symm
  have length : (buffer.take offset).length = offset := List.length_take_of_le inside
  rw [findFrom]
  conv_rhs => rw [whole, List.findIdx?_append, seen, length]
  simp

/-! ## The reader -/

/-- Someone who is served line by line. -/
structure LineServer (α σ : Type) where
  /-- the end of a line -/
  stop : α
  /-- how long a line may be without its end -/
  limit : Nat
  /-- what is done with a line; nothing is read at the end of the stream -/
  line : List α → σ → σ
  /-- a line that is too long -/
  overrun : σ → σ
  stopped : σ → Bool
  stopped_overrun : ∀ s, stopped (overrun s) = true
  stopped_nil : ∀ s, stopped (line [] s) = true

/-- The server, the buffer of its reader, whether more will come, and how much of the buffer was
looked through. -/
structure Reading (α σ : Type) where
  state : σ
  buffer : List α
  closed : Bool
  offset : Nat

/-- What an attempt to read a line comes to. -/
inductive Attempt (α : Type) where
  | line (line rest : List α)
  | overrun
  | atEnd
  | waits (offset : Nat)

namespace LineServer

variable (server : LineServer α σ)

/-- One pass of `readuntil`. -/
def attempt (r : Reading α σ) : Attempt α :=
  if r.offset < r.buffer.length then
    match findFrom server.stop r.buffer r.offset with
    | some i =>
        if server.limit < i then .overrun
        else .line (r.buffer.take (i + 1)) (r.buffer.drop (i + 1))
    | none =>
        if server.limit < r.buffer.length then .overrun
        else if r.closed then .atEnd
        else .waits r.buffer.length
  else if r.closed then .atEnd
  else .waits r.offset

/-- The server reads lines until it stops or has to wait. -/
def run : Nat → Reading α σ → Reading α σ
  | 0, r => r
  | turns + 1, r =>
      if server.stopped r.state then r
      else
        match server.attempt r with
        | .line line rest =>
            run turns { r with state := server.line line r.state, buffer := rest, offset := 0 }
        | .overrun => { r with state := server.overrun r.state }
        | .atEnd =>
            run turns { r with state := server.line r.buffer r.state, buffer := [], offset := 0 }
        | .waits offset => { r with offset := offset }

/-- A piece of the stream arrives. -/
def receive (r : Reading α σ) (chunk : List α) : Reading α σ :=
  server.run ((r.buffer ++ chunk).length + 1) { r with buffer := r.buffer ++ chunk }

/-- The stream ends. -/
def close (r : Reading α σ) : Reading α σ :=
  server.run (r.buffer.length + 2) { r with closed := true }

def start (state : σ) : Reading α σ := ⟨state, [], false, 0⟩

/-! ## What the lines bring it to -/

/-- A complete line, if the server still goes. -/
def turn (state : σ) (line : List α) : σ :=
  if server.stopped state then state
  else if server.limit + 1 < line.length then server.overrun state
  else server.line line state

def serveLines (state : σ) (lines : List (List α)) : σ := lines.foldl server.turn state

/-- The complete lines of what has come, and an open one that is already too long. -/
def served (state : σ) (s : List α) : σ :=
  let state := server.serveLines state (cut server.stop s).1
  if server.stopped state then state
  else if server.limit < (cut server.stop s).2.length then server.overrun state
  else state

/-- The open line at the end of the stream, and then nothing. -/
def finished (state : σ) (s : List α) : σ :=
  let state := server.served state s
  if server.stopped state then state
  else if (cut server.stop s).2 = [] then server.line [] state
  else
    let state := server.line (cut server.stop s).2 state
    if server.stopped state then state else server.line [] state

/-- An open line and nothing after it. -/
def closing (state : σ) (rest : List α) : σ :=
  if server.stopped state then state
  else if server.limit < rest.length then server.overrun state
  else if rest = [] then server.line [] state
  else
    let state := server.line rest state
    if server.stopped state then state else server.line [] state

theorem finished_eq (state : σ) (s : List α) : server.finished state s =
    server.closing (server.serveLines state (cut server.stop s).1) (cut server.stop s).2 := by
  rw [finished, served, closing]
  dsimp only
  by_cases stopped : server.stopped (server.serveLines state (cut server.stop s).1) = true
  · rw [if_pos stopped, if_pos stopped, if_pos stopped]
  · rw [if_neg stopped, if_neg stopped]
    by_cases long : server.limit < (cut server.stop s).2.length
    · rw [if_pos long, if_pos (server.stopped_overrun _), if_pos long]
    · rw [if_neg long, if_neg stopped, if_neg long]

omit [DecidableEq α] in
theorem serveLines_stopped {state : σ} (stopped : server.stopped state = true)
    (lines : List (List α)) : server.serveLines state lines = state := by
  induction lines with
  | nil => rfl
  | cons line lines ih =>
      have same : server.turn state line = state := if_pos stopped
      rw [serveLines, List.foldl_cons, same]
      exact ih

theorem run_stopped {r : Reading α σ} (stopped : server.stopped r.state = true) (turns : Nat) :
    server.run turns r = r := by
  cases turns with
  | zero => rfl
  | succ turns => rw [run, if_pos stopped]

/-- A stream that is one line. -/
theorem served_line (state : σ) {s : List α} (single : cut server.stop s = ([s], [])) :
    server.served state s = server.turn state s := by
  rw [served, single]
  show (if server.stopped (server.turn state s) = true then server.turn state s
    else if server.limit < 0 then server.overrun _ else server.turn state s) = _
  rw [if_neg (Nat.not_lt_zero _), ite_self]

/-- Where the server is after the bytes `s`, none of them being looked for twice. -/
structure Reached (start : σ) (s : List α) (r : Reading α σ) : Prop where
  state : r.state = server.served start s
  opened : r.closed = false
  waiting : server.stopped r.state = false →
    r.buffer = (cut server.stop s).2 ∧ r.offset = r.buffer.length ∧ r.buffer.length ≤ server.limit

/-- What a buffer brings the server to. -/
theorem run_open {turns : Nat} {r : Reading α σ} (opened : r.closed = false)
    (seen : (r.buffer.take r.offset).findIdx? (· = server.stop) = none)
    (inside : r.offset ≤ r.buffer.length) (fits : r.offset ≤ server.limit)
    (enough : r.buffer.length < turns) :
    let after := server.run turns r
    after.state = server.served r.state r.buffer ∧ after.closed = false ∧
      (server.stopped after.state = false → after.buffer = (cut server.stop r.buffer).2 ∧
        after.offset = after.buffer.length ∧ after.buffer.length ≤ server.limit) := by
  induction turns generalizing r with
  | zero => exact absurd enough (Nat.not_lt_zero _)
  | succ turns ih =>
      dsimp only
      by_cases stopped : server.stopped r.state = true
      · -- it stopped before: nothing is read
        have same : server.served r.state r.buffer = r.state := by
          rw [served, serveLines_stopped server stopped, if_pos stopped]
        rw [run_stopped server stopped, same]
        refine ⟨rfl, opened, ?_⟩
        rw [stopped]
        intro no
        cases no
      · rw [run, if_neg stopped, attempt]
        have search := findFrom_eq seen inside
        by_cases new : r.offset < r.buffer.length
        · rw [if_pos new, search]
          cases found : r.buffer.findIdx? (· = server.stop) with
          | none =>
              have shape := cut_of_find_none found
              have lines : server.served r.state r.buffer =
                  if server.limit < r.buffer.length then server.overrun r.state else r.state := by
                rw [served, shape]
                show (if server.stopped r.state = true then r.state else _) = _
                rw [if_neg stopped]
                rfl
              rw [lines]
              dsimp only
              by_cases long : server.limit < r.buffer.length
              · rw [if_pos long, if_pos long]
                refine ⟨rfl, opened, ?_⟩
                dsimp only
                rw [server.stopped_overrun]
                intro no
                cases no
              · rw [if_neg long, if_neg long, if_neg (by rw [opened]; exact Bool.false_ne_true)]
                refine ⟨rfl, opened, fun _ => ⟨?_, rfl, Nat.not_lt.mp long⟩⟩
                rw [shape]
          | some i =>
              have shape := cut_of_find_some found
              obtain ⟨isLt, -, -⟩ := List.findIdx?_eq_some_iff_getElem.mp found
              have length : (r.buffer.take (i + 1)).length = i + 1 :=
                List.length_take_of_le isLt
              have lines : server.served r.state r.buffer = server.served
                  (server.turn r.state (r.buffer.take (i + 1))) (r.buffer.drop (i + 1)) := by
                rw [served, shape]
                rfl
              have turned : server.turn r.state (r.buffer.take (i + 1)) =
                  if server.limit < i then server.overrun r.state
                  else server.line (r.buffer.take (i + 1)) r.state := by
                rw [turn, if_neg stopped, length]
                by_cases long : server.limit < i
                · rw [if_pos long, if_pos (by omega)]
                · rw [if_neg long, if_neg (by omega)]
              rw [lines, turned]
              dsimp only
              by_cases long : server.limit < i
              · rw [if_pos long, if_pos long]
                have ended := server.stopped_overrun r.state
                refine ⟨?_, opened, ?_⟩
                · rw [served, serveLines_stopped server ended, if_pos ended]
                · dsimp only
                  rw [ended]
                  intro no
                  cases no
              · rw [if_neg long, if_neg long, shape]
                refine ih opened rfl (Nat.zero_le _) (Nat.zero_le _) ?_
                show (r.buffer.drop (i + 1)).length < turns
                rw [List.length_drop]
                omega
        · -- nothing new has come
          have all : r.offset = r.buffer.length := by omega
          have none : r.buffer.findIdx? (· = server.stop) = none := by
            rw [all, List.take_length] at seen
            exact seen
          have shape := cut_of_find_none none
          rw [if_neg new, if_neg (by rw [opened]; exact Bool.false_ne_true)]
          have fitting : r.buffer.length ≤ server.limit := by omega
          refine ⟨?_, opened, fun _ => ⟨?_, all, fitting⟩⟩
          · rw [served, shape]
            show _ = if server.stopped r.state = true then r.state else _
            rw [if_neg stopped]
            exact (if_neg (by show ¬ server.limit < r.buffer.length; omega)).symm
          · rw [shape]

/-- The lines of the whole from the lines of a part. -/
theorem served_append (state : σ) (s t : List α)
    (going : server.stopped (server.served state s) = false) :
    server.served state (s ++ t) =
      server.served (server.served state s) ((cut server.stop s).2 ++ t) := by
  have part : server.served state s = server.serveLines state (cut server.stop s).1 := by
    unfold served at going ⊢
    dsimp only at going ⊢
    split_ifs at going ⊢ with stopped long
    · rfl
    · rw [server.stopped_overrun] at going
      cases going
    · rfl
  rw [part, served, served, cut_append]
  dsimp only
  rw [serveLines, List.foldl_append]
  rfl

/-- A server that has stopped stays as it is. -/
theorem served_stopped_append (state : σ) (s t : List α)
    (stopped : server.stopped (server.served state s) = true) :
    server.served state (s ++ t) = server.served state s := by
  have shape := cut_append server.stop s t
  have split : server.serveLines state (cut server.stop (s ++ t)).1 =
      server.serveLines (server.serveLines state (cut server.stop s).1)
        (cut server.stop ((cut server.stop s).2 ++ t)).1 := by
    rw [shape, serveLines, List.foldl_append]
    rfl
  by_cases before : server.stopped (server.serveLines state (cut server.stop s).1) = true
  · have all : server.serveLines state (cut server.stop (s ++ t)).1 =
        server.serveLines state (cut server.stop s).1 := by
      rw [split, serveLines_stopped server before]
    rw [served, served, all, if_pos before, if_pos before]
  · -- the open line was too long already: so it is when more of it has come
    have long : server.limit < (cut server.stop s).2.length := by
      by_contra short
      rw [served, if_neg before, if_neg short] at stopped
      exact before stopped
    have part : server.served state s =
        server.overrun (server.serveLines state (cut server.stop s).1) := by
      rw [served, if_neg before, if_pos long]
    rw [part, served, split]
    have unended := find_cut server.stop s
    have ended := server.stopped_overrun (server.serveLines state (cut server.stop s).1)
    cases found : ((cut server.stop s).2 ++ t).findIdx? (· = server.stop) with
    | none =>
        have open' := cut_of_find_none found
        have rest : (cut server.stop (s ++ t)).2 = (cut server.stop s).2 ++ t := by
          rw [shape, open']
        rw [open', rest, serveLines, List.foldl_nil, if_neg before, if_pos]
        rw [List.length_append]
        omega
    | some i =>
        have first := cut_of_find_some found
        have late : (cut server.stop s).2.length ≤ i := by
          rw [List.findIdx?_append, unended] at found
          obtain ⟨k, -, rfl⟩ : ∃ k, t.findIdx? (· = server.stop) = some k ∧
              k + (cut server.stop s).2.length = i := by
            simpa using found
          omega
        obtain ⟨isLt, -, -⟩ := List.findIdx?_eq_some_iff_getElem.mp found
        have length : (((cut server.stop s).2 ++ t).take (i + 1)).length = i + 1 :=
          List.length_take_of_le isLt
        have turned : server.turn (server.serveLines state (cut server.stop s).1)
            (((cut server.stop s).2 ++ t).take (i + 1)) =
              server.overrun (server.serveLines state (cut server.stop s).1) := by
          rw [turn, if_neg before, length, if_pos (by omega)]
        have done : server.serveLines (server.serveLines state (cut server.stop s).1)
            (cut server.stop ((cut server.stop s).2 ++ t)).1 =
              server.overrun (server.serveLines state (cut server.stop s).1) := by
          rw [first]
          show server.serveLines (server.turn _ _) _ = _
          rw [turned, serveLines_stopped server ended]
        rw [done, if_pos ended]

theorem reached_start (state : σ) : server.Reached state [] (start state) := by
  have same : server.served state [] = state := by
    rw [served]
    show (if server.stopped state = true then state
      else if server.limit < 0 then server.overrun state else state) = state
    rw [if_neg (Nat.not_lt_zero _), ite_self]
  exact ⟨same.symm, rfl, fun _ => ⟨rfl, rfl, Nat.zero_le _⟩⟩

/-- One piece more. -/
theorem Reached.receive {server : LineServer α σ} {start : σ} {s : List α} {r : Reading α σ}
    (h : server.Reached start s r) (chunk : List α) :
    server.Reached start (s ++ chunk) (server.receive r chunk) := by
  by_cases stopped : server.stopped r.state = true
  · have kept : server.receive r chunk = { r with buffer := r.buffer ++ chunk } :=
      run_stopped server (r := { r with buffer := r.buffer ++ chunk }) stopped _
    have same := served_stopped_append server start s chunk (h.state ▸ stopped)
    rw [kept]
    refine ⟨h.state.trans same.symm, h.opened, ?_⟩
    dsimp only
    rw [stopped]
    intro no
    cases no
  · obtain ⟨buffer, offset, fits⟩ := h.waiting (by simpa using stopped)
    have unended := find_cut server.stop s
    rw [← buffer] at unended
    have taken : (r.buffer ++ chunk).take r.offset = r.buffer := by
      rw [offset, List.take_left]
    have seen : ((r.buffer ++ chunk).take r.offset).findIdx? (· = server.stop) = none := by
      rw [taken]
      exact unended
    have inside : r.offset ≤ (r.buffer ++ chunk).length := by
      rw [offset, List.length_append]
      exact Nat.le_add_right _ _
    obtain ⟨state, opened, waiting⟩ := server.run_open
      (r := { r with buffer := r.buffer ++ chunk }) h.opened seen inside (offset ▸ fits)
      (Nat.lt_succ_self (r.buffer ++ chunk).length)
    have whole := served_append server start s chunk (by rw [← h.state]; simpa using stopped)
    refine ⟨?_, opened, ?_⟩
    · rw [whole, ← h.state, ← buffer]
      exact state
    · intro going
      obtain ⟨left, rest⟩ := waiting going
      refine ⟨?_, rest⟩
      rw [cut_append, ← buffer]
      exact left

/-- **The pieces do not matter.** -/
theorem receive_chunks (state : σ) (chunks : List (List α)) :
    server.Reached state chunks.flatten (chunks.foldl server.receive (start state)) := by
  have run : ∀ (s : List α) (r : Reading α σ), server.Reached state s r →
      server.Reached state (s ++ chunks.flatten) (chunks.foldl server.receive r) := by
    induction chunks with
    | nil => simp
    | cons chunk chunks ih =>
        intro s r reached
        rw [List.flatten_cons, ← List.append_assoc]
        exact ih _ _ (reached.receive chunk)
  exact run [] _ (server.reached_start state)

/-- **Nor do they at the end of the stream.** -/
theorem finish_chunks (state : σ) (chunks : List (List α)) :
    (server.close (chunks.foldl server.receive (start state))).state =
      server.finished state chunks.flatten := by
  have reached := server.receive_chunks state chunks
  generalize chunks.foldl server.receive (start state) = r at reached
  rw [finished, ← reached.state]
  dsimp only
  by_cases stopped : server.stopped r.state = true
  · rw [if_pos stopped, close, run_stopped server (r := { r with closed := true }) stopped]
  · obtain ⟨buffer, offset, fits⟩ := reached.waiting (by simpa using stopped)
    rw [if_neg stopped, ← buffer, close, run, if_neg stopped, attempt]
    dsimp only
    rw [if_neg (by omega), if_pos rfl]
    dsimp only
    by_cases empty : r.buffer = []
    · rw [if_pos empty, empty]
      rw [run_stopped server (server.stopped_nil _)]
    · rw [if_neg empty]
      by_cases after : server.stopped (server.line r.buffer r.state) = true
      · rw [if_pos after, run_stopped server after]
      · rw [if_neg after, run, if_neg after, attempt]
        dsimp only
        rw [if_neg (by simp), if_pos rfl]
        dsimp only
        rw [run_stopped server (server.stopped_nil _)]

end LineServer

end DoorsControl.Kit
