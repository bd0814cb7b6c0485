import Mathlib.Data.List.Basic
import Mathlib.Logic.Function.Iterate
import Mathlib.Order.Lattice

/-!
# Reading a table page by page

A table in the order of a key is read from its end, a page at a time, each page below the last key
of the page before. The table may grow in the meantime, anywhere.

* `Walk.Ok` — **the invariant**: what was read is in the table, in descending order, and what was
  there from the beginning has been read or is still below;
* `Walk.Ok.grows`, `Walk.Ok.read` — a row that is added, and a page that is read, keep it;
* `Walk.Ok.complete` — at the end nothing is missing;
* `reads_done` — a table that does not grow comes to its end.
-/

namespace DoorsControl.Kit.Paging

variable {α κ : Type} [LinearOrder κ] (key : α → κ) (keep : α → Bool)

/-- Past the cursor; there is none on the first page. -/
def below (cursor : Option κ) (row : α) : Bool :=
  match cursor with
  | none => true
  | some last => key row < last

/-- `WHERE .. ORDER BY key DESC` -/
def remaining (cursor : Option κ) (table : List α) : List α :=
  (table.filter fun row => below key cursor row && keep row).reverse

/-- `LIMIT limit` -/
def page (limit : Nat) (cursor : Option κ) (table : List α) : List α :=
  (remaining key keep cursor table).take limit

/-- How far a reader has come. -/
structure Walk (α κ : Type) where
  cursor : Option κ
  seen : List α
  done : Bool

def Walk.start : Walk α κ := ⟨none, [], false⟩

/-- After one more page; an empty one is the end. -/
def Walk.add (rows : List α) (walk : Walk α κ) : Walk α κ :=
  match rows.getLast? with
  | none => { walk with done := true }
  | some last => { walk with cursor := some (key last), seen := walk.seen ++ rows }

def Walk.read (limit : Nat) (table : List α) (walk : Walk α κ) : Walk α κ :=
  walk.add key (page key keep limit walk.cursor table)

/-- Where a walk stands that began with the rows `old`. -/
structure Walk.Ok (old table : List α) (walk : Walk α κ) : Prop where
  known : old ⊆ table
  real : ∀ row ∈ walk.seen, row ∈ table ∧ keep row = true
  descending : walk.seen.Pairwise fun a b => key b < key a
  above : ∀ row ∈ walk.seen, ∀ last, walk.cursor = some last → last ≤ key row
  started : walk.cursor = none → walk.seen = []
  rest : ∀ row ∈ old, keep row = true → row ∈ walk.seen ∨ below key walk.cursor row = true
  complete : walk.done = true → ∀ row ∈ old, keep row = true → row ∈ walk.seen

variable {key keep} {old table table' : List α} {walk : Walk α κ}

theorem Walk.ok_start (table : List α) : Walk.Ok key keep table table (Walk.start : Walk α κ) where
  known := List.Subset.refl _
  real row mem := by simp [Walk.start] at mem
  descending := List.Pairwise.nil
  above row mem := by simp [Walk.start] at mem
  started _ := rfl
  rest _ _ _ := .inr rfl
  complete isDone := by cases isDone

/-- Rows that are added. -/
theorem Walk.Ok.grows (ok : walk.Ok key keep old table) (more : table ⊆ table') :
    walk.Ok key keep old table' where
  known := fun _ mem => more (ok.known mem)
  real row mem := ⟨more (ok.real row mem).1, (ok.real row mem).2⟩
  descending := ok.descending
  above := ok.above
  started := ok.started
  rest := ok.rest
  complete := ok.complete

theorem mem_remaining {cursor : Option κ} {row : α} : row ∈ remaining key keep cursor table ↔
    row ∈ table ∧ below key cursor row = true ∧ keep row = true := by
  rw [remaining, List.mem_reverse, List.mem_filter, Bool.and_eq_true]

theorem mem_page {limit : Nat} {cursor : Option κ} {row : α}
    (mem : row ∈ page key keep limit cursor table) :
    row ∈ table ∧ below key cursor row = true ∧ keep row = true :=
  mem_remaining.mp (List.mem_of_mem_take mem)

theorem remaining_descending (sorted : table.Pairwise fun a b => key a < key b)
    (cursor : Option κ) :
    (remaining key keep cursor table).Pairwise fun a b => key b < key a :=
  List.pairwise_reverse.mpr (sorted.filter _)

theorem page_descending (sorted : table.Pairwise fun a b => key a < key b) (limit : Nat)
    (cursor : Option κ) :
    (page key keep limit cursor table).Pairwise fun a b => key b < key a :=
  (remaining_descending sorted cursor).take

/-- What a page does not show is below all that it shows. -/
theorem below_all_of_not_mem_page (sorted : table.Pairwise fun a b => key a < key b) {limit : Nat}
    {cursor : Option κ} {row other : α} (mem : row ∈ table) (fits : keep row = true)
    (isBelow : below key cursor row = true) (unseen : row ∉ page key keep limit cursor table)
    (isShown : other ∈ page key keep limit cursor table) : key row < key other := by
  have all : row ∈ remaining key keep cursor table := mem_remaining.mpr ⟨mem, isBelow, fits⟩
  have ordered : (remaining key keep cursor table).Pairwise fun a b => key b < key a :=
    remaining_descending sorted cursor
  rw [← List.take_append_drop limit (remaining key keep cursor table)] at all ordered
  rcases List.mem_append.mp all with shown | hidden
  · exact absurd shown unseen
  · exact (List.pairwise_append.mp ordered).2.2 other isShown row hidden

theorem below_of_not_mem_page (sorted : table.Pairwise fun a b => key a < key b) {limit : Nat}
    {cursor : Option κ} {row last : α} (mem : row ∈ table) (fits : keep row = true)
    (isBelow : below key cursor row = true) (unseen : row ∉ page key keep limit cursor table)
    (isLast : (page key keep limit cursor table).getLast? = some last) : key row < key last :=
  below_all_of_not_mem_page sorted mem fits isBelow unseen (List.mem_of_getLast? isLast)

theorem page_length_le {cursor : Option κ} (limit : Nat) :
    (page key keep limit cursor table).length ≤ limit :=
  List.length_take_le _ _

/-- A page that does not show all is full. -/
theorem page_full {limit : Nat} {row : α} (mem : row ∈ table) (fits : keep row = true)
    (unseen : row ∉ page key keep limit none table) :
    (page key keep limit none table).length = limit := by
  have all : row ∈ remaining key keep none table := mem_remaining.mpr ⟨mem, rfl, fits⟩
  rw [page, List.length_take, min_eq_left]
  by_contra short
  rw [page, List.take_of_length_le (by omega)] at unseen
  exact unseen all

/-- The last row of a page has the least key of it. -/
theorem last_le_of_mem_page (sorted : table.Pairwise fun a b => key a < key b) {limit : Nat}
    {cursor : Option κ} {row last : α} (mem : row ∈ page key keep limit cursor table)
    (isLast : (page key keep limit cursor table).getLast? = some last) : key last ≤ key row := by
  obtain ⟨front, whole⟩ := List.getLast?_eq_some_iff.mp isLast
  have ordered : (page key keep limit cursor table).Pairwise fun a b => key b < key a :=
    page_descending sorted limit cursor
  rw [whole] at mem ordered
  rcases List.mem_append.mp mem with inFront | isRow
  · exact le_of_lt ((List.pairwise_append.mp ordered).2.2 row inFront last (by simp))
  · rw [List.mem_singleton.mp isRow]

/-- **One page keeps the invariant**, if no two rows have one key. -/
theorem Walk.Ok.read (ok : walk.Ok key keep old table)
    (sorted : table.Pairwise fun a b => key a < key b) {limit : Nat} (positive : 0 < limit) :
    (walk.read key keep limit table).Ok key keep old table := by
  unfold Walk.read Walk.add
  cases isLast : (page key keep limit walk.cursor table).getLast? with
  | none =>
      -- nothing is left below the cursor
      refine ⟨ok.known, ok.real, ok.descending, ok.above, ok.started, ok.rest, fun _ => ?_⟩
      intro row mem fits
      rcases ok.rest row mem fits with seen | isBelow
      · exact seen
      · have nothing := List.getLast?_eq_none_iff.mp isLast
        rw [page, List.take_eq_nil_iff] at nothing
        have listed : row ∈ remaining key keep walk.cursor table :=
          mem_remaining.mpr ⟨ok.known mem, isBelow, fits⟩
        rcases nothing with zero | empty
        · exact absurd zero (Nat.ne_of_gt positive)
        · rw [empty] at listed
          cases listed
  | some last =>
      have lastBelow := (mem_page (List.mem_of_getLast? isLast)).2.1
      have earlier : ∀ row ∈ walk.seen, key last < key row := by
        intro row mem
        cases isCursor : walk.cursor with
        | none =>
            rw [ok.started isCursor] at mem
            cases mem
        | some before =>
            rw [isCursor] at lastBelow
            exact lt_of_lt_of_le (of_decide_eq_true lastBelow) (ok.above row mem before isCursor)
      refine ⟨ok.known, ?_, ?_, ?_, nofun, ?_, ?_⟩
      · intro row mem
        rcases List.mem_append.mp mem with old | new
        · exact ok.real row old
        · exact ⟨(mem_page new).1, (mem_page new).2.2⟩
      · refine List.pairwise_append.mpr ⟨ok.descending, page_descending sorted limit _, ?_⟩
        intro before memBefore row mem
        cases isCursor : walk.cursor with
        | none =>
            rw [ok.started isCursor] at memBefore
            cases memBefore
        | some cursor =>
            have isBelow := (mem_page mem).2.1
            rw [isCursor] at isBelow
            exact lt_of_lt_of_le (of_decide_eq_true isBelow)
              (ok.above before memBefore cursor isCursor)
      · intro row mem cursor isCursor
        rw [← Option.some.inj isCursor]
        rcases List.mem_append.mp mem with old | new
        · exact le_of_lt (earlier row old)
        · exact last_le_of_mem_page sorted new isLast
      · intro row mem fits
        rcases ok.rest row mem fits with seen | isBelow
        · exact .inl (List.mem_append_left _ seen)
        · by_cases shown : row ∈ page key keep limit walk.cursor table
          · exact .inl (List.mem_append_right _ shown)
          · exact .inr (decide_eq_true
              (below_of_not_mem_page sorted (ok.known mem) fits isBelow shown isLast))
      · intro isDone row mem fits
        exact List.mem_append_left _ (ok.complete isDone row mem fits)

/-! ## The number of pages -/

/-- One page less is left of a table that does not grow. -/
theorem remaining_read (sorted : table.Pairwise fun a b => key a < key b) {limit : Nat}
    (positive : 0 < limit) : remaining key keep (walk.read key keep limit table).cursor table =
      (remaining key keep walk.cursor table).drop limit := by
  unfold Walk.read Walk.add
  cases isLast : (page key keep limit walk.cursor table).getLast? with
  | none =>
      have nothing := List.getLast?_eq_none_iff.mp isLast
      rw [page, List.take_eq_nil_iff] at nothing
      rcases nothing with zero | empty
      · exact absurd zero (Nat.ne_of_gt positive)
      · show remaining key keep walk.cursor table = _
        rw [empty, List.drop_nil]
  | some last =>
      have lastBelow := (mem_page (List.mem_of_getLast? isLast)).2.1
      have ordered : (remaining key keep walk.cursor table).Pairwise fun a b => key b < key a :=
        remaining_descending sorted walk.cursor
      -- what is below the last row of the page was below the cursor
      have narrowed : remaining key keep (some (key last)) table =
          (remaining key keep walk.cursor table).filter fun row => key row < key last := by
        rw [remaining, remaining, List.filter_reverse, List.filter_filter]
        congr 1
        refine List.filter_congr fun row _ => ?_
        cases isCursor : walk.cursor with
        | none => rfl
        | some cursor =>
            rw [isCursor] at lastBelow
            have first : key last < cursor := of_decide_eq_true lastBelow
            by_cases less : key row < key last
            · have both := lt_trans less first
              simp [below, less, both]
            · simp [below, less]
      show remaining key keep (some (key last)) table = _
      rw [narrowed]
      rw [← List.take_append_drop limit (remaining key keep walk.cursor table)] at ordered
      nth_rewrite 1 [← List.take_append_drop limit (remaining key keep walk.cursor table)]
      have shown : ((remaining key keep walk.cursor table).take limit).filter
          (fun row => key row < key last) = [] := by
        refine List.filter_eq_nil_iff.mpr fun row mem => ?_
        rw [decide_eq_true_eq, not_lt]
        exact last_le_of_mem_page sorted mem isLast
      have hidden : ((remaining key keep walk.cursor table).drop limit).filter
          (fun row => key row < key last) = (remaining key keep walk.cursor table).drop limit := by
        refine List.filter_eq_self.mpr fun row mem => decide_eq_true ?_
        exact (List.pairwise_append.mp ordered).2.2 last (List.mem_of_getLast? isLast) row mem
      rw [List.filter_append, shown, hidden, List.nil_append]

/-- **A table that does not grow is read in as many pages as it has, and an empty one.** -/
theorem reads_done (sorted : table.Pairwise fun a b => key a < key b) {limit : Nat}
    (positive : 0 < limit) (pages : Nat)
    (enough : (remaining key keep walk.cursor table).length ≤ pages * limit) :
    ((Walk.read key keep limit table)^[pages + 1] walk).done = true := by
  induction pages generalizing walk with
  | zero =>
      rw [Nat.zero_mul, Nat.le_zero] at enough
      have nothing : page key keep limit walk.cursor table = [] := by
        rw [page, List.eq_nil_of_length_eq_zero enough, List.take_nil]
      show (walk.read key keep limit table).done = true
      rw [Walk.read, Walk.add, nothing]
      rfl
  | succ pages ih =>
      rw [Function.iterate_succ_apply]
      refine ih ?_
      rw [remaining_read sorted positive, List.length_drop]
      rw [Nat.succ_mul] at enough
      omega

end DoorsControl.Kit.Paging
