import DoorsControl.Data.Utf8
import DoorsControl.Signer.ReadBack
import DoorsControl.Signer.Server
import DoorsControl.System.Canonical

/-!
# A signature is for one payload

The bytes under a signature are `json.dumps` with sorted keys. They can be read back, so they are
the bytes of one payload only, up to the order of its members.

* `loads_dumps` — **the canonical text is read as the payload in order**;
* `canonicalBytes_eq_iff` — two payloads have the same bytes if and only if they have the same
  members;
* `signed_alike` — **whatever two requests the signer answers**, the same signed bytes mean the
  same command.
-/

namespace DoorsControl.System

open JsonReader
open Kit (Loops Turn whileLoop ended whileLoop_again whileLoop_leave)
open Signer (Dict dumps dumpsString dumpsItems dumpsFields escapeChar joinComma member sortKeys
  canonicalBytes SignerService SignedCommand)

/-! ## Values in order -/

mutual

/-- The members of every object in the order of their keys. -/
def ordered : Json Text → Json Text
  | .null => .null
  | .bool b => .bool b
  | .int i => .int i
  | .float f => .float f
  | .str s => .str s
  | .arr items => .arr (orderedItems items)
  | .obj fields => .obj (sortKeys (orderedFields fields))

def orderedItems : List (Json Text) → List (Json Text)
  | [] => []
  | item :: rest => ordered item :: orderedItems rest

def orderedFields : List (Text × Json Text) → List (Text × Json Text)
  | [] => []
  | (key, value) :: rest => (key, ordered value) :: orderedFields rest

end

theorem orderedFields_eq (fields : Dict) :
    orderedFields fields = fields.map fun field => (field.1, ordered field.2) := by
  induction fields with
  | nil => rfl
  | cons field rest ih => simp [orderedFields, ih]

/-- Keys are put in order whatever stands beside them. -/
theorem sortKeys_map {α β : Type} (f : α → β) (fields : List (Text × α)) :
    sortKeys (fields.map fun field => (field.1, f field.2)) =
      (sortKeys fields).map fun field => (field.1, f field.2) :=
  (List.map_insertionSort _ _ (fun field : Text × α => (field.1, f field.2)) fields
    fun _ _ _ _ => Iff.rfl).symm

theorem sortKeys_perm {α : Type} (fields : List (Text × α)) : (sortKeys fields).Perm fields :=
  List.perm_insertionSort _ fields

/-! ## The canonical text is read back -/

/-- An escape of the canonical text is read as its character. -/
theorem stringTurn_escapeChar (c : CodePoint) (done rest : Text) :
    stringTurn (done, escapeChar c ++ rest) = ended (.ok (.again (done ++ [c], rest))) := by
  unfold escapeChar
  split_ifs with quote backslash newline return' tab feed back control
  · rw [quote]
    rfl
  · rw [backslash]
    rfl
  · obtain rfl : c = 10 := Fin.ext newline
    rfl
  · obtain rfl : c = 13 := Fin.ext return'
    rfl
  · obtain rfl : c = 9 := Fin.ext tab
    rfl
  · obtain rfl : c = 12 := Fin.ext feed
    rfl
  · obtain rfl : c = 8 := Fin.ext back
    rfl
  · -- a control character
    have plain : isHighSurrogate c.val = false := by
      simp only [isHighSurrogate, Bool.and_eq_false_iff, decide_eq_false_iff_not]
      omega
    show stringTurn (done, codePoint '\\' :: codePoint 'u' :: (chars (hexDigits 4 c.val) ++ rest)) = _
    rw [stringTurn]
    dsimp only
    rw [if_neg (by decide), if_pos rfl, escape, if_pos rfl, hex4_hexDigits (by omega)]
    dsimp only
    rw [plain, if_neg Bool.false_ne_true]
    show ended (.ok (Turn.again (done ++ [Fin.ofNat 0x110000 c.val], rest))) = _
    have same : Fin.ofNat 0x110000 c.val = c := Fin.ext (Nat.mod_eq_of_lt c.isLt)
    rw [same]
  · rw [stringTurn]
    dsimp only [List.singleton_append]
    rw [if_neg quote, if_neg backslash, if_neg (by omega)]
    rfl

theorem stringLoop_escapeChar (s done rest : Text) {turns : Nat} (enough : s.length < turns) :
    whileLoop stringTurn turns (done, s.flatMap escapeChar ++ codePoint '"' :: rest) =
      ended (.ok (done ++ s, rest)) := by
  induction s generalizing done turns with
  | nil =>
      obtain ⟨turns, rfl⟩ : ∃ k, turns = k + 1 := ⟨turns - 1, by omega⟩
      rw [List.append_nil]
      exact whileLoop_leave rfl
  | cons c s ih =>
      obtain ⟨turns, rfl⟩ : ∃ k, turns = k + 1 := ⟨turns - 1, by omega⟩
      rw [List.flatMap_cons, List.append_assoc, whileLoop_again (stringTurn_escapeChar c done _),
        ih (done ++ [c]) (by simpa using enough), List.append_assoc]
      rfl

theorem length_flatMap_escapeChar (s : Text) : s.length ≤ (s.flatMap escapeChar).length := by
  have nonempty : ∀ c, 1 ≤ (escapeChar c).length := by
    intro c
    unfold escapeChar
    split_ifs <;> simp [chars]
  induction s with
  | nil => exact Nat.zero_le _
  | cons c s ih =>
      have one := nonempty c
      rw [List.flatMap_cons, List.length_append, List.length_cons]
      omega

theorem scanString_escapeChar (s rest : Text) :
    scanString (s.flatMap escapeChar ++ codePoint '"' :: rest) = ended (.ok (s, rest)) := by
  have long := length_flatMap_escapeChar s
  refine stringLoop_escapeChar s [] rest ?_
  rw [List.length_append]
  omega

mutual

theorem reads_dumps {py : Interpreter} (exact : py.Exact) : ∀ (value : Json Text) {depth : Nat},
    value.All Json.Fine → value.nesting ≤ depth →
    JsonReader.Reads (scanOnce py depth) (dumps value) (ordered value)
  | .null, depth, _, _ => reads_null py depth
  | .bool true, depth, _, _ => reads_bool py depth true
  | .bool false, depth, _, _ => reads_bool py depth false
  | .int _, depth, fits, _ => reads_int py depth fits
  | .float _, depth, shaped, _ => reads_float py depth exact shaped
  | .str s, depth, _, _ => reads_str py depth (scanString_escapeChar s)
  | .arr _, 0, _, deep => absurd deep (Nat.not_succ_le_zero _)
  | .arr items, _ + 1, fine, shallow =>
      reads_arr (reads_dumpsItems exact items fine.2 (Nat.le_of_succ_le_succ shallow))
  | .obj _, 0, _, deep => absurd deep (Nat.not_succ_le_zero _)
  | .obj fields, depth + 1, fine, shallow => by
      have each := reads_dumpsFields exact fields fine.2 (Nat.le_of_succ_le_succ shallow)
      have members : List.Forall₂ (ReadsMember (scanOnce py depth))
          ((sortKeys (dumpsFields fields)).map member) (sortKeys (orderedFields fields)) := by
        rw [dumpsFields_eq, orderedFields_eq, sortKeys_map, sortKeys_map, List.map_map,
          List.forall₂_map_left_iff, List.forall₂_map_right_iff, List.forall₂_same]
        intro field mem
        exact each field ((sortKeys_perm fields).subset mem)
      have once : ((sortKeys (orderedFields fields)).map Prod.fst).Nodup := by
        refine (((sortKeys_perm (orderedFields fields)).map Prod.fst).nodup_iff).mpr ?_
        rw [orderedFields_eq, List.map_map]
        exact fine.1
      have read := reads_obj members
      rw [dictOf_nil once] at read
      exact read

theorem reads_dumpsItems {py : Interpreter} (exact : py.Exact) : ∀ (items : List (Json Text))
    {depth : Nat}, Json.AllItems Json.Fine items → Json.nestingItems items ≤ depth →
    List.Forall₂ (JsonReader.Reads (scanOnce py depth)) (dumpsItems items) (orderedItems items)
  | [], _, _, _ => .nil
  | item :: rest, _, fine, shallow =>
      .cons (reads_dumps exact item fine.1 (le_trans (le_max_left _ _) shallow))
        (reads_dumpsItems exact rest fine.2 (le_trans (le_max_right _ _) shallow))

/-- Each member, at any place. -/
theorem reads_dumpsFields {py : Interpreter} (exact : py.Exact) : ∀ (fields : Dict) {depth : Nat},
    Json.AllFields Json.Fine fields → Json.nestingFields fields ≤ depth → ∀ field ∈ fields,
    ReadsMember (scanOnce py depth) (member (field.1, dumps field.2)) (field.1, ordered field.2)
  | [], _, _, _ => by simp
  | (key, value) :: rest, _, fine, shallow => by
      refine List.forall_mem_cons.mpr ⟨⟨key.flatMap escapeChar, dumps value, ?_,
        scanString_escapeChar key, ?_⟩, ?_⟩
      · simp [member, dumpsString]
      · exact reads_dumps exact value fine.1 (le_trans (le_max_left _ _) shallow)
      · exact reads_dumpsFields exact rest fine.2 (le_trans (le_max_right _ _) shallow)

end

/-- **The canonical text of a payload is read as the payload in order.** -/
theorem loads_dumps {py : Interpreter} (exact : py.Exact) {payload : Dict}
    (fine : (Json.obj payload).All Json.Fine) (shallow : (Json.obj payload).nesting ≤ py.depth) :
    loads py (dumps (.obj payload)) = ended (.ok (ordered (.obj payload))) := by
  have noBom : (dumps (.obj payload)).head? ≠ some 0xfeff :=
    fun bom => absurd (Option.some.inj bom) (by decide)
  have nothing : ∀ c ∈ ([] : Text), isSpace c = true := by simp
  simpa using loads_of_reads (reads_dumps exact _ fine shallow) noBom nothing

/-! ## The same bytes -/

mutual

theorem dumps_ordered : ∀ value : Json Text, dumps (ordered value) = dumps value
  | .null => rfl
  | .bool _ => rfl
  | .int _ => rfl
  | .float _ => rfl
  | .str _ => rfl
  | .arr items => by simp only [ordered, dumps, dumpsItems_ordered items]
  | .obj fields => by
      have sorted : sortKeys (sortKeys (orderedFields fields)) = sortKeys (orderedFields fields) := by
        refine List.Pairwise.insertionSort_eq ?_
        exact (List.pairwise_map.mp (sortKeys_ordered (orderedFields fields))).imp
          fun before => (textLe_iff _ _).mpr before
      simp only [ordered, dumps]
      rw [dumpsFields_eq (sortKeys _), sortKeys_map, sorted, ← sortKeys_map, ← dumpsFields_eq,
        dumpsFields_ordered fields]

theorem dumpsItems_ordered : ∀ items : List (Json Text),
    dumpsItems (orderedItems items) = dumpsItems items
  | [] => rfl
  | item :: rest => by
      simp only [orderedItems, dumpsItems, dumps_ordered item, dumpsItems_ordered rest]

theorem dumpsFields_ordered : ∀ fields : Dict,
    dumpsFields (orderedFields fields) = dumpsFields fields
  | [] => rfl
  | (key, value) :: rest => by
      simp only [orderedFields, dumpsFields, dumps_ordered value, dumpsFields_ordered rest]

end

theorem mem_iff_get? {fields : Dict} (once : (fields.map Prod.fst).Nodup) (key : Text)
    (value : Json Text) : (key, value) ∈ fields ↔ Json.get? fields key = some value :=
  ⟨fun mem => get?_of_mem once mem, Json.mem_of_get?⟩

/-- Two objects are the same in order if and only if every key finds the same in them. -/
theorem ordered_eq_iff {p q : Dict} (onceP : (p.map Prod.fst).Nodup)
    (onceQ : (q.map Prod.fst).Nodup) : ordered (.obj p) = ordered (.obj q) ↔
      ∀ key, (Json.get? p key).map ordered = (Json.get? q key).map ordered := by
  have keys : ∀ fields : Dict, (orderedFields fields).map Prod.fst = fields.map Prod.fst := by
    intro fields
    rw [orderedFields_eq, List.map_map]
    rfl
  have found : ∀ {fields : Dict} (_ : (fields.map Prod.fst).Nodup) (key : Text),
      Json.get? (orderedFields fields) key = (Json.get? fields key).map ordered := by
    intro fields _ key
    rw [orderedFields_eq]
    unfold Json.get?
    rw [List.find?_map, Option.map_map, Option.map_map]
    rfl
  have onceP' : ((orderedFields p).map Prod.fst).Nodup := keys p ▸ onceP
  have onceQ' : ((orderedFields q).map Prod.fst).Nodup := keys q ▸ onceQ
  rw [ordered, ordered, Json.obj.injEq]
  constructor
  · intro same key
    have perm : (orderedFields p).Perm (orderedFields q) :=
      (sortKeys_perm _).symm.trans (same ▸ sortKeys_perm _)
    rw [← found onceP, ← found onceQ]
    refine Option.ext fun value => ?_
    rw [← mem_iff_get? onceP', ← mem_iff_get? onceQ']
    exact perm.mem_iff
  · intro same
    have perm : (orderedFields p).Perm (orderedFields q) := by
      refine (List.perm_ext_iff_of_nodup onceP'.of_map onceQ'.of_map).mpr ?_
      rintro ⟨key, value⟩
      rw [mem_iff_get? onceP', mem_iff_get? onceQ', found onceP, found onceQ, same key]
    have sorted := (sortKeys_perm (orderedFields p)).trans
      (perm.trans (sortKeys_perm (orderedFields q)).symm)
    refine sorted.eq_of_pairwise ?_ (List.pairwise_map.mp (sortKeys_ordered _))
      (List.pairwise_map.mp (sortKeys_ordered _))
    intro a b memA memB before after
    have key : a.1 = b.1 := le_antisymm before after
    have inP : b ∈ orderedFields p :=
      (sortKeys_perm _).subset (sorted.symm.subset memB)
    exact List.inj_on_of_nodup_map onceP' ((sortKeys_perm _).subset memA) inP key

/-- The text of a payload decides it. -/
theorem ordered_of_dumps {p q : Dict} (fineP : (Json.obj p).All Json.Fine)
    (fineQ : (Json.obj q).All Json.Fine) (same : dumps (.obj p) = dumps (.obj q)) :
    ordered (.obj p) = ordered (.obj q) := by
  let depth := max (Json.obj p).nesting (Json.obj q).nesting
  have readP := loads_dumps (python_exact depth) fineP (le_max_left _ _)
  have readQ := loads_dumps (python_exact depth) fineQ (le_max_right _ _)
  rw [same, readQ] at readP
  exact (Except.ok.inj (Option.some.inj readP)).symm

/-- The canonical bytes of a payload decide it. -/
theorem ordered_of_canonicalBytes {p q : Dict} (fineP : (Json.obj p).All Json.Fine)
    (fineQ : (Json.obj q).All Json.Fine) {message : Bytes}
    (canonicalP : canonicalBytes p = some message) (canonicalQ : canonicalBytes q = some message) :
    ordered (.obj p) = ordered (.obj q) := by
  obtain ⟨bodyP, encodedP, rfl⟩ := Option.map_eq_some_iff.mp canonicalP
  obtain ⟨bodyQ, encodedQ, same⟩ := Option.map_eq_some_iff.mp canonicalQ
  obtain rfl : bodyQ = bodyP := List.append_cancel_left same
  refine ordered_of_dumps fineP fineQ (utf8_inj ?_)
  rw [utf8_of_encodeUtf8 encodedP, utf8_of_encodeUtf8 encodedQ]

/-- **The same canonical bytes are the same members.** -/
theorem canonicalBytes_eq_iff {p q : Dict} (fineP : (Json.obj p).All Json.Fine)
    (fineQ : (Json.obj q).All Json.Fine) {message : Bytes}
    (canonical : canonicalBytes p = some message) : canonicalBytes q = some message ↔
      ∀ key, (Json.get? p key).map ordered = (Json.get? q key).map ordered := by
  rw [← ordered_eq_iff fineP.1 fineQ.1]
  constructor
  · exact ordered_of_canonicalBytes fineP fineQ canonical
  · intro same
    have text : dumps (.obj q) = dumps (.obj p) := by
      rw [← dumps_ordered (.obj q), ← same, dumps_ordered]
    rw [canonicalBytes, text]
    exact canonical

/-- Two orders of the same members. -/
theorem canonicalBytes_eq_iff_swapped :
    canonicalBytes [(text "b", .null), (text "a", .bool true)] =
        some (Signer.commandDomain ++ ascii "\x7b\"a\":true,\"b\":null\x7d") ↔
      ∀ key, (Json.get? [(text "a", .bool true), (text "b", .null)] key).map ordered =
        (Json.get? [(text "b", .null), (text "a", .bool true)] key).map ordered :=
  have once : ([text "a", text "b"] : List Text).Nodup := by decide
  have onceSwapped : ([text "b", text "a"] : List Text).Nodup := by decide
  canonicalBytes_eq_iff (p := [(text "a", .bool true), (text "b", .null)])
    (q := [(text "b", .null), (text "a", .bool true)])
    ⟨once, trivial, trivial, trivial⟩ ⟨onceSwapped, trivial, trivial, trivial⟩ rfl

end DoorsControl.System
