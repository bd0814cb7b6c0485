import DoorsControl.Data.Text

/-!
# JSON values

One tree type for both ends of the wire. A value decoded by Python's `json` has
`Text` strings; a document parsed on the controller has byte strings. A decoded
object is an association list: no key occurs twice in what a parser returns, and
nothing below relies on that.
-/

namespace DoorsControl

/-- A floating-point number, as `float.__repr__` prints it. -/
inductive FloatLit where
  | nan
  | infinity (negative : Bool)
  /-- `12.5` -/
  | fixed (negative : Bool) (whole frac : List (Fin 10))
  /-- `1e+16`, `1.5e-07`; an empty `frac` has no point -/
  | scientific (negative : Bool) (lead : Fin 10) (frac : List (Fin 10))
      (expNegative : Bool) (exponent : List (Fin 10))
  deriving DecidableEq, Repr

/-- A JSON value with strings in `S`. -/
inductive Json (S : Type) where
  | null
  | bool (b : Bool)
  | int (i : Int)
  | float (f : FloatLit)
  | str (s : S)
  | arr (items : List (Json S))
  | obj (fields : List (S × Json S))

namespace Json

variable {S T : Type}

/-- `object[key]`. -/
def get? [DecidableEq S] (fields : List (S × Json S)) (key : S) : Option (Json S) :=
  (fields.find? fun field => field.1 = key).map Prod.snd

theorem mem_of_get? [DecidableEq S] {fields : List (S × Json S)} {key : S} {value : Json S}
    (h : get? fields key = some value) : (key, value) ∈ fields := by
  unfold get? at h
  obtain ⟨field, found, rfl⟩ := Option.map_eq_some_iff.mp h
  have key_eq : field.1 = key := by simpa using List.find?_some found
  rw [← key_eq]
  exact List.mem_of_find?_eq_some found

/-- Member lookup on any value: only an object has members. -/
def member? [DecidableEq S] : Json S → S → Option (Json S)
  | .obj fields, key => get? fields key
  | _, _ => none

mutual

/-- The same value over other strings. -/
def map (f : S → T) : Json S → Json T
  | .null => .null
  | .bool b => .bool b
  | .int i => .int i
  | .float x => .float x
  | .str s => .str (f s)
  | .arr items => .arr (mapItems f items)
  | .obj fields => .obj (mapFields f fields)

def mapItems (f : S → T) : List (Json S) → List (Json T)
  | [] => []
  | item :: rest => map f item :: mapItems f rest

def mapFields (f : S → T) : List (S × Json S) → List (T × Json T)
  | [] => []
  | (key, value) :: rest => (f key, map f value) :: mapFields f rest

end

mutual

/-- Equality of values, member by member. -/
def same [DecidableEq S] : Json S → Json S → Bool
  | .null, .null => true
  | .bool a, .bool b => a = b
  | .int a, .int b => a = b
  | .float a, .float b => a = b
  | .str a, .str b => a = b
  | .arr a, .arr b => sameItems a b
  | .obj a, .obj b => sameFields a b
  | _, _ => false

def sameItems [DecidableEq S] : List (Json S) → List (Json S) → Bool
  | [], [] => true
  | a :: as, b :: bs => same a b && sameItems as bs
  | _, _ => false

def sameFields [DecidableEq S] : List (S × Json S) → List (S × Json S) → Bool
  | [], [] => true
  | (key, a) :: as, (key', b) :: bs => key = key' && same a b && sameFields as bs
  | _, _ => false

end

mutual

theorem same_iff [DecidableEq S] : ∀ a b : Json S, same a b = true ↔ a = b
  | .null, b => by cases b <;> simp [same]
  | .bool a, b => by cases b <;> simp [same]
  | .int a, b => by cases b <;> simp [same]
  | .float a, b => by cases b <;> simp [same]
  | .str a, b => by cases b <;> simp [same]
  | .arr a, b => by cases b <;> simp [same, sameItems_iff a]
  | .obj a, b => by cases b <;> simp [same, sameFields_iff a]

theorem sameItems_iff [DecidableEq S] : ∀ as bs : List (Json S), sameItems as bs = true ↔ as = bs
  | [], bs => by cases bs <;> simp [sameItems]
  | a :: as, bs => by cases bs <;> simp [sameItems, same_iff a, sameItems_iff as]

theorem sameFields_iff [DecidableEq S] :
    ∀ as bs : List (S × Json S), sameFields as bs = true ↔ as = bs
  | [], bs => by cases bs <;> simp [sameFields]
  | (key, a) :: as, bs => by
      cases bs <;> simp [sameFields, same_iff a, sameFields_iff as, Prod.ext_iff, and_assoc]

end

instance [DecidableEq S] : DecidableEq (Json S) := fun a b => decidable_of_iff _ (same_iff a b)

end Json

/-- A Python JSON value as the controller's parser reads it off the wire: the
same tree with UTF-8 strings. -/
def Json.wire (value : Json Text) : Json Bytes := value.map utf8

theorem Json.wire_eq_str {value : Json Text} {bytes : Bytes} :
    value.wire = .str bytes ↔ ∃ s, value = .str s ∧ utf8 s = bytes := by
  cases value <;> simp [Json.wire, Json.map]

/-- A member with an ASCII name is found on both sides of the wire. -/
theorem Json.member?_wire (fields : List (Text × Json Text)) {key : String}
    (small : AsciiOnly key.toList) :
    (Json.obj fields).wire.member? (ascii key) = (Json.get? fields (text key)).map Json.wire := by
  have same : ∀ name : Text, utf8 name = ascii key ↔ name = text key := by
    intro name
    constructor
    · exact eq_chars_of_utf8 small
    · rintro rfl
      exact utf8_chars small
  show Json.get? (Json.mapFields utf8 fields) (ascii key) = _
  induction fields with
  | nil => rfl
  | cons field rest ih =>
      simp only [Json.get?, Json.mapFields, List.find?_cons, same] at ih ⊢
      by_cases named : field.1 = text key
      · simp [named, Json.wire]
      · simpa [named] using ih

/-- A string member with an ASCII name. -/
theorem Json.member?_wire_str {fields : List (Text × Json Text)} {key : String}
    (small : AsciiOnly key.toList) {bytes : Bytes} :
    (Json.obj fields).wire.member? (ascii key) = some (.str bytes) ↔
      ∃ s, Json.get? fields (text key) = some (.str s) ∧ utf8 s = bytes := by
  rw [Json.member?_wire fields small, Option.map_eq_some_iff]
  constructor
  · rintro ⟨value, found, isStr⟩
    obtain ⟨s, rfl, same⟩ := Json.wire_eq_str.mp isStr
    exact ⟨s, found, same⟩
  · rintro ⟨s, found, same⟩
    exact ⟨.str s, found, Json.wire_eq_str.mpr ⟨s, rfl, same⟩⟩

end DoorsControl
