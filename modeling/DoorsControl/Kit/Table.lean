import Mathlib.Data.List.Nodup

/-!
# Tables with a unique key

Rows in the order they were inserted, no two of them under one key.

* `mem_of_get?` — reading by the key;
* `mem_update`, `mem_insert?` — what an update and an insert leave.
-/

namespace DoorsControl.Kit

structure Table (ρ : Type) {κ : Type} (key : ρ → κ) where
  rows : List ρ
  unique : (rows.map key).Nodup

namespace Table

variable {ρ κ : Type} {key : ρ → κ}

/-- An update that leaves the keys alone. -/
def update (t : Table ρ key) (f : ρ → ρ) (keeps : ∀ r, key (f r) = key r) : Table ρ key where
  rows := t.rows.map f
  unique := by
    have same : key ∘ f = key := funext keeps
    rw [List.map_map, same]
    exact t.unique

/-- One key, one row. -/
theorem eq_of_key_eq (t : Table ρ key) {a b : ρ} (memA : a ∈ t.rows) (memB : b ∈ t.rows)
    (same : key a = key b) : a = b :=
  List.inj_on_of_nodup_map t.unique memA memB same

variable [DecidableEq κ]

def get? (t : Table ρ key) (k : κ) : Option ρ := t.rows.find? fun r => key r = k

theorem mem_of_get? {t : Table ρ key} {k : κ} {r : ρ} (found : t.get? k = some r) :
    r ∈ t.rows ∧ key r = k := by
  unfold get? at found
  have isKey := List.find?_some found
  exact ⟨List.mem_of_find?_eq_some found, of_decide_eq_true isKey⟩

/-- An insert, unless the key is taken. -/
def insert? (t : Table ρ key) (row : ρ) : Option (Table ρ key) :=
  if taken : key row ∈ t.rows.map key then none
  else some
    { rows := t.rows ++ [row]
      unique := by
        rw [List.map_append, List.nodup_append]
        refine ⟨t.unique, List.nodup_singleton _, ?_⟩
        rintro a mem b last rfl
        exact taken (List.mem_singleton.mp last ▸ mem) }

theorem insert?_eq_some {t t' : Table ρ key} {row : ρ} (h : t.insert? row = some t') :
    t'.rows = t.rows ++ [row] ∧ key row ∉ t.rows.map key := by
  unfold insert? at h
  split_ifs at h with taken
  obtain rfl := Option.some.inj h
  exact ⟨rfl, taken⟩

theorem mem_insert? {t t' : Table ρ key} {row r : ρ} (h : t.insert? row = some t') :
    r ∈ t'.rows ↔ r ∈ t.rows ∨ r = row := by
  rw [(insert?_eq_some h).1, List.mem_append, List.mem_singleton]

end Table

end DoorsControl.Kit
