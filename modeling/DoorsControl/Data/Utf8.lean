import DoorsControl.Data.Text
import DoorsControl.Kit.Codes

/-!
# UTF-8 is read in one way

The bytes of a text determine it: no code point's bytes begin like those of another.
-/

namespace DoorsControl

theorem toNat_mod_of_ofNat {m n : Nat} (same : UInt8.ofNat m = UInt8.ofNat n) :
    m % 256 = n % 256 := by
  simpa using congrArg UInt8.toNat same

/-- The first byte tells how many follow, and they give the number. -/
theorem utf8Char_agree : Kit.Agree utf8Char utf8Char := by
  intro a b u v same
  have boundA := a.isLt
  have boundB := b.isLt
  suffices both : a.val = b.val ∧ u = v from ⟨Fin.ext both.1, both.2⟩
  unfold utf8Char at same
  dsimp only at same
  split_ifs at same <;>
    simp only [List.cons_append, List.nil_append, List.cons.injEq] at same
  all_goals
    have first := toNat_mod_of_ofNat same.1
    try omega
  · exact ⟨by omega, same.2⟩
  · have second := toNat_mod_of_ofNat same.2.1
    exact ⟨by omega, same.2.2⟩
  · have second := toNat_mod_of_ofNat same.2.1
    have third := toNat_mod_of_ofNat same.2.2.1
    exact ⟨by omega, same.2.2.2⟩
  · have second := toNat_mod_of_ofNat same.2.1
    have third := toNat_mod_of_ofNat same.2.2.1
    have fourth := toNat_mod_of_ofNat same.2.2.2.1
    exact ⟨by omega, same.2.2.2.2⟩

/-- No code point starts with a continuation byte. -/
theorem utf8Char_avoids : Kit.Avoids utf8Char 0x80 := by
  intro a
  have bound := a.isLt
  have lead : ∀ n, n < 256 → n ≠ 128 → UInt8.ofNat n ≠ 0x80 := by
    intro n small other same
    have value : n % 256 = 128 % 256 := toNat_mod_of_ofNat same
    omega
  unfold utf8Char
  dsimp only
  split_ifs <;> exact ⟨_, _, rfl, lead _ (by omega) (by omega)⟩

theorem utf8_inj {s t : Text} (same : utf8 s = utf8 t) : s = t := by
  have stopped : s.flatMap utf8Char ++ (0x80 :: []) = t.flatMap utf8Char ++ 0x80 :: [] :=
    congrArg (· ++ [0x80]) same
  exact (utf8Char_agree.flatMap_stop utf8Char_avoids utf8Char_avoids stopped).1

end DoorsControl
