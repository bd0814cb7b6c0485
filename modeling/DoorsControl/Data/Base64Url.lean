import DoorsControl.Data.Base64

/-!
# URL-safe base64 without padding

What is left of `base64.urlsafe_b64encode` after `.rstrip("=")`, and what
`android.util.Base64` writes with `URL_SAFE | NO_PADDING | NO_WRAP`.

* `rstrip_urlsafeB64encode` — the two are the same text;
* `base64NoPad_inj` — equally many bytes with one text are the same bytes.
-/

namespace DoorsControl

/-- Three bytes make four digits, one or two at the end make two or three. -/
def base64NoPad (digit : Nat → Char) : Bytes → List Char
  | [] => []
  | [a] =>
      let n := a.toNat * 65536
      [digit (n / 262144), digit (n / 4096 % 64)]
  | [a, b] =>
      let n := a.toNat * 65536 + b.toNat * 256
      [digit (n / 262144), digit (n / 4096 % 64), digit (n / 64 % 64)]
  | a :: b :: c :: rest =>
      let n := a.toNat * 65536 + b.toNat * 256 + c.toNat
      [digit (n / 262144), digit (n / 4096 % 64), digit (n / 64 % 64), digit (n % 64)] ++
        base64NoPad digit rest

/-- `Base64.encodeToString(bytes, URL_SAFE or NO_PADDING or NO_WRAP)` -/
def urlsafeNoPad (bytes : Bytes) : List Char := base64NoPad (base64Digit '-' '_') bytes

-- RFC 4648, section 10
example : urlsafeNoPad (ascii "foob") = "Zm9vYg".toList := by decide

section Strip

variable {α : Type} [DecidableEq α] {c : α} {s : List α}

theorem rstripChar_of_not_mem (absent : c ∉ s) : rstripChar c s = s := by
  unfold rstripChar
  have kept : s.reverse.dropWhile (fun x => decide (x = c)) = s.reverse := by
    cases reversed : s.reverse with
    | nil => rfl
    | cons last rest =>
        rw [List.dropWhile_cons_of_neg]
        rw [decide_eq_true_eq]
        rintro rfl
        exact absent (List.mem_reverse.mp (reversed ▸ List.mem_cons_self))
  rw [kept, List.reverse_reverse]

theorem rstripChar_concat (c : α) (s : List α) : rstripChar c (s ++ [c]) = rstripChar c s := by
  unfold rstripChar
  rw [List.reverse_append, List.reverse_singleton, List.singleton_append,
    List.dropWhile_cons_of_pos (by simp)]

theorem rstripChar_append_replicate (c : α) (s : List α) (count : Nat) :
    rstripChar c (s ++ List.replicate count c) = rstripChar c s := by
  induction count with
  | zero => rw [List.replicate_zero, List.append_nil]
  | succ count ih => rw [List.replicate_succ', ← List.append_assoc, rstripChar_concat, ih]

end Strip

section Encoding

variable {digit : Nat → Char}

/-- The padding is all that is added. -/
theorem base64With_eq (digit : Nat → Char) (bytes : Bytes) :
    ∃ count, base64With digit bytes = base64NoPad digit bytes ++ List.replicate count '=' := by
  induction bytes using base64NoPad.induct with
  | case1 => exact ⟨0, rfl⟩
  | case2 a => exact ⟨2, rfl⟩
  | case3 a b => exact ⟨1, rfl⟩
  | case4 a b c rest ih =>
      obtain ⟨count, same⟩ := ih
      refine ⟨count, ?_⟩
      rw [base64With, base64NoPad, same, List.append_assoc]

theorem mem_base64NoPad {bytes : Bytes} {d : Char} (mem : d ∈ base64NoPad digit bytes) :
    ∃ n, d = digit n := by
  induction bytes using base64NoPad.induct with
  | case1 => cases mem
  | case2 a =>
      simp only [base64NoPad, List.mem_cons, List.not_mem_nil, or_false] at mem
      rcases mem with rfl | rfl <;> exact ⟨_, rfl⟩
  | case3 a b =>
      simp only [base64NoPad, List.mem_cons, List.not_mem_nil, or_false] at mem
      rcases mem with rfl | rfl | rfl <;> exact ⟨_, rfl⟩
  | case4 a b c rest ih =>
      rw [base64NoPad, List.mem_append] at mem
      rcases mem with here | there
      · simp only [List.mem_cons, List.not_mem_nil, or_false] at here
        rcases here with rfl | rfl | rfl | rfl <;> exact ⟨_, rfl⟩
      · exact ih there

/-- Four digits tell 24 bits. -/
theorem eq_of_digits (inj : ∀ m n, m < 64 → n < 64 → digit m = digit n → m = n) {m n : Nat}
    (smallM : m < 16777216) (smallN : n < 16777216)
    (first : digit (m / 262144) = digit (n / 262144))
    (second : digit (m / 4096 % 64) = digit (n / 4096 % 64))
    (third : digit (m / 64 % 64) = digit (n / 64 % 64))
    (fourth : digit (m % 64) = digit (n % 64)) : m = n := by
  have first := inj _ _ (by omega) (by omega) first
  have second := inj _ _ (by omega) (by omega) second
  have third := inj _ _ (by omega) (by omega) third
  have fourth := inj _ _ (by omega) (by omega) fourth
  omega

theorem eq_of_bytes {a b c a' b' c' : UInt8}
    (same : a.toNat * 65536 + b.toNat * 256 + c.toNat =
      a'.toNat * 65536 + b'.toNat * 256 + c'.toNat) : a = a' ∧ b = b' ∧ c = c' := by
  have boundA := a.toNat_lt
  have boundB := b.toNat_lt
  have boundC := c.toNat_lt
  have boundA' := a'.toNat_lt
  have boundB' := b'.toNat_lt
  have boundC' := c'.toNat_lt
  refine ⟨UInt8.toNat_inj.mp ?_, UInt8.toNat_inj.mp ?_, UInt8.toNat_inj.mp ?_⟩ <;> omega

/-- Equally many bytes with one text are the same bytes. -/
theorem base64NoPad_inj (inj : ∀ m n, m < 64 → n < 64 → digit m = digit n → m = n)
    {xs ys : Bytes} (length : xs.length = ys.length)
    (same : base64NoPad digit xs = base64NoPad digit ys) : xs = ys := by
  induction xs using base64NoPad.induct generalizing ys with
  | case1 => exact (List.eq_nil_of_length_eq_zero length.symm).symm
  | case2 a =>
      obtain ⟨a', rfl⟩ := List.length_eq_one_iff.mp length.symm
      simp only [base64NoPad, List.cons.injEq, and_true] at same
      obtain ⟨first, second⟩ := same
      have boundA := a.toNat_lt
      have boundA' := a'.toNat_lt
      have value := eq_of_digits inj (by omega) (by omega) first second
        (congrArg digit (by omega)) (congrArg digit (by omega))
      have bytes : a.toNat * 65536 + (0 : UInt8).toNat * 256 + (0 : UInt8).toNat =
          a'.toNat * 65536 + (0 : UInt8).toNat * 256 + (0 : UInt8).toNat := by
        rw [value]
      rw [(eq_of_bytes bytes).1]
  | case3 a b =>
      obtain ⟨a', b', rfl⟩ := List.length_eq_two.mp length.symm
      simp only [base64NoPad, List.cons.injEq, and_true] at same
      obtain ⟨first, second, third⟩ := same
      have boundA := a.toNat_lt
      have boundA' := a'.toNat_lt
      have boundB := b.toNat_lt
      have boundB' := b'.toNat_lt
      have value := eq_of_digits inj (by omega) (by omega) first second third
        (congrArg digit (by omega))
      have bytes : a.toNat * 65536 + b.toNat * 256 + (0 : UInt8).toNat =
          a'.toNat * 65536 + b'.toNat * 256 + (0 : UInt8).toNat := by
        rw [value]
      obtain ⟨rfl, rfl, -⟩ := eq_of_bytes bytes
      rfl
  | case4 a b c rest ih =>
      rcases ys with _ | ⟨a', _ | ⟨b', _ | ⟨c', rest'⟩⟩⟩
      · cases length
      · cases length
      · cases length
      · simp only [base64NoPad, List.cons_append, List.nil_append, List.cons.injEq] at same
        obtain ⟨first, second, third, fourth, more⟩ := same
        have bounds : ∀ x y z : UInt8, x.toNat * 65536 + y.toNat * 256 + z.toNat < 16777216 := by
          intro x y z
          have boundX := x.toNat_lt
          have boundY := y.toNat_lt
          have boundZ := z.toNat_lt
          omega
        have value := eq_of_digits inj (bounds a b c) (bounds a' b' c') first second third fourth
        obtain ⟨rfl, rfl, rfl⟩ := eq_of_bytes value
        rw [ih (by simpa using length) more]

end Encoding

/-! ## The digits -/

theorem base64Digit_inj_fin : ∀ m n : Fin 64,
    base64Digit '-' '_' m = base64Digit '-' '_' n → m = n := by
  decide +kernel

theorem base64Digit_inj (m n : Nat) (smallM : m < 64) (smallN : n < 64)
    (same : base64Digit '-' '_' m = base64Digit '-' '_' n) : m = n :=
  Fin.val_eq_of_eq (base64Digit_inj_fin ⟨m, smallM⟩ ⟨n, smallN⟩ same)

/-- What is true of 62 digits and of the last two is true of every one. -/
theorem forall_base64Digit {P : Char → Bool} {c62 c63 : Char}
    (low : ∀ n : Fin 62, P (base64Digit c62 c63 n) = true) (at62 : P c62 = true)
    (at63 : P c63 = true) (n : Nat) : P (base64Digit c62 c63 n) = true := by
  by_cases small : n < 62
  · exact low ⟨n, small⟩
  · unfold base64Digit
    rw [if_neg (by omega), if_neg (by omega), if_neg small]
    split_ifs
    · exact at62
    · exact at63

/-- What is true of the 64 digits is true of every character that is written. -/
theorem forall_digit {P : Char → Bool} (low : ∀ n : Fin 62, P (base64Digit '-' '_' n) = true)
    (dash : P '-' = true) (underscore : P '_' = true) {bytes : Bytes} {d : Char}
    (mem : d ∈ urlsafeNoPad bytes) : P d = true := by
  obtain ⟨n, rfl⟩ := mem_base64NoPad mem
  exact forall_base64Digit low dash underscore n

theorem b64Digit_range_low : ∀ n : Fin 62,
    decide (43 ≤ (base64Digit '+' '/' n).toNat ∧ (base64Digit '+' '/' n).toNat ≤ 122) = true := by
  decide +kernel

/-- From `+` to `z`, the padding too. -/
theorem b64encode_range {bytes : Bytes} {d : Char} (mem : d ∈ b64encode bytes) :
    43 ≤ d.toNat ∧ d.toNat ≤ 122 := by
  obtain ⟨count, same⟩ := base64With_eq (base64Digit '+' '/') bytes
  unfold b64encode at mem
  rw [same, List.mem_append] at mem
  rcases mem with digit | pad
  · obtain ⟨n, rfl⟩ := mem_base64NoPad digit
    have range := forall_base64Digit (P := fun d => decide (43 ≤ d.toNat ∧ d.toNat ≤ 122))
      b64Digit_range_low (by decide) (by decide) n
    exact of_decide_eq_true range
  · rw [List.eq_of_mem_replicate pad]
    decide

theorem b64encode_ascii (bytes : Bytes) : AsciiOnly (b64encode bytes) := by
  intro d mem
  have range := b64encode_range mem
  omega

theorem digit_ne_pad_low : ∀ n : Fin 62, base64Digit '-' '_' n ≠ '=' := by
  decide +kernel

theorem pad_not_mem (bytes : Bytes) : '=' ∉ urlsafeNoPad bytes := by
  intro mem
  have other := forall_digit (P := fun d => d ≠ '=')
    (fun n => decide_eq_true (digit_ne_pad_low n)) (by decide) (by decide) mem
  exact of_decide_eq_true other rfl

/-- `.rstrip("=")` takes the padding off. -/
theorem rstrip_urlsafeB64encode (bytes : Bytes) :
    rstripChar '=' (urlsafeB64encode bytes) = urlsafeNoPad bytes := by
  obtain ⟨count, same⟩ := base64With_eq (base64Digit '-' '_') bytes
  unfold urlsafeB64encode
  rw [same, rstripChar_append_replicate]
  exact rstripChar_of_not_mem (pad_not_mem bytes)

theorem urlsafeNoPad_inj {xs ys : Bytes} (length : xs.length = ys.length)
    (same : urlsafeNoPad xs = urlsafeNoPad ys) : xs = ys :=
  base64NoPad_inj base64Digit_inj length same

theorem urlsafeNoPad_ne_nil {bytes : Bytes} (some : bytes ≠ []) : urlsafeNoPad bytes ≠ [] := by
  unfold urlsafeNoPad
  induction bytes using base64NoPad.induct with
  | case1 => exact absurd rfl some
  | case2 a => simp [base64NoPad]
  | case3 a b => simp [base64NoPad]
  | case4 a b c rest ih => simp [base64NoPad]

end DoorsControl
