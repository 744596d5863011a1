import Mathlib.Data.List.Induction
import PlainPage.Text.Decimal

/-!
# How counts are written

A count is a row of decimal digits, and may have one plus in front of it.  Zeros in front
change nothing, so most counts can be written in more than one way; each row of digits stands
for one number.

Main results:

- Definitions `DigitRow` and `CountText` list the ways to write a number and a count.
- Theorem `digits?_eq_some_iff` says which texts are rows of digits, and for which numbers.
- Theorem `count?_eq_some_iff` says which texts are counts, and which counts they are.
-/

namespace PlainPage

/-- A row of decimal digits, and the number that it stands for. -/
inductive DigitRow : Text → Nat → Prop where
  | digit {d : Nat} (h : d < 10) : DigitRow [Nat.digitChar d] d
  | next {row : Text} {n d : Nat} (hrow : DigitRow row n) (h : d < 10) :
      DigitRow (row ++ [Nat.digitChar d]) (10 * n + d)

/-- The ways to write a count: a number within 64 bits, with at most one plus in front. -/
inductive CountText : Text → Nat → Prop where
  | plain {row : Text} {n : Nat} (hrow : DigitRow row n) (hle : n ≤ maxCount) : CountText row n
  | plus {row : Text} {n : Nat} (hrow : DigitRow row n) (hle : n ≤ maxCount) :
      CountText ('+' :: row) n

variable {t : Text} {n : Nat}

/-- The digits are the characters of the numbers below ten. -/
theorem exists_digitChar {c : Char} (h : c.isDigit = true) : ∃ d < 10, c = Nat.digitChar d := by
  have hrange : 48 ≤ c.toNat ∧ c.toNat ≤ 57 := Char.isDigit_iff_toNat.1 h
  have hd : c.toNat - 48 < 10 := by omega
  refine ⟨c.toNat - 48, hd, Char.toNat_inj.1 ?_⟩
  rw [Nat.toNat_digitChar_of_lt_ten hd]
  omega

namespace DigitRow

theorem ne_nil (h : DigitRow t n) : t ≠ [] := by
  cases h <;> simp

/-- A row of digits has nothing but digits. -/
theorem isDigit (h : DigitRow t n) : ∀ c ∈ t, c.isDigit = true := by
  induction h with
  | digit hd => simpa using (digit_isDigit hd).1
  | next _ hd ih =>
    intro c hc
    rcases List.mem_append.1 hc with hc | hc
    · exact ih c hc
    · rw [List.mem_singleton.1 hc]
      exact (digit_isDigit hd).1

/-- Its value is what the reader makes of it. -/
theorem digitsValue_eq (h : DigitRow t n) : digitsValue t = n := by
  induction h with
  | digit hd => simp [digitsValue, (digit_isDigit hd).2]
  | next _ hd ih => rw [digitsValue_append_singleton, ih, (digit_isDigit hd).2]

end DigitRow

/-- Digits make a row, which stands for their value. -/
theorem digitRow_digitsValue (hne : t ≠ []) (h : ∀ c ∈ t, c.isDigit = true) :
    DigitRow t (digitsValue t) := by
  induction t using List.reverseRecOn with
  | nil => exact absurd rfl hne
  | append_singleton row c ih =>
    obtain ⟨d, hd, rfl⟩ := exists_digitChar (h c (by simp))
    rw [digitsValue_append_singleton, (digit_isDigit hd).2]
    cases row with
    | nil => simpa [digitsValue] using DigitRow.digit hd
    | cons first rest => exact .next (ih (by simp) fun e he => h e (List.mem_append_left _ he)) hd

/-- The texts that are rows of digits, and their numbers. -/
theorem digits?_eq_some_iff : digits? t = some n ↔ DigitRow t n := by
  rw [digits?, Option.ite_none_right_eq_some, List.all_eq_true, Option.some.injEq]
  constructor
  · rintro ⟨⟨hne, hall⟩, rfl⟩
    exact digitRow_digitsValue hne hall
  · intro h
    exact ⟨⟨h.ne_nil, h.isDigit⟩, h.digitsValue_eq⟩

/-- The texts that are counts, and their values. -/
theorem count?_eq_some_iff : count? t = some n ↔ CountText t n := by
  rw [count?, Option.filter_eq_some_iff, digits?_eq_some_iff, decide_eq_true_eq]
  constructor
  · rintro ⟨hrow, hle⟩
    unfold dropPlus at hrow
    split at hrow
    · exact .plus hrow hle
    · exact .plain hrow hle
  · rintro (⟨hrow, hle⟩ | ⟨hrow, hle⟩)
    · rw [dropPlus_of_digits hrow.isDigit]
      exact ⟨hrow, hle⟩
    · exact ⟨hrow, hle⟩

namespace CountText

/-- A count is made of digits, with a plus in front of them at most. -/
theorem isDigit_or_eq_plus (h : CountText t n) : ∀ c ∈ t, c.isDigit = true ∨ c = '+' := by
  cases h with
  | plain hrow _ => exact fun c hc => .inl (hrow.isDigit c hc)
  | plus hrow _ =>
    intro c hc
    rcases List.mem_cons.1 hc with rfl | hc
    · exact .inr rfl
    · exact .inl (hrow.isDigit c hc)

theorem ne_nil (h : CountText t n) : t ≠ [] := by
  cases h with
  | plain hrow _ => exact hrow.ne_nil
  | plus _ _ => simp

end CountText

end PlainPage
