import PlainPage.Text.Basic

/-!
# Decimal numbers

Counts and integers in decimal notation.  A count fits 64 bits and may carry a
plus; an integer fits 64 bits with its sign and may carry a plus or a minus.

Main results:

- Theorem `digitsValue_decimal` says that reading the digits of a number gives the
  number back.
- Theorems `count?_decimal` and `integer?_integerText` say that numbers within the
  bounds are read back from their text.
- Theorem `bounds_of_integer?` says that no other integer is read.
-/

namespace PlainPage

/-- The largest count that is accepted anywhere: 64 bits. -/
def maxCount : Nat := 18446744073709551615

/-- The largest integer a setting can hold: 63 bits and a sign. -/
def maxInteger : Nat := 9223372036854775807

/-- The decimal digits of a number. -/
def decimal (n : Nat) : Text :=
  Nat.toDigits 10 n

/-- The decimal text of an integer: a minus in front of a negative one. -/
def integerText : Int → Text
  | .ofNat n => decimal n
  | .negSucc n => '-' :: decimal (n + 1)

/-- The value of a row of digits. -/
def digitsValue (t : Text) : Nat :=
  t.foldl (fun value c => 10 * value + (c.toNat - 48)) 0

/-- The number a text of decimal digits stands for. -/
def digits? (t : Text) : Option Nat :=
  if t ≠ [] ∧ t.all Char.isDigit = true then some (digitsValue t) else none

/-- The text without one leading plus. -/
def dropPlus : Text → Text
  | '+' :: rest => rest
  | t => t

/-- Read a count: digits, with an optional plus, within 64 bits. -/
def count? (t : Text) : Option Nat :=
  (digits? (dropPlus t)).filter (· ≤ maxCount)

/-- Read an integer: digits, with an optional sign, within 64 bits. -/
def integer? (t : Text) : Option Int :=
  match t with
  | '-' :: rest => ((digits? rest).filter (· ≤ maxInteger + 1)).map fun (n : Nat) => -(n : Int)
  | t => ((digits? (dropPlus t)).filter (· ≤ maxInteger)).map fun (n : Nat) => (n : Int)

/-! ## Numbers are read back from their text -/

theorem digitsValue_append_singleton (t : Text) (c : Char) :
    digitsValue (t ++ [c]) = 10 * digitsValue t + (c.toNat - 48) := by
  simp [digitsValue]

theorem digit_isDigit {n : Nat} (h : n < 10) :
    (Nat.digitChar n).isDigit = true ∧ (Nat.digitChar n).toNat - 48 = n := by
  have : n = 0 ∨ n = 1 ∨ n = 2 ∨ n = 3 ∨ n = 4 ∨ n = 5 ∨ n = 6 ∨ n = 7 ∨ n = 8 ∨ n = 9 := by omega
  rcases this with rfl | rfl | rfl | rfl | rfl | rfl | rfl | rfl | rfl | rfl <;> decide

/-- The digits of a number are its leading digits and its last one. -/
theorem decimal_eq (n : Nat) :
    decimal n =
      if n < 10 then [Nat.digitChar n] else decimal (n / 10) ++ [Nat.digitChar (n % 10)] := by
  unfold decimal
  split
  · exact Nat.toDigits_of_lt_base ‹_›
  · exact Nat.toDigits_of_base_le (by decide) (by omega)

/-- Reading the digits of a number gives the number back. -/
theorem digitsValue_decimal (n : Nat) : digitsValue (decimal n) = n := by
  induction n using Nat.strongRecOn with
  | ind n ih =>
    rw [decimal_eq]
    split
    · rename_i h
      simp [digitsValue, (digit_isDigit h).2]
    · rename_i h
      rw [digitsValue_append_singleton, ih (n / 10) (by omega),
        (digit_isDigit (n := n % 10) (by omega)).2]
      omega

theorem decimal_ne_nil (n : Nat) : decimal n ≠ [] := by
  rw [decimal_eq]
  split <;> simp

/-- The text of a number holds digits only. -/
theorem isDigit_of_mem_decimal {n : Nat} {c : Char} (h : c ∈ decimal n) : c.isDigit = true := by
  induction n using Nat.strongRecOn with
  | ind n ih =>
    rw [decimal_eq] at h
    split at h
    · rename_i hn
      rw [List.mem_singleton] at h
      exact h ▸ (digit_isDigit hn).1
    · rename_i hn
      rcases List.mem_append.1 h with h | h
      · exact ih (n / 10) (by omega) h
      · rw [List.mem_singleton] at h
        exact h ▸ (digit_isDigit (by omega)).1

theorem digits?_decimal (n : Nat) : digits? (decimal n) = some n := by
  have hall : (decimal n).all Char.isDigit = true :=
    List.all_eq_true.2 fun c hc => isDigit_of_mem_decimal hc
  simp [digits?, decimal_ne_nil, hall, digitsValue_decimal]

theorem dropPlus_of_digits {t : Text} (h : ∀ c ∈ t, c.isDigit = true) : dropPlus t = t := by
  unfold dropPlus
  split
  · exact absurd (h '+' (by simp)) (by decide)
  · rfl

/-- A count within 64 bits is read back from its text. -/
theorem count?_decimal {n : Nat} (h : n ≤ maxCount) : count? (decimal n) = some n := by
  rw [count?, dropPlus_of_digits fun c hc => isDigit_of_mem_decimal hc, digits?_decimal]
  simp [h]

/-- The digits of a number are read as an integer when the number is within 63 bits. -/
theorem integer?_decimal (n : Nat) :
    integer? (decimal n) = if n ≤ maxInteger then some (n : Int) else none := by
  have hplus := dropPlus_of_digits fun c (hc : c ∈ decimal n) => isDigit_of_mem_decimal hc
  unfold integer?
  split
  · rename_i rest heq
    have : '-'.isDigit = true := isDigit_of_mem_decimal (n := n) (by rw [heq]; simp)
    exact absurd this (by decide)
  · rw [hplus, digits?_decimal]
    by_cases hn : n ≤ maxInteger <;> simp [Option.filter, hn]

/-- An integer within 64 bits is read back from its text. -/
theorem integer?_integerText {i : Int} (h₁ : -(maxInteger + 1 : Int) ≤ i) (h₂ : i ≤ maxInteger) :
    integer? (integerText i) = some i := by
  cases i with
  | ofNat n =>
    have hn : n ≤ maxInteger := by simpa using h₂
    rw [integerText, integer?_decimal, if_pos hn]
    rfl
  | negSucc n =>
    have hn : n + 1 ≤ maxInteger + 1 := by omega
    have hneg : -((n + 1 : Nat) : Int) = Int.negSucc n := by omega
    simp only [integerText, integer?, digits?_decimal]
    simp only [Option.filter_some, hn, decide_true, if_true, Option.map_some, hneg]

/-- An integer that is read is within 64 bits. -/
theorem bounds_of_integer? {t : Text} {i : Int} (h : integer? t = some i) :
    -(maxInteger + 1 : Int) ≤ i ∧ i ≤ maxInteger := by
  unfold integer? at h
  split at h
  · rcases Option.map_eq_some_iff.1 h with ⟨n, hn, rfl⟩
    have hle : n ≤ maxInteger + 1 := by simpa using (Option.filter_eq_some_iff.1 hn).2
    omega
  · rcases Option.map_eq_some_iff.1 h with ⟨n, hn, rfl⟩
    have hle : n ≤ maxInteger := by simpa using (Option.filter_eq_some_iff.1 hn).2
    omega

/-- An integer that is read from any text is read again from its own. -/
theorem integer?_integerText_of_integer? {t : Text} {i : Int} (h : integer? t = some i) :
    integer? (integerText i) = some i :=
  integer?_integerText (bounds_of_integer? h).1 (bounds_of_integer? h).2

end PlainPage
