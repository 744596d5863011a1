import PlainPage.Text.Basic
import PlainPage.Text.CaseTable

/-!
# Raising and lowering texts

Full case mapping: a character may become several, and a capital sigma that ends
a word becomes a final sigma when it is lowered.

Main results:

- Definitions `Text.upper` and `Text.lower` raise and lower a whole text.
- Theorem `Text.upper_append` says that raising works character by character.
- Theorem `Text.lower_of_plain` says that lowering leaves alone a text in which no
  character has a lower case form of its own.
-/

namespace PlainPage

/-- The one or several characters that `c` becomes under an expansion list and a
list of shifts; the expansions are looked up first. -/
def changeCase (expansions : List (Nat × List Nat)) (shifts : List Shift) (c : Char) : Text :=
  match expansions.lookup c.toNat with
  | some codes => codes.map Char.ofNat
  | none => [(shifts.findSome? (·.send? c)).getD c]

/-- The upper case form of a character. -/
def upperChar (c : Char) : Text :=
  changeCase CaseTable.upperExpansions CaseTable.upperShifts c

/-- The lower case form of a character that stands alone. -/
def lowerChar (c : Char) : Text :=
  changeCase CaseTable.lowerExpansions CaseTable.lowerShifts c

/-- Whether a character is an upper case letter. -/
def isUppercase (c : Char) : Bool :=
  CaseTable.uppercase.has c

/-- A character becomes at least one character. -/
theorem changeCase_of_none {expansions : List (Nat × List Nat)} {shifts : List Shift} {c : Char}
    (h₁ : expansions.lookup c.toNat = none) (h₂ : shifts.findSome? (·.send? c) = none) :
    changeCase expansions shifts c = [c] := by
  simp [changeCase, h₁, h₂]

namespace Text

/-- Raise every character of a text. -/
def upper (t : Text) : Text :=
  t.flatMap upperChar

/-- Whether the first character that case does not ignore carries case. -/
def meetsCased (t : Text) : Bool :=
  match t.dropWhile CaseTable.caseIgnorable.has with
  | [] => false
  | c :: _ => CaseTable.cased.has c

/-- The lower case form of a capital sigma between `before` (read backwards) and
`after`: the final form at the end of a word, the common form elsewhere. -/
def lowerSigma (before after : Text) : Char :=
  if meetsCased before && !meetsCased after then 'ς' else 'σ'

/-- Lower a text that follows `before` (read backwards). -/
def lowerAfter (before : Text) : Text → Text
  | [] => []
  | c :: rest =>
    (if c = 'Σ' then [lowerSigma before rest] else lowerChar c) ++ lowerAfter (c :: before) rest

/-- Lower every character of a text. -/
def lower (t : Text) : Text :=
  lowerAfter [] t

@[simp] theorem upper_nil : upper [] = [] := rfl

/-- Raising works character by character. -/
@[simp] theorem upper_append (s t : Text) : upper (s ++ t) = upper s ++ upper t := by
  simp [upper]

@[simp] theorem upper_cons (c : Char) (t : Text) : upper (c :: t) = upperChar c ++ upper t := by
  simp [upper]

theorem lowerAfter_of_plain {t : Text} (before : Text)
    (h : ∀ c ∈ t, c ≠ 'Σ' ∧ lowerChar c = [c]) : lowerAfter before t = t := by
  induction t generalizing before with
  | nil => rfl
  | cons c rest ih =>
    obtain ⟨hsigma, hc⟩ := h c (by simp)
    simp [lowerAfter, hsigma, hc, ih (c :: before) fun d hd => h d (by simp [hd])]

/-- Lowering leaves alone a text in which no character has a lower case form of
its own. -/
theorem lower_of_plain {t : Text} (h : ∀ c ∈ t, c ≠ 'Σ' ∧ lowerChar c = [c]) : lower t = t :=
  lowerAfter_of_plain [] h

end Text

end PlainPage
