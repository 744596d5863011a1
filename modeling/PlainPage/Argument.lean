import PlainPage.Settings.Basic

/-!
# Counts among the words of a directive

Filters and commands take column counts, line counts and paddings.  All are read
the same way and share one upper bound.

Main results:

- Theorem `readCount_eq_ok_iff` says which words are counts.
-/

namespace PlainPage

/-- Read a word as a count of at most `maxWidth`, on behalf of the filter or command
`owner`, which expects what `expected` says. -/
def readCount (owner : Text) (raw : Text) (expected : String) : Except DocumentError Nat :=
  match count? raw with
  | none => .error (.unusableWord owner raw expected.toList)
  | some n =>
    if n ≤ maxWidth then .ok n
    else .error (.unusableWord owner raw ("must be at most ".toList ++ decimal maxWidth))

/-- The words that are counts, and their values. -/
theorem readCount_eq_ok_iff {owner raw : Text} {expected : String} {n : Nat} :
    readCount owner raw expected = .ok n ↔ count? raw = some n ∧ n ≤ maxWidth := by
  unfold readCount
  cases h : count? raw with
  | none => simp
  | some m =>
    by_cases hm : m ≤ maxWidth
    · simp only [hm, if_true, Except.ok.injEq, Option.some.injEq]
      exact ⟨fun heq => ⟨heq, heq ▸ hm⟩, And.left⟩
    · simp only [hm, if_false, reduceCtorEq, Option.some.injEq, false_iff, not_and]
      rintro rfl
      exact hm

end PlainPage
