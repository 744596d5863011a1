import PlainPage.Text.Case

/-!
# Emphasis

A stretch of text between two pairs of stars on one line is raised, and the stars
go.  Pairs are matched from the left, each with the next pair to its right; a pair
without a partner on its line stays as it is.

Main results:

- Theorem `length_closing_lt` says that the text after a closing pair is shorter, on
  which the scan ends.
- Theorem `emphasize_of_not_mem` says that a text without stars stays as it is.
-/

namespace PlainPage

/-- The text up to the next pair of stars on the same line, and the text after it. -/
def closingStars : Text → Option (Text × Text)
  | [] => none
  | '*' :: '*' :: rest => some ([], rest)
  | c :: rest =>
    if c = '\n' then none
    else (closingStars rest).map fun (body, after) => (c :: body, after)

/-- The text after a closing pair is shorter. -/
theorem length_closing_lt {t body after : Text} (h : closingStars t = some (body, after)) :
    after.length < t.length := by
  fun_induction closingStars t generalizing body with
  | case1 => simp at h
  | case2 rest =>
    cases h
    simp only [List.length_cons]
    omega
  | case3 => simp at h
  | case4 c rest _ _ ih =>
    obtain ⟨⟨body', after'⟩, hrest, heq⟩ := Option.map_eq_some_iff.1 h
    cases heq
    exact Nat.lt_succ_of_lt (ih hrest)

/-- Raise what stands between pairs of stars, and drop those pairs. -/
def emphasize : Text → Text
  | [] => []
  | '*' :: '*' :: rest =>
    match _h : closingStars rest with
    | some (body, after) => Text.upper body ++ emphasize after
    | none => '*' :: emphasize ('*' :: rest)
  | c :: rest => c :: emphasize rest
termination_by t => t.length
decreasing_by
  · have := length_closing_lt _h
    simp
    omega
  · simp
  · simp

/-- A text without stars stays as it is. -/
theorem emphasize_of_not_mem {t : Text} (h : '*' ∉ t) : emphasize t = t := by
  induction t with
  | nil => simp [emphasize]
  | cons c rest ih =>
    simp only [List.mem_cons, not_or] at h
    rw [emphasize, ih h.2]
    rintro tail rfl
    exact absurd rfl h.1

end PlainPage
