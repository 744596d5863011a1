import PlainPage.Settings.Kind

/-!
# Padding lines

A finished line is padded with spaces to the page width, on the side that the
alignment leaves free.  A line that is already as wide stays as it is.

Main results:

- Theorem `Alignment.length_pad` gives the width of a padded line.
- Theorem `Alignment.pad_of_le` says that a wide line stays as it is.
-/

namespace PlainPage

namespace Alignment

/-- Pad a line with spaces to at least `width` characters.  In the middle, the odd
space goes to the right. -/
def pad (a : Alignment) (width : Nat) (line : Text) : Text :=
  let free := width - line.length
  match a with
  | left => line ++ Text.spaces free
  | right => Text.spaces free ++ line
  | center => Text.spaces (free / 2) ++ line ++ Text.spaces (free - free / 2)

/-- A padded line is as wide as the page, or as itself if that is wider. -/
@[simp] theorem length_pad (a : Alignment) (width : Nat) (line : Text) :
    (a.pad width line).length = max width line.length := by
  cases a <;> simp [pad] <;> omega

/-- A line at or past the width stays as it is. -/
theorem pad_of_le {a : Alignment} {width : Nat} {line : Text} (h : width ≤ line.length) :
    a.pad width line = line := by
  cases a <;> simp [pad, Text.spaces, Nat.sub_eq_zero_of_le h]

end Alignment

end PlainPage
