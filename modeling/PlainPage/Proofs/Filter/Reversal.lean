import Mathlib.Data.List.Forall2
import PlainPage.Plugin.Demonstration

/-!
# Words turned around

The filter that turns words around cuts each line at its spaces and turns every piece around.
A turned piece has no space either, so the pieces are found again in the new line.  Spaces in a
row have empty pieces between them, and stay where they are like all others; a tab is a
character of a word.

Main results:

- Theorem `splitOn_reverseWords` says that the pieces of a turned line are the turned pieces.
- Theorem `reverseWords_reverseWords` says that turning twice gives the line back.
- Theorem `getElem?_reverseWords` says that the spaces stay where they are.
- Theorem `Filter.reverse_reverse` says all this of the lines of a block.
-/

namespace PlainPage

/-- The pieces of a turned line are the turned pieces of the line. -/
theorem splitOn_reverseWords (line : Text) :
    List.splitOn ' ' (reverseWords line) = (line.splitOn ' ').map List.reverse := by
  refine List.splitOn_intercalate ' ' ?_ ?_
  · intro piece hpiece
    rcases List.mem_map.1 hpiece with ⟨word, hword, rfl⟩
    rw [List.mem_reverse]
    exact Text.not_mem_of_mem_splitOn hword
  · rw [ne_eq, List.map_eq_nil_iff]
    exact List.splitOn_ne_nil _ line

/-- Turning words around twice gives the line back. -/
theorem reverseWords_reverseWords (line : Text) : reverseWords (reverseWords line) = line := by
  have hback : (List.splitOn ' ' (reverseWords line)).map List.reverse = line.splitOn ' ' := by
    rw [splitOn_reverseWords, List.map_map]
    simp
  rw [reverseWords, hback, List.intercalate_splitOn]

/-! ## Where the spaces stand -/

/-- Which characters of a text are spaces. -/
def spaceMask (t : Text) : List Bool :=
  t.map (· == ' ')

/-- A mask marks the places of the spaces. -/
theorem getElem?_spaceMask (t : Text) (i : Nat) :
    (spaceMask t)[i]? = some true ↔ t[i]? = some ' ' := by
  simp [spaceMask]

/-- Texts are masked part by part. -/
theorem spaceMask_append (s t : Text) : spaceMask (s ++ t) = spaceMask s ++ spaceMask t :=
  List.map_append

/-- A word without a space is masked by its length alone. -/
theorem spaceMask_of_not_mem {word : Text} (h : ' ' ∉ word) :
    spaceMask word = List.replicate word.length false := by
  rw [spaceMask, List.map_eq_replicate_iff]
  intro c hc
  rw [beq_eq_false_iff_ne]
  rintro rfl
  exact h hc

/-- Without a space in it, a word looks the same when it is turned around. -/
theorem spaceMask_reverse {word : Text} (h : ' ' ∉ word) :
    spaceMask word.reverse = spaceMask word := by
  rw [spaceMask_of_not_mem h, spaceMask_of_not_mem (by rwa [List.mem_reverse]), List.length_reverse]

/-- Turning the words of a line around leaves its spaces in place. -/
theorem spaceMask_intercalate_reverse {words : List Text} (h : ∀ word ∈ words, ' ' ∉ word) :
    spaceMask (List.intercalate [' '] (words.map List.reverse)) =
      spaceMask (List.intercalate [' '] words) := by
  induction words with
  | nil => rfl
  | cons word rest ih =>
    rw [List.forall_mem_cons] at h
    cases rest with
    | nil => simpa using spaceMask_reverse h.1
    | cons next more =>
      rw [List.map_cons] at ih ⊢
      rw [List.map_cons, List.intercalate_cons_cons, List.intercalate_cons_cons]
      simp only [spaceMask_append]
      rw [spaceMask_reverse h.1, ih h.2]

/-- The spaces of a line stay where they are. -/
theorem getElem?_reverseWords (t : Text) (i : Nat) :
    (reverseWords t)[i]? = some ' ' ↔ t[i]? = some ' ' := by
  have hmask : spaceMask (reverseWords t) = spaceMask t := by
    rw [reverseWords, spaceMask_intercalate_reverse fun _ => Text.not_mem_of_mem_splitOn,
      List.intercalate_splitOn]
  rw [← getElem?_spaceMask, hmask, getElem?_spaceMask]

/-! ## The lines of a block -/

/-- What turning the words of a line around gives: a line of the same length, with spaces at
the same places and the words of the other one turned around. -/
structure TurnedAround (given turned : Text) : Prop where
  length : turned.length = given.length
  spaces : ∀ i : Nat, turned[i]? = some ' ' ↔ given[i]? = some ' '
  words : turned.splitOn ' ' = (given.splitOn ' ').map List.reverse

/-- The filter turns every word of a line around and moves no space. -/
theorem turnedAround_reverseWords (line : Text) : TurnedAround line (reverseWords line) where
  length := length_reverseWords line
  spaces := getElem?_reverseWords line
  words := splitOn_reverseWords line

/-- The block of the filter that turns words around closes with as many lines as it has, each
of them with its words turned around and its spaces in place.  A second block of these lines
gives the first lines back. -/
theorem Filter.reverse_reverse (lines args again : List Text) (s t : Settings) :
    ∃ turned, Filter.reverse.close lines args s = .ok turned ∧ turned.length = lines.length ∧
      List.Forall₂ TurnedAround lines turned ∧ Filter.reverse.close turned again t = .ok lines := by
  refine ⟨lines.map reverseWords, rfl, List.length_map _, ?_, ?_⟩
  · rw [List.forall₂_map_right_iff, List.forall₂_same]
    exact fun line _ => turnedAround_reverseWords line
  · have hback : (lines.map reverseWords).map reverseWords = lines := by
      rw [List.map_map]
      exact List.map_id'' reverseWords_reverseWords lines
    exact congrArg Except.ok hback

/-- Spaces in a row and a tab within a word. -/
example : reverseWords "  ab c\td ".toList = "  ba d\tc ".toList := by decide

end PlainPage
