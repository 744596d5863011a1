import PlainPage.Layout.Alignment
import PlainPage.Proofs.Layout.Wrapping

/-!
# Words of wrapped lines

Wrapping and padding put nothing but spaces between words.  So the words of the wrapped lines
are the words that were wrapped, in order, whatever the width, the gap and the alignment are.

Main results:

- Theorem `Text.words_append_of_white` says that a text has the words on both sides of a
  white character.
- Theorem `words_wrap` says that wrapping keeps the words.
- Theorem `Alignment.words_pad` says that padding keeps the words.
- Theorem `emphasize_of_not_isInfix` says that without a pair of stars nothing is raised.
-/

namespace PlainPage

/-! ## Words and spaces -/

namespace Text

/-- A text has the words on both sides of a white character. -/
theorem words_append_of_white (t : Text) {c : Char} (rest : Text) (hc : isWhite c = true) :
    words (t ++ c :: rest) = words t ++ words rest := by
  rw [words, List.splitOnP_append_cons t rest hc, List.filter_append]
  rfl

theorem isWhite_space : isWhite ' ' = true := by
  decide

/-- Spaces in front of a text hold no words. -/
theorem words_spaces_append (n : Nat) (t : Text) : words (spaces n ++ t) = words t := by
  induction n with
  | zero => rfl
  | succ n ih =>
    rw [spaces, List.replicate_succ, List.cons_append, words_cons_of_white isWhite_space]
    exact ih

theorem words_spaces (n : Nat) : words (spaces n) = [] := by
  have hspaces := words_spaces_append n []
  rw [List.append_nil] at hspaces
  exact hspaces

theorem words_append_spaces (t : Text) (n : Nat) : words (t ++ spaces n) = words t := by
  cases n with
  | zero => rw [spaces, List.replicate_zero, List.append_nil]
  | succ n =>
    rw [spaces, List.replicate_succ, words_append_of_white _ _ isWhite_space]
    change _ ++ words (spaces n) = _
    rw [words_spaces]
    exact List.append_nil _

/-- A word is its only word. -/
theorem IsWord.words_eq {word : Text} (h : IsWord word) : words word = [word] := by
  have hsingle : ∀ other ∈ [word], IsWord other := by simpa using h
  rw [← words_intercalate hsingle, List.intercalate_singleton]

/-- Whether all white characters of a text are spaces. -/
def Spaced (t : Text) : Prop :=
  ∀ c ∈ t, isWhite c = true → c = ' '

theorem IsWord.spaced {word : Text} (h : IsWord word) : word.Spaced := by
  intro c hc hwhite
  rw [h.2 c hc] at hwhite
  cases hwhite

theorem spaced_spaces (n : Nat) : (spaces n).Spaced :=
  fun _ hc _ => List.eq_of_mem_replicate hc

/-- White space in both parts is made of spaces exactly when it is in the whole. -/
theorem spaced_append {s t : Text} : (s ++ t : Text).Spaced ↔ s.Spaced ∧ t.Spaced :=
  List.forall_mem_append

theorem Spaced.append {s t : Text} (hs : s.Spaced) (ht : t.Spaced) : (s ++ t : Text).Spaced :=
  spaced_append.2 ⟨hs, ht⟩

/-- A spaced text holds no white space but spaces. -/
theorem Spaced.not_mem {t : Text} (h : t.Spaced) {c : Char} (hwhite : isWhite c = true)
    (hne : c ≠ ' ') : c ∉ t :=
  fun hc => hne (h c hc hwhite)

end Text

/-! ## Wrapped lines -/

section Wrap

variable {width gap : Nat} {line : Text} {words : List Text}
  (hwords : ∀ word ∈ words, Text.IsWord word)
include hwords

/-- The words that a line is filled with come out behind its own. -/
theorem words_wrapFrom :
    (wrapFrom width line words).flatMap Text.words = Text.words line ++ words := by
  induction words generalizing line with
  | nil => simp [wrapFrom]
  | cons word rest ih =>
    rw [List.forall_mem_cons] at hwords
    have hword := hwords.1.words_eq
    rw [wrapFrom]
    split
    · rw [ih hwords.2, Text.words_append_of_white _ _ Text.isWhite_space, hword, List.append_assoc]
      rfl
    · rw [List.flatMap_cons, ih hwords.2, hword]
      rfl

/-- Wrapping keeps the words. -/
theorem words_wrap : (wrap width gap words).flatMap Text.words = words := by
  cases words with
  | nil => rfl
  | cons word rest =>
    rw [List.forall_mem_cons] at hwords
    rw [wrap, words_wrapFrom hwords.2, Text.words_spaces_append, hwords.1.words_eq]
    rfl

/-- Every wrapped line has words, and no white space but spaces. -/
theorem forall_mem_wrapFrom (hline : Text.words line ≠ [] ∧ line.Spaced) :
    ∀ other ∈ wrapFrom width line words, Text.words other ≠ [] ∧ other.Spaced := by
  induction words generalizing line with
  | nil => simpa [wrapFrom] using hline
  | cons word rest ih =>
    rw [List.forall_mem_cons] at hwords
    have hword := hwords.1.words_eq
    rw [wrapFrom]
    split
    · refine ih hwords.2 ⟨?_, hline.2.append ((Text.spaced_spaces 1).append hwords.1.spaced)⟩
      rw [Text.words_append_of_white _ _ Text.isWhite_space]
      simp [hword]
    · refine List.forall_mem_cons.2 ⟨hline, ih hwords.2 ⟨?_, hwords.1.spaced⟩⟩
      simp [hword]

/-- The lines of a wrap have words, and only spaces between them. -/
theorem forall_mem_wrap :
    ∀ other ∈ wrap width gap words, Text.words other ≠ [] ∧ other.Spaced := by
  cases words with
  | nil => simp [wrap]
  | cons word rest =>
    rw [List.forall_mem_cons] at hwords
    refine forall_mem_wrapFrom hwords.2 ⟨?_, (Text.spaced_spaces gap).append hwords.1.spaced⟩
    simp [Text.words_spaces_append, hwords.1.words_eq]

end Wrap

/-! ## Padded lines -/

namespace Alignment

/-- Padding keeps the words. -/
theorem words_pad (a : Alignment) (width : Nat) (line : Text) :
    Text.words (a.pad width line) = Text.words line := by
  cases a <;> simp [pad, Text.words_spaces_append, Text.words_append_spaces]

/-- Alignment adds only spaces. -/
theorem spaced_pad (a : Alignment) (width : Nat) {line : Text} (h : line.Spaced) :
    (a.pad width line).Spaced := by
  cases a with
  | left => exact h.append (Text.spaced_spaces _)
  | right => exact (Text.spaced_spaces _).append h
  | center => exact ((Text.spaced_spaces _).append h).append (Text.spaced_spaces _)

end Alignment

/-! ## Emphasis -/

/-- Without a pair of stars nothing is raised. -/
theorem emphasize_of_not_isInfix {t : Text} (h : ¬ ['*', '*'] <:+: t) : emphasize t = t := by
  induction t with
  | nil => simp [emphasize]
  | cons c rest ih =>
    have hrest : ¬ ['*', '*'] <:+: rest := fun hmem => h (List.infix_cons hmem)
    rw [emphasize, ih hrest]
    rintro tail rfl rfl
    exact h ⟨[], tail, rfl⟩

end PlainPage
