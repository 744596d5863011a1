import PlainPage.Text.CharClass

/-!
# Texts, pieces and words

A text is a list of characters, so its length is its width in columns.  This
module cuts texts into words, beside what it needs to know about the pieces of a text.

Main results:

- Theorem `Text.mem_of_mem_splitOnP` says what the pieces of a text hold, and theorem
  `Text.mem_intercalate` where the characters of glued pieces come from.
- Theorems `Text.isWord_of_mem_words` and `Text.words_intercalate` say that the words
  of a text hold no white space and that words glued with spaces are found again.
- Theorem `Text.isBlank_iff_words_eq_nil` says that a text is blank when it has no
  words.
-/

namespace PlainPage

/-- A run of characters: a name, a word, a line or a whole document. -/
abbrev Text := List Char

/-- The white space of the Unicode standard. -/
def CharClass.white : CharClass :=
  [⟨0x9, 0xD, 1⟩, ⟨0x20, 0x20, 1⟩, ⟨0x85, 0x85, 1⟩, ⟨0xA0, 0xA0, 1⟩, ⟨0x1680, 0x1680, 1⟩,
   ⟨0x2000, 0x200A, 1⟩, ⟨0x2028, 0x2029, 1⟩, ⟨0x202F, 0x202F, 1⟩, ⟨0x205F, 0x205F, 1⟩,
   ⟨0x3000, 0x3000, 1⟩]

/-- Whether a character is white space. -/
def isWhite (c : Char) : Bool :=
  CharClass.white.has c

namespace Text

/-! ## Padding -/

/-- A run of `n` spaces. -/
def spaces (n : Nat) : Text :=
  List.replicate n ' '

@[simp] theorem length_spaces (n : Nat) : (spaces n).length = n := by
  simp [spaces]

/-! ## Pieces

Texts are cut by `List.splitOnP` and `List.splitOn`, and glued by `List.intercalate`. -/

/-- The first piece of the rest of a text goes on with the character before it. -/
theorem mem_modifyHead_cons {c : Char} {pieces : List Text} {piece : Text}
    (h : piece ∈ pieces.modifyHead (List.cons c)) :
    piece ∈ pieces ∨ ∃ first ∈ pieces, piece = c :: first := by
  cases pieces with
  | nil => cases h
  | cons first rest =>
    rcases List.mem_cons.1 h with rfl | h
    · exact .inr ⟨first, List.mem_cons_self, rfl⟩
    · exact .inl (List.mem_cons_of_mem _ h)

/-- A piece holds characters of the text, and none at which the text was cut. -/
theorem mem_of_mem_splitOnP {p : Char → Bool} {t piece : Text} {c : Char}
    (hpiece : piece ∈ t.splitOnP p) (hc : c ∈ piece) : c ∈ t ∧ p c = false := by
  induction t generalizing piece with
  | nil =>
    rw [List.splitOnP_nil, List.mem_singleton] at hpiece
    simp [hpiece] at hc
  | cons d rest ih =>
    rw [List.splitOnP_cons_eq_if_modifyHead] at hpiece
    split at hpiece
    · rcases List.mem_cons.1 hpiece with rfl | h
      · cases hc
      · exact (ih h hc).imp_left (List.mem_cons_of_mem d)
    · rename_i hd
      rcases mem_modifyHead_cons hpiece with h | ⟨first, h, rfl⟩
      · exact (ih h hc).imp_left (List.mem_cons_of_mem d)
      · rcases List.mem_cons.1 hc with rfl | hc
        · exact ⟨List.mem_cons_self, by simpa using hd⟩
        · exact (ih h hc).imp_left (List.mem_cons_of_mem d)

theorem not_mem_of_mem_splitOn {separator : Char} {t piece : Text}
    (h : piece ∈ t.splitOn separator) : separator ∉ piece := by
  intro hmem
  have hfree := (mem_of_mem_splitOnP h hmem).2
  simp at hfree

/-- A character of a glued text comes from the separator or from a piece. -/
theorem mem_intercalate {separator : Text} {pieces : List Text} {c : Char}
    (h : c ∈ separator.intercalate pieces) : c ∈ separator ∨ ∃ piece ∈ pieces, c ∈ piece := by
  induction pieces with
  | nil => cases h
  | cons piece rest ih =>
    cases rest with
    | nil =>
      rw [List.intercalate_singleton] at h
      exact .inr ⟨piece, List.mem_cons_self, h⟩
    | cons next more =>
      rw [List.intercalate_cons_cons, List.append_assoc, List.mem_append, List.mem_append] at h
      rcases h with hpiece | hseparator | hrest
      · exact .inr ⟨piece, List.mem_cons_self, hpiece⟩
      · exact .inl hseparator
      · rcases ih hrest with hseparator | ⟨other, hother, hc⟩
        · exact .inl hseparator
        · exact .inr ⟨other, List.mem_cons_of_mem _ hother, hc⟩

/-- A character in front of the first piece stands in front of the glued text. -/
theorem intercalate_modifyHead_cons (separator : Text) (c : Char) {pieces : List Text}
    (h : pieces ≠ []) : separator.intercalate (pieces.modifyHead (List.cons c)) =
      c :: separator.intercalate pieces := by
  cases pieces with
  | nil => exact absurd rfl h
  | cons first rest => exact List.intercalate_cons_cons_left

/-- More pieces only lengthen a glued text. -/
theorem intercalate_isPrefix (separator : Text) (pieces more : List Text) :
    separator.intercalate pieces <+: separator.intercalate (pieces ++ more) := by
  induction pieces with
  | nil => exact List.nil_prefix
  | cons piece rest ih =>
    cases rest with
    | nil =>
      cases more with
      | nil => exact List.prefix_rfl
      | cons next more =>
        rw [List.singleton_append, List.intercalate_singleton, List.intercalate_cons_cons,
          List.append_assoc]
        exact List.prefix_append _ _
    | cons next rest =>
      rw [List.cons_append, List.cons_append, List.intercalate_cons_cons,
        List.intercalate_cons_cons, List.prefix_append_right_inj]
      exact ih

/-! ## Words -/

/-- Whether a text is a word: not empty and free of white space. -/
def IsWord (t : Text) : Prop :=
  t ≠ [] ∧ ∀ c ∈ t, isWhite c = false

/-- The words of a text: its longest runs free of white space. -/
def words (t : Text) : List Text :=
  (t.splitOnP isWhite).filter (!·.isEmpty)

/-- Whether a text holds nothing but white space. -/
def isBlank (t : Text) : Bool :=
  t.all isWhite

/-- A text without the white space at its two ends. -/
def trim (t : Text) : Text :=
  ((t.dropWhile isWhite).reverse.dropWhile isWhite).reverse

/-- The words of a text are words. -/
theorem isWord_of_mem_words {t word : Text} (h : word ∈ words t) : IsWord word := by
  obtain ⟨hmem, hne⟩ := List.mem_filter.1 h
  exact ⟨by simpa using hne, fun c hc => (mem_of_mem_splitOnP hmem hc).2⟩

/-- Words glued with single spaces are found again. -/
theorem words_intercalate {ws : List Text} (h : ∀ w ∈ ws, IsWord w) :
    words (List.intercalate [' '] ws) = ws := by
  induction ws with
  | nil => rfl
  | cons w rest ih =>
    obtain ⟨hne, hfree⟩ := h w (by simp)
    have hrest := ih fun v hv => h v (by simp [hv])
    cases rest with
    | nil => simp [words, List.splitOnP_eq_singleton hfree, hne]
    | cons next rest =>
      have hspace : isWhite ' ' = true := by decide
      rw [words] at hrest
      rw [words, List.intercalate_cons_cons, List.append_assoc, List.singleton_append,
        List.splitOnP_append_cons _ _ hspace, List.splitOnP_eq_singleton hfree]
      simp [hne, hrest]

theorem words_cons_of_white {c : Char} {t : Text} (h : isWhite c = true) :
    words (c :: t) = words t := by
  simp [words, List.splitOnP_cons_eq_if_modifyHead, h]

theorem words_cons_ne_nil {c : Char} {t : Text} (h : isWhite c = false) :
    words (c :: t) ≠ [] := by
  have hne := List.splitOnP_ne_nil isWhite t
  cases hs : t.splitOnP isWhite with
  | nil => exact absurd hs hne
  | cons first rest => simp [words, List.splitOnP_cons_eq_if_modifyHead, h, hs]

/-- A text is not blank when a character of it is visible. -/
theorem isBlank_eq_false_iff {t : Text} : isBlank t = false ↔ ∃ c ∈ t, isWhite c = false := by
  simp [isBlank]

/-- A text is blank when it has no words. -/
theorem isBlank_iff_words_eq_nil {t : Text} : isBlank t = true ↔ words t = [] := by
  induction t with
  | nil => simp [isBlank, words]
  | cons c rest ih =>
    cases hc : isWhite c with
    | true => simpa [isBlank, hc, words_cons_of_white hc] using ih
    | false => simp [isBlank, hc, words_cons_ne_nil hc]

end Text

end PlainPage
