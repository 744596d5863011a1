import PlainPage.Layout.Paragraph

/-!
# Filling lines greedily

A paragraph is filled word by word, in as many goes as it has lines of prose.  Its lines
are those of a greedy wrap of all its words at once.

Main results:

- Definition `wrap` is the greedy wrap.
- Theorem `Paragraph.addWords_start` says that filling a paragraph word by word gives the
  lines of the wrap.
- Theorem `Paragraph.Fits.addWords` says that words which fit on the page make lines that
  fit.
-/

namespace PlainPage

/-! ## The greedy wrap -/

/-- Go on filling a line that has a word.  The next word joins it if the line then stays
strictly shorter than the page; otherwise it starts another line. -/
def wrapFrom (width : Nat) (line : Text) : List Text → List Text
  | [] => [line]
  | word :: rest =>
    let joined := line ++ ' ' :: word
    if joined.length < width then wrapFrom width joined rest
    else line :: wrapFrom width word rest

/-- The lines of the given words; the first word stands after a gap. -/
def wrap (width gap : Nat) : List Text → List Text
  | [] => []
  | word :: rest => wrapFrom width (Text.spaces gap ++ word) rest

namespace Paragraph

/-- The line that is being filled, if it has a word. -/
def lastLine (p : Paragraph) : List Text :=
  if p.hasWords then [p.text] else []

variable {p : Paragraph}

/-- The length of a line that has words, with one more word. -/
theorem lengthWith_of_hasWords (h : p.Measured) (hwords : p.hasWords = true) (word : Text) :
    p.lengthWith word.length = (p.text ++ ' ' :: word).length := by
  have hlength : p.length = p.text.length := h
  simp only [lengthWith, hwords, if_true, hlength, List.length_append, List.length_cons]
  omega

/-- On a line with words, the next one comes after a space. -/
theorem text_appendWord (hwords : p.hasWords = true) (word : Text) :
    (p.appendWord word).text = p.text ++ ' ' :: word := by
  simp [appendWord, hwords]

/-- A word joins a line that has words, or starts the next one. -/
theorem addWord_of_hasWords (h : p.Measured) (hwords : p.hasWords = true) (width : Nat)
    (word : Text) :
    p.addWord width word =
      if (p.text ++ ' ' :: word).length < width then ([], p.appendWord word)
      else ([p.text], ({} : Paragraph).appendWord word) := by
  have hlength := lengthWith_of_hasWords h hwords word
  unfold addWord
  rw [hlength]
  by_cases hjoins : (p.text ++ ' ' :: word).length < width
  · rw [if_pos hjoins, if_neg]
    rintro ⟨-, hfull⟩
    exact Nat.not_lt.2 hfull hjoins
  · rw [if_neg hjoins, if_pos ⟨hwords, Nat.not_lt.1 hjoins⟩]

/-- Words that are added to a line which has words are wrapped after it. -/
theorem addWords_of_hasWords (h : p.Measured) (hwords : p.hasWords = true) (width : Nat)
    (words : List Text) :
    (p.addWords width words).1 ++ (p.addWords width words).2.lastLine =
      wrapFrom width p.text words := by
  induction words generalizing p with
  | nil => simp [addWords, lastLine, hwords, wrapFrom]
  | cons word rest ih =>
    rw [addWords, addWord_of_hasWords h hwords, wrapFrom]
    by_cases hjoins : (p.text ++ ' ' :: word).length < width
    · have hrest := ih (measured_appendWord h word) rfl
      rw [text_appendWord hwords] at hrest
      simp only [hjoins, if_true, List.nil_append]
      exact hrest
    · have hrest := ih (measured_appendWord (p := {}) rfl word) rfl
      simp only [hjoins, if_false, List.cons_append, List.nil_append]
      exact congrArg (p.text :: ·) hrest

/-- The columns that a paragraph leaves free before its first word. -/
def gap (indent : Bool) : Nat :=
  if indent then indentWidth else 0

theorem text_start (indent : Bool) : (start indent).text = Text.spaces (gap indent) := by
  cases indent <;> rfl

theorem hasWords_start (indent : Bool) : (start indent).hasWords = false := by
  cases indent <;> rfl

theorem length_start (indent : Bool) : (start indent).length = gap indent := by
  cases indent <;> rfl

/-- A paragraph that is filled word by word is wrapped greedily. -/
theorem addWords_start (indent : Bool) (width : Nat) (words : List Text) :
    ((start indent).addWords width words).1 ++ ((start indent).addWords width words).2.lastLine =
      wrap width (gap indent) words := by
  have hstart := hasWords_start indent
  cases words with
  | nil => simp [addWords, lastLine, hstart, wrap]
  | cons word rest =>
    have hword : (start indent).addWord width word = ([], (start indent).appendWord word) := by
      simp [addWord, hstart]
    have htext : ((start indent).appendWord word).text = Text.spaces (gap indent) ++ word := by
      simp [appendWord, hstart, text_start]
    have hrest := addWords_of_hasWords (measured_appendWord (measured_start indent) word) rfl
      width rest
    rw [htext] at hrest
    rw [addWords, hword, wrap]
    exact hrest

/-- Once a word is added, the line has one. -/
theorem hasWords_addWord (p : Paragraph) (width : Nat) (word : Text) :
    (p.addWord width word).2.hasWords = true := by
  unfold addWord
  split <;> rfl

/-- A paragraph without words has been given none. -/
theorem addWords_of_not_hasWords {width : Nat} {words : List Text}
    (h : (p.addWords width words).2.hasWords = false) : (p.addWords width words).2 = p := by
  induction words generalizing p with
  | nil => rfl
  | cons word rest ih =>
    have hword := p.hasWords_addWord width word
    have hnone : ((p.addWord width word).2.addWords width rest).2.hasWords = false := h
    rw [ih hnone, hword] at hnone
    cases hnone

/-! ## Words that fit -/

/-- The line that is being filled fits on the page, if it has words. -/
structure Fits (width : Nat) (p : Paragraph) : Prop where
  measured : p.Measured
  text_le : p.hasWords = true → p.text.length ≤ width

theorem fits_start (width : Nat) (indent : Bool) : (start indent).Fits width where
  measured := measured_start indent
  text_le h := by
    rw [hasWords_start] at h
    cases h

/-- A word fits after the columns that are taken before the first word of a line. -/
theorem fits_appendWord {width : Nat} {word : Text} (h : p.Measured)
    (hlength : p.lengthWith word.length ≤ width) : (p.appendWord word).Fits width where
  measured := measured_appendWord h word
  text_le _ := by
    have hmeasured : (p.appendWord word).length = (p.appendWord word).text.length :=
      measured_appendWord h word
    rw [← hmeasured]
    exact hlength

/-- A word that fits on a line of its own, and at the start of the paragraph also there,
makes lines that fit. -/
theorem Fits.addWord {width : Nat} {word : Text} (h : p.Fits width) (hword : word.length ≤ width)
    (hfirst : p.hasWords = false → p.length + word.length ≤ width) :
    (∀ line ∈ (p.addWord width word).1, line.length ≤ width) ∧
      (p.addWord width word).2.Fits width := by
  unfold Paragraph.addWord
  by_cases hfull : p.hasWords = true ∧ width ≤ p.lengthWith word.length
  · rw [if_pos hfull]
    refine ⟨?_, fits_appendWord rfl ?_⟩
    · intro line hline
      rw [List.mem_singleton.1 hline]
      exact h.text_le hfull.1
    · simpa [lengthWith] using hword
  · rw [if_neg hfull]
    refine ⟨by simp, fits_appendWord h.measured ?_⟩
    cases hhas : p.hasWords with
    | false =>
      have hroom := hfirst hhas
      simpa [lengthWith, hhas] using hroom
    | true =>
      have hjoins : ¬width ≤ p.lengthWith word.length := fun hle => hfull ⟨hhas, hle⟩
      omega

/-- Words that fit on a line of their own, the first one also where the paragraph starts,
make lines that fit. -/
theorem Fits.addWords {width : Nat} {words : List Text} (h : p.Fits width)
    (hwords : ∀ word ∈ words, word.length ≤ width)
    (hfirst : p.hasWords = false → ∀ word ∈ words.head?, p.length + word.length ≤ width) :
    (∀ line ∈ (p.addWords width words).1, line.length ≤ width) ∧
      (p.addWords width words).2.Fits width := by
  induction words generalizing p with
  | nil => exact ⟨by simp [Paragraph.addWords], h⟩
  | cons word rest ih =>
    rw [List.forall_mem_cons] at hwords
    have hstep := h.addWord hwords.1 fun hnone => hfirst hnone word rfl
    -- Only the first word can stand at the start of the paragraph.
    have hrest := ih hstep.2 hwords.2 fun hnone => by
      rw [hasWords_addWord] at hnone
      cases hnone
    refine ⟨fun line hline => ?_, hrest.2⟩
    rcases List.mem_append.1 hline with hfull | hlater
    · exact hstep.1 line hfull
    · exact hrest.1 line hlater

end Paragraph

end PlainPage
