import Mathlib.Order.Bounds.Defs
import PlainPage.Proofs.Layout.Reflow

/-!
# Greedy lines

The words of a paragraph can be cut into lines in many ways.  A breaking is a cut whose lines
are narrow enough for the page.  The greedy one has only the line breaks that it is forced to
have.  It is the one that a paragraph is filled by, and none has fewer lines.

Main results:

- Theorem `Greedy.wrap_eq` says that a greedy cut gives the lines of the wrap, and
  `exists_greedy` that there is one.
- Theorem `Paragraph.addLines_greedy` says that a paragraph is cut greedily, however its words
  are spread over lines of prose.
- Theorem `Paragraph.narrow_addLines` says that the line which is being filled is as narrow as
  those of a breaking.
- Theorem `Breaking.length_wrap_le` says that no breaking has fewer lines than the wrap.
- Theorem `Paragraph.addLines_fewest` says that a paragraph has as few lines as it can.
-/

namespace PlainPage

/-! ## Cuts of words -/

/-- A line of words with single spaces between them, after a gap. -/
def setLine (gap : Nat) (words : List Text) : Text :=
  Text.spaces gap ++ List.intercalate [' '] words

/-- The lines of a cut of words; only the first one stands after the gap. -/
def setLines (gap : Nat) : List (List Text) → List Text
  | [] => []
  | line :: rest => setLine gap line :: setLines 0 rest

/-- Whether every line with more than one word is strictly shorter than the page. -/
def Narrow (width gap : Nat) : List (List Text) → Prop
  | [] => True
  | line :: rest => (2 ≤ line.length → (setLine gap line).length < width) ∧ Narrow width 0 rest

/-- Whether every line is so long that the first word of the next one does not fit on it. -/
def Forced (width gap : Nat) : List (List Text) → Prop
  | [] => True
  | line :: rest =>
    (∀ next ∈ rest.head?, ∀ word ∈ next.head?,
      width ≤ (setLine gap line).length + 1 + word.length) ∧ Forced width 0 rest

/-- A cut of words into lines for a page, the first of them after a gap. -/
structure Breaking (width gap : Nat) (words : List Text) (lines : List (List Text)) : Prop where
  whole : lines.flatten = words
  filled : ∀ line ∈ lines, line ≠ []
  narrow : Narrow width gap lines

/-- A cut of words into lines for a page that has only the breaks that it must have. -/
structure Greedy (width gap : Nat) (words : List Text) (lines : List (List Text)) : Prop
    extends Breaking width gap words lines where
  forced : Forced width gap lines

section Cuts

variable {width gap : Nat} {line : List Text}

/-- A last word is glued on with a space. -/
theorem intercalate_append_singleton (h : line ≠ []) (word : Text) :
    List.intercalate [' '] (line ++ [word]) = List.intercalate [' '] line ++ ' ' :: word := by
  induction line with
  | nil => exact absurd rfl h
  | cons first rest ih =>
    cases rest with
    | nil =>
      rw [List.singleton_append, List.intercalate_cons_cons, List.intercalate_singleton,
        List.intercalate_singleton, List.append_assoc, List.singleton_append]
    | cons next more =>
      rw [List.cons_append, List.intercalate_cons_of_ne_nil (by simp),
        List.intercalate_cons_of_ne_nil (by simp), ih (by simp),
        List.append_assoc _ _ (' ' :: word)]

/-- A word at the end of a line comes after a space. -/
theorem setLine_append_singleton (gap : Nat) (h : line ≠ []) (word : Text) :
    setLine gap (line ++ [word]) = setLine gap line ++ ' ' :: word := by
  rw [setLine, setLine, intercalate_append_singleton h, List.append_assoc]

/-- More words never make a line shorter. -/
theorem length_setLine_le (gap : Nat) (line more : List Text) :
    (setLine gap line).length ≤ (setLine gap (line ++ more)).length := by
  have hjoin := (Text.intercalate_isPrefix [' '] line more).length_le
  simp only [setLine, List.length_append]
  omega

/-- The words of a line are found again. -/
theorem words_setLine (gap : Nat) (h : ∀ word ∈ line, Text.IsWord word) :
    Text.words (setLine gap line) = line := by
  rw [setLine, Text.words_spaces_append, Text.words_intercalate h]

/-- The words of the set lines are the words that were set. -/
theorem map_words_setLines {lines : List (List Text)}
    (h : ∀ word ∈ lines.flatten, Text.IsWord word) :
    (setLines gap lines).map Text.words = lines := by
  induction lines generalizing gap with
  | nil => rfl
  | cons line rest ih =>
    rw [List.flatten_cons, List.forall_mem_append] at h
    rw [setLines, List.map_cons, words_setLine gap h.1, ih h.2]

theorem length_setLines (gap : Nat) (lines : List (List Text)) :
    (setLines gap lines).length = lines.length := by
  induction lines generalizing gap with
  | nil => rfl
  | cons line rest ih => rw [setLines, List.length_cons, ih, List.length_cons]

/-! ## The wrap is greedy -/

/-- Words that fit on a line together go on it. -/
theorem wrapFrom_append (hline : line ≠ []) {more : List Text} (rest : List Text)
    (h : more ≠ [] → (setLine gap (line ++ more)).length < width) :
    wrapFrom width (setLine gap line) (more ++ rest) =
      wrapFrom width (setLine gap (line ++ more)) rest := by
  induction more generalizing line with
  | nil => rw [List.nil_append, List.append_nil]
  | cons word more ih =>
    have hwhole : (setLine gap (line ++ [word] ++ more)).length < width := by
      rw [List.append_assoc]
      exact h (by simp)
    have hjoins : (setLine gap line ++ ' ' :: word).length < width := by
      rw [← setLine_append_singleton gap hline]
      exact Nat.lt_of_le_of_lt (length_setLine_le gap _ more) hwhole
    have hne : line ++ [word] ≠ [] := by simp
    have hrest := ih hne fun _ => hwhole
    rw [List.append_assoc] at hrest
    rw [List.cons_append, wrapFrom, if_pos hjoins, ← setLine_append_singleton gap hline, hrest]
    rfl

/-- The wrap starts with all words of a narrow line. -/
theorem wrap_append (hline : line ≠ []) (rest : List Text)
    (h : 2 ≤ line.length → (setLine gap line).length < width) :
    wrap width gap (line ++ rest) = wrapFrom width (setLine gap line) rest := by
  cases line with
  | nil => exact absurd rfl hline
  | cons word more =>
    have hstart : Text.spaces gap ++ word = setLine gap [word] := by
      rw [setLine, List.intercalate_singleton]
    have hword : [word] ≠ [] := by simp
    rw [List.cons_append, wrap, hstart]
    refine wrapFrom_append hword rest fun hmore => h ?_
    simpa [Nat.one_le_iff_ne_zero] using hmore

/-- A greedy cut gives the lines of the wrap. -/
theorem Greedy.wrap_eq {words : List Text} {lines : List (List Text)}
    (h : Greedy width gap words lines) : wrap width gap words = setLines gap lines := by
  rcases h with ⟨⟨rfl, hfilled, hnarrow⟩, hforced⟩
  induction lines generalizing gap with
  | nil => rfl
  | cons line rest ih =>
    rw [List.forall_mem_cons] at hfilled
    have hrest := ih hforced.2 hfilled.2 hnarrow.2
    rw [List.flatten_cons, wrap_append hfilled.1 _ hnarrow.1, setLines, ← hrest]
    cases rest with
    | nil => rfl
    | cons next more =>
      cases next with
      | nil => exact absurd rfl (hfilled.2 [] (by simp))
      | cons word others =>
        have hfull := hforced.1 _ rfl word rfl
        rw [List.flatten_cons, List.cons_append, wrapFrom, if_neg]
        · rfl
        · simp only [List.length_append, List.length_cons]
          omega

/-- A narrow line and the words after it can be cut greedily. -/
theorem exists_greedy_append (hline : line ≠ [])
    (hnarrow : 2 ≤ line.length → (setLine gap line).length < width) (rest : List Text) :
    ∃ lines, Greedy width gap (line ++ rest) lines := by
  induction rest generalizing gap line with
  | nil => exact ⟨[line], ⟨⟨by simp, by simpa using hline, hnarrow, trivial⟩, by simp, trivial⟩⟩
  | cons word rest ih =>
    by_cases hjoins : (setLine gap (line ++ [word])).length < width
    · have hne : line ++ [word] ≠ [] := by simp
      rcases ih hne fun _ => hjoins with ⟨lines, hlines⟩
      rw [List.append_assoc] at hlines
      exact ⟨lines, hlines⟩
    · -- The word starts the next line.
      have hsingle : 2 ≤ [word].length → (setLine 0 [word]).length < width := by simp
      rcases ih (List.cons_ne_nil word []) hsingle with
        ⟨lines, ⟨hwhole, hfilled, hlines⟩, hforced⟩
      refine ⟨line :: lines, ⟨?_, ?_, hnarrow, hlines⟩, ?_, hforced⟩
      · rw [List.flatten_cons, hwhole]
        rfl
      · exact List.forall_mem_cons.2 ⟨hline, hfilled⟩
      · intro next hnext first hfirst
        have hword : first = word := by
          obtain ⟨others, rfl⟩ := List.head?_eq_some_iff.1 hnext
          obtain ⟨more, rfl⟩ := List.head?_eq_some_iff.1 hfirst
          exact (List.cons.inj hwhole).1
        rw [setLine_append_singleton gap hline, List.length_append, List.length_cons] at hjoins
        rw [hword]
        omega

/-- Words can be cut greedily. -/
theorem exists_greedy (width gap : Nat) (words : List Text) :
    ∃ lines, Greedy width gap words lines := by
  cases words with
  | nil => exact ⟨[], ⟨⟨rfl, by simp, trivial⟩, trivial⟩⟩
  | cons word rest => exact exists_greedy_append (List.cons_ne_nil word []) (by simp) rest

/-- The words on the lines of the wrap are the only greedy cut. -/
theorem greedy_iff (width gap : Nat) {words : List Text}
    (hwords : ∀ word ∈ words, Text.IsWord word) (cut : List (List Text)) :
    Greedy width gap words cut ↔ cut = (wrap width gap words).map Text.words := by
  have hcut : ∀ {cut}, Greedy width gap words cut →
      cut = (wrap width gap words).map Text.words := by
    intro cut h
    rw [h.wrap_eq, map_words_setLines fun word hword => hwords word (h.whole ▸ hword)]
  refine ⟨hcut, fun h => ?_⟩
  rcases exists_greedy width gap words with ⟨lines, hlines⟩
  rw [h, ← hcut hlines]
  exact hlines

/-- A line of a narrow cut has one word at most, or is strictly shorter than the page. -/
theorem narrow_of_mem_setLines {lines : List (List Text)} (h : Narrow width gap lines)
    (hwords : ∀ word ∈ lines.flatten, Text.IsWord word) :
    ∀ text ∈ setLines gap lines, (Text.words text).length ≤ 1 ∨ text.length < width := by
  induction lines generalizing gap with
  | nil => simp [setLines]
  | cons line rest ih =>
    rw [List.flatten_cons, List.forall_mem_append] at hwords
    rw [setLines, List.forall_mem_cons, words_setLine gap hwords.1]
    refine ⟨?_, ih h.2 hwords.2⟩
    by_cases hmany : 2 ≤ line.length
    · exact .inr (h.1 hmany)
    · exact .inl (by omega)

/-! ## The wrap has the fewest lines -/

/-- Whatever line the wrap goes on from, it needs at most one line more; and it needs no more
lines if the line that it goes on from is shorter. -/
theorem length_wrapFrom_le (width : Nat) (words : List Text) (line other : Text) :
    (wrapFrom width line words).length ≤ (wrapFrom width other words).length + 1 ∧
      (line.length ≤ other.length →
        (wrapFrom width line words).length ≤ (wrapFrom width other words).length) := by
  induction words generalizing line other with
  | nil => simp [wrapFrom]
  | cons word rest ih =>
    have hjoined := ih (line ++ ' ' :: word) (other ++ ' ' :: word)
    have hleft := ih (line ++ ' ' :: word) word
    have hright := ih word (other ++ ' ' :: word)
    have hshorter := hright.2 (by rw [List.length_append, List.length_cons]; omega)
    simp only [wrapFrom]
    split
    · split
      · exact ⟨hjoined.1, fun hle => hjoined.2 (by simpa using hle)⟩
      · simp only [List.length_cons]
        omega
    · split
      · rename_i hfull hfits
        refine ⟨by simpa using hshorter, fun hle => absurd hfits ?_⟩
        simp only [List.length_append] at hfull ⊢
        omega
      · simp

/-- Going on from a line takes at most one line more than starting anew. -/
theorem length_wrapFrom_le_wrap (words : List Text) (line : Text) :
    (wrapFrom width line words).length ≤ (wrap width 0 words).length + 1 := by
  cases words with
  | nil => simp [wrapFrom, wrap]
  | cons word rest =>
    have hrest := (length_wrapFrom_le width rest (line ++ ' ' :: word) word).1
    simp only [wrapFrom]
    split
    · exact hrest
    · exact Nat.le_refl _

/-- No breaking has fewer lines than the wrap. -/
theorem Breaking.length_wrap_le {words : List Text} {lines : List (List Text)}
    (h : Breaking width gap words lines) : (wrap width gap words).length ≤ lines.length := by
  rcases h with ⟨rfl, hfilled, hnarrow⟩
  induction lines generalizing gap with
  | nil => exact Nat.le_refl 0
  | cons line rest ih =>
    rw [List.forall_mem_cons] at hfilled
    calc (wrap width gap (line :: rest).flatten).length
        = (wrapFrom width (setLine gap line) rest.flatten).length := by
          rw [List.flatten_cons, wrap_append hfilled.1 _ hnarrow.1]
      _ ≤ (wrap width 0 rest.flatten).length + 1 := length_wrapFrom_le_wrap _ _
      _ ≤ (line :: rest).length := Nat.succ_le_succ (ih hfilled.2 hnarrow.2)

end Cuts

/-! ## Paragraphs -/

/-- The words of lines of prose, with the emphasis applied line by line. -/
def proseWords (prose : List Text) : List Text :=
  prose.flatMap fun line => Text.words (emphasize line)

/-- The words of prose are words, also when they are emphasized. -/
theorem isWord_of_mem_proseWords {prose : List Text} {word : Text} (h : word ∈ proseWords prose) :
    Text.IsWord word := by
  rcases List.mem_flatMap.1 h with ⟨line, -, hword⟩
  exact Text.isWord_of_mem_words hword

namespace Paragraph

/-- Add lines of prose one after the other; the first component is the lines they complete. -/
def addLines (p : Paragraph) (width : Nat) : List Text → List Text × Paragraph
  | [] => ([], p)
  | line :: rest =>
    let (completed, p) := p.addLine width line
    let (more, p) := addLines p width rest
    (completed ++ more, p)

/-- Adding lines of prose is adding their words. -/
theorem addLines_eq (p : Paragraph) (width : Nat) (prose : List Text) :
    p.addLines width prose = p.addWords width (proseWords prose) := by
  induction prose generalizing p with
  | nil => rfl
  | cons line rest ih =>
    have hwords : proseWords (line :: rest) = Text.words (emphasize line) ++ proseWords rest := rfl
    rw [hwords, addWords_append]
    simp only [addLines, addLine, ih]

/-- Prose has its words in order. -/
theorem proseWords_append (prose more : List Text) :
    proseWords (prose ++ more) = proseWords prose ++ proseWords more :=
  List.flatMap_append

theorem addLines_singleton (p : Paragraph) (width : Nat) (line : Text) :
    p.addLines width [line] = p.addLine width line := by
  simp [addLines]

/-- Adding another line of prose goes on from where the lines before it have led. -/
theorem addLines_append_singleton (p : Paragraph) (width : Nat) (prose : List Text) (line : Text) :
    p.addLines width (prose ++ [line]) =
      ((p.addLines width prose).1 ++ ((p.addLines width prose).2.addLine width line).1,
        ((p.addLines width prose).2.addLine width line).2) := by
  rw [addLines_eq, addLines_eq, proseWords_append, addWords_append, ← addLines_singleton,
    addLines_eq]

/-- What a new paragraph makes of prose is the wrap of its words. -/
theorem addLines_start (indent : Bool) (width : Nat) (prose : List Text) :
    ((start indent).addLines width prose).1 ++ ((start indent).addLines width prose).2.lastLine =
      wrap width (gap indent) (proseWords prose) := by
  rw [addLines_eq, addWords_start]

/-- The line that is being filled has one word at most, or is strictly shorter than the page. -/
theorem narrow_addLines (indent : Bool) (width : Nat) (prose : List Text) :
    let p := ((start indent).addLines width prose).2
    (Text.words p.text).length ≤ 1 ∨ p.text.length < width := by
  intro p
  have hlines := addLines_start indent width prose
  cases hfilled : p.hasWords with
  | false =>
    -- No word has come yet.
    have hstart : p = start indent := by
      simp only [p, addLines_eq] at hfilled ⊢
      exact addWords_of_not_hasWords hfilled
    rw [hstart, text_start, Text.words_spaces]
    exact .inl (Nat.zero_le 1)
  | true =>
    rcases exists_greedy width (gap indent) (proseWords prose) with ⟨cut, hcut⟩
    have hwords : ∀ word ∈ cut.flatten, Text.IsWord word := by
      rw [hcut.whole]
      exact fun _ => isWord_of_mem_proseWords
    refine narrow_of_mem_setLines hcut.narrow hwords p.text ?_
    rw [← hcut.wrap_eq, ← hlines]
    exact List.mem_append_right _ (by simp [lastLine, hfilled, p])

/-- A paragraph is filled greedily: the words on its lines are the only greedy cut of the words
of its prose, and its lines are set with single spaces, the first one after the gap.  It does
not matter how the words are spread over the lines of prose. -/
theorem addLines_greedy (indent : Bool) (width : Nat) (prose : List Text) :
    let filled := (start indent).addLines width prose
    let lines := filled.1 ++ filled.2.lastLine
    lines = setLines (gap indent) (lines.map Text.words) ∧
      (∀ cut, Greedy width (gap indent) (proseWords prose) cut ↔ cut = lines.map Text.words) ∧
      filled = (start indent).addWords width (proseWords prose) := by
  intro filled lines
  have hlines : lines = wrap width (gap indent) (proseWords prose) :=
    addLines_start indent width prose
  have hwords : ∀ word ∈ proseWords prose, Text.IsWord word := fun _ => isWord_of_mem_proseWords
  have hgreedy := greedy_iff width (gap indent) hwords
  rw [hlines]
  exact ⟨((hgreedy _).2 rfl).wrap_eq, hgreedy, addLines_eq _ _ _⟩

/-- The gap counts on the first line. -/
example : (start true).addLines 10 ["aa".toList, "bb cc".toList] =
    (["   aa bb".toList], { text := "cc".toList, length := 2, hasWords := true }) := by
  decide +kernel

/-- A paragraph has as few lines as any breaking of the words of its prose. -/
theorem addLines_fewest (indent : Bool) (width : Nat) (prose : List Text) :
    let filled := (start indent).addLines width prose
    IsLeast {n | ∃ cut, Breaking width (gap indent) (proseWords prose) cut ∧ cut.length = n}
      (filled.1 ++ filled.2.lastLine).length := by
  intro filled
  have hlines : filled.1 ++ filled.2.lastLine = wrap width (gap indent) (proseWords prose) :=
    addLines_start indent width prose
  rw [hlines]
  constructor
  · rcases exists_greedy width (gap indent) (proseWords prose) with ⟨cut, hcut⟩
    exact ⟨cut, hcut.toBreaking, by rw [hcut.wrap_eq, length_setLines]⟩
  · rintro n ⟨cut, hcut, rfl⟩
    exact hcut.length_wrap_le

end Paragraph

end PlainPage
