import PlainPage.Proofs.Layout.Greedy

/-!
# Filling lines under changing widths

The page may get wider or narrower while a paragraph is filled.  Where the lines break depends
on that, but not what the paragraph keeps about the line that it is filling, and no word is lost
on the way.

Main results:

- Definition `Paragraph.addUnder` adds lines of prose, each under its own width.
- Definition `Paragraph.Kept` is what a paragraph keeps about the line that it is filling.
- Theorem `Paragraph.Kept.addWord` says what one more word leads to.
- Theorem `Paragraph.addUnder_keeps` says what any run of lines under any widths leads to.
-/

namespace PlainPage

namespace Paragraph

/-- Add lines of prose one after the other, each under its own page width; the first component is
the lines that they complete. -/
def addUnder (p : Paragraph) : List (Nat × Text) → List Text × Paragraph
  | [] => ([], p)
  | (width, line) :: rest =>
    let (completed, p) := p.addLine width line
    let (more, p) := addUnder p rest
    (completed ++ more, p)

/-- What a paragraph keeps about the line that it is filling: its length, and whether it has a
word; until it has one there is only the gap. -/
structure Kept (indent : Bool) (p : Paragraph) : Prop where
  measured : p.Measured
  hasWords_iff : p.hasWords = true ↔ ∃ c ∈ p.text, isWhite c = false
  unfilled : p.hasWords = false → p.text = Text.spaces (gap indent)

/-- What it comes to when words are added to a paragraph: the lines that they complete, and the
line that is being filled then. -/
structure Adds (indent : Bool) (p : Paragraph) (added : List Text)
    (filled : List Text × Paragraph) : Prop where
  kept : filled.2.Kept indent
  solid : ∀ line ∈ filled.1, Text.isBlank line = false
  words_eq : filled.1.flatMap Text.words ++ Text.words filled.2.text = Text.words p.text ++ added

variable {indent : Bool} {p q : Paragraph}

/-! ## One word -/

theorem kept_start (indent : Bool) : (start indent).Kept indent where
  measured := measured_start indent
  hasWords_iff := by
    have hblank := Text.isBlank_iff_words_eq_nil.2 (Text.words_spaces (gap indent))
    rw [hasWords_start, text_start, ← Text.isBlank_eq_false_iff, hblank, eq_comm]
  unfilled _ := text_start indent

/-- A line with a word is no longer bound to the gap. -/
theorem kept_appendWord {word : Text} (h : p.Measured) (hword : Text.IsWord word) :
    (p.appendWord word).Kept indent where
  measured := measured_appendWord h word
  hasWords_iff := by
    obtain ⟨c, hc⟩ := List.exists_mem_of_ne_nil word hword.1
    exact iff_of_true rfl ⟨c, List.mem_append_right _ hc, hword.2 c hc⟩
  unfilled hnone := by cases hnone

/-- A word put on the line comes after the words that are there. -/
theorem Kept.words_appendWord {word : Text} (h : p.Kept indent) (hword : Text.IsWord word) :
    Text.words (p.appendWord word).text = Text.words p.text ++ [word] := by
  cases hfilled : p.hasWords with
  | true =>
    rw [text_appendWord hfilled, Text.words_append_of_white _ _ Text.isWhite_space,
      hword.words_eq]
  | false =>
    have htext : (p.appendWord word).text = Text.spaces (gap indent) ++ word := by
      simp [appendWord, hfilled, h.unfilled hfilled]
    rw [htext, h.unfilled hfilled, Text.words_spaces_append, Text.words_spaces, hword.words_eq]
    rfl

/-- A word goes on the line that is being filled, or completes it and starts the next one. -/
theorem Kept.addWord {word : Text} (h : p.Kept indent) (hword : Text.IsWord word) (width : Nat) :
    Adds indent p [word] (p.addWord width word) := by
  unfold Paragraph.addWord
  split
  · rename_i hfull
    -- The next line has no gap to start with.
    have hnext : Text.words (({} : Paragraph).appendWord word).text = [word] :=
      (kept_start false).words_appendWord hword
    refine ⟨kept_appendWord rfl hword, ?_, ?_⟩
    · rw [List.forall_mem_singleton, Text.isBlank_eq_false_iff]
      exact h.hasWords_iff.1 hfull.1
    · rw [hnext, List.flatMap_singleton]
  · exact ⟨kept_appendWord h.measured hword, by simp, h.words_appendWord hword⟩

/-! ## Many words -/

/-- Without words nothing is completed. -/
theorem Kept.adds_nil (h : p.Kept indent) : Adds indent p [] ([], p) :=
  ⟨h, by simp, by simp⟩

/-- More words can be added to the line that is being filled. -/
theorem Adds.append {first second completed more : List Text}
    (h : Adds indent p first (completed, q)) {filled : Paragraph}
    (hmore : Adds indent q second (more, filled)) :
    Adds indent p (first ++ second) (completed ++ more, filled) where
  kept := hmore.kept
  solid := List.forall_mem_append.2 ⟨h.solid, hmore.solid⟩
  words_eq := by
    calc (completed ++ more).flatMap Text.words ++ Text.words filled.text
        = completed.flatMap Text.words ++ (more.flatMap Text.words ++ Text.words filled.text) := by
          rw [List.flatMap_append, List.append_assoc]
      _ = (completed.flatMap Text.words ++ Text.words q.text) ++ second := by
          rw [hmore.words_eq, List.append_assoc]
      _ = Text.words p.text ++ (first ++ second) := by
          rw [h.words_eq, List.append_assoc]

/-- Adding words completes lines and keeps the rest, as an addition should. -/
theorem Kept.addWords {words : List Text} (h : p.Kept indent)
    (hwords : ∀ word ∈ words, Text.IsWord word) (width : Nat) :
    Adds indent p words (p.addWords width words) := by
  induction words generalizing p with
  | nil => exact h.adds_nil
  | cons word rest ih =>
    rw [List.forall_mem_cons] at hwords
    have hword := h.addWord hwords.1 width
    exact hword.append (ih hword.kept hwords.2)

theorem Kept.addLine (h : p.Kept indent) (width : Nat) (line : Text) :
    Adds indent p (Text.words (emphasize line)) (p.addLine width line) :=
  h.addWords (fun _ => Text.isWord_of_mem_words) width

/-- Lines of prose add their words, whatever widths they come under. -/
theorem Kept.addUnder (h : p.Kept indent) (prose : List (Nat × Text)) :
    Adds indent p (proseWords (prose.map (·.2))) (p.addUnder prose) := by
  induction prose generalizing p with
  | nil => exact h.adds_nil
  | cons first rest ih =>
    have hline := h.addLine first.1 first.2
    exact hline.append (ih hline.kept)

/-- However the width changes from line to line, a paragraph knows the length of the line that it
is filling and whether there is a word on it, and until there is one the line is only the gap.
No line that it has completed is blank, an empty one least of all.  The words of these lines and
of the one that is being filled are the words of its prose, in order. -/
theorem addUnder_keeps (indent : Bool) (prose : List (Nat × Text)) :
    let filled := (start indent).addUnder prose
    filled.2.Kept indent ∧ (∀ line ∈ filled.1, Text.isBlank line = false) ∧
      filled.1.flatMap Text.words ++ Text.words filled.2.text = proseWords (prose.map (·.2)) := by
  intro filled
  have hadds : Adds indent (start indent) (proseWords (prose.map (·.2))) filled :=
    (kept_start indent).addUnder prose
  refine ⟨hadds.kept, hadds.solid, ?_⟩
  rw [hadds.words_eq, text_start, Text.words_spaces]
  rfl

/-- A page that gets narrower completes a line which was short enough before. -/
example : (start true).addUnder [(20, "one two".toList), (4, "**three**".toList)] =
    (["   one two".toList], { text := "THREE".toList, length := 5, hasWords := true }) := by
  decide +kernel

end Paragraph

end PlainPage
