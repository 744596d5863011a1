import PlainPage.Proofs.Layout.Reflow
import PlainPage.Proofs.Typesetter.Passages
import PlainPage.Proofs.Typesetter.Lines

/-!
# Setting a page again

The page of a paragraph is itself a document.  Its lines are again one paragraph, unless one
of them looks like a directive or a comment, and they have the words of the paragraph, unless
stars in them raise something.  The greedy wrap then finds the same lines.

Main results:

- Theorem `Passage.lines_lines` says that the lines of a passage, taken as a passage, have
  themselves for lines.
- Theorem `typesetDocument_of_plain` says what comes of a document without directives.
- Theorem `typesetDocument_page_fixed` says that the page of a paragraph is set as it is.
-/

namespace PlainPage

/-! ## The lines of a page as prose -/

/-- Whether a line has no marks: it does not start, after white space, with the mark of a
directive or of a comment, and has no pair of stars. -/
structure Unmarked (line : Text) : Prop where
  plain : (line.dropWhile isWhite).head? ≠ some '@'
  visible : (line.dropWhile isWhite).head? ≠ some '#'
  flat : ¬ ['*', '*'] <:+: line

namespace Unmarked

variable {line : Text}

/-- An unmarked line is no directive. -/
theorem ofLine? (h : Unmarked line) : Directive.ofLine? line = none :=
  Directive.ofLine?_of_head? h.plain

/-- With a word in it, it is prose. -/
theorem isProse (h : Unmarked line) (hwords : Text.words line ≠ []) : IsProse line where
  plain := h.ofLine?
  visible := by simpa [isComment] using h.visible
  filled := by
    rw [← Bool.not_eq_true, Text.isBlank_iff_words_eq_nil]
    exact hwords

end Unmarked

namespace Passage

variable {p : Passage}

theorem isWord_of_mem_words {word : Text} (h : word ∈ p.words) : Text.IsWord word := by
  rcases List.mem_flatMap.1 h with ⟨line, -, hword⟩
  exact Text.isWord_of_mem_words hword

/-- The lines of a passage have words, and no white space but spaces. -/
theorem forall_mem_lines : ∀ line ∈ p.lines, Text.words line ≠ [] ∧ line.Spaced := by
  intro line hline
  rcases List.mem_map.1 hline with ⟨wrapped, hwrapped, rfl⟩
  have hwrap := forall_mem_wrap (fun _ => isWord_of_mem_words) wrapped hwrapped
  rw [Alignment.words_pad]
  exact ⟨hwrap.1, Alignment.spaced_pad _ _ hwrap.2⟩

/-- The words of a passage stand on its lines, one line after the other. -/
theorem flatMap_words_lines (p : Passage) : p.lines.flatMap Text.words = p.words := by
  rw [lines, List.flatMap_map]
  simp only [Alignment.words_pad]
  exact words_wrap fun _ => isWord_of_mem_words

/-- The lines of a passage, taken as a passage, have themselves for lines. -/
theorem lines_lines (h : ∀ line ∈ p.lines, Unmarked line) :
    Passage.lines { settings := p.settings, prose := p.lines } = p.lines := by
  have hwords : Passage.words { settings := p.settings, prose := p.lines } = p.words := by
    calc p.lines.flatMap (fun line => Text.words (emphasize line))
        = p.lines.flatMap Text.words := by
          rw [List.flatMap_def, List.flatMap_def, List.map_congr_left]
          intro line hline
          rw [emphasize_of_not_isInfix (h line hline).flat]
      _ = p.words := p.flatMap_words_lines
  rw [lines, hwords]
  rfl

end Passage

/-! ## Setting the page -/

/-- A text without white space but spaces can stand on a line. -/
theorem Text.Spaced.isLine {line : Text} (h : line.Spaced) : IsLine line where
  unbroken := h.not_mem (by decide) (by decide)
  last hlast := h.not_mem (by decide) (by decide) (List.mem_of_getLast? hlast)

/-- A document without directives is made of its passages, all under the settings of its
configuration. -/
theorem typesetDocument_of_plain (c : Config) {input : Bytes} {lines : List Text}
    (hlines : streamLines? input = some lines)
    (hplain : ∀ line ∈ lines, Directive.ofLine? line = none) :
    typesetDocument c input = .ok (Typesetter.pageText
      ((passages (Typesetter.configured c).settings lines).flatMap Passage.lines)) := by
  rcases (Typesetter.configured c).exists_feedAll_of_plain hplain with ⟨u, hfeed⟩
  have hread : (Typesetter.configured c).feedPieces 1 (pieces input) = .ok u :=
    Typesetter.feedPieces_eq_ok_iff.2 ⟨lines, hlines, hfeed⟩
  have hfinish := (Typesetter.filling_prepared c Plugin.catalog c.plugins).finish_of_feedAll
    (fun line hline => .plain (hplain line hline)) hfeed
  rw [typesetDocument, Typesetter.typeset, hread]
  simp [bind, Except.bind, Typesetter.renderEnd, Typesetter.render, hfinish, Except.map,
    Typesetter.configured_eq_prepared]

/-- The page of a paragraph is set as it is, unless a line of it has marks. -/
theorem typesetDocument_page_fixed (c : Config) {input : Bytes} {lines : List Text}
    (hlines : streamLines? input = some lines) (hprose : ∀ line ∈ lines, IsProse line) :
    ∃ page, typesetDocument c input = .ok page ∧
      ((∀ line ∈ page.splitOn '\n', Unmarked line) →
        typesetDocument c (Text.utf8 page) = .ok page) := by
  let p : Passage := { settings := (Typesetter.configured c).settings, prose := lines }
  have hfirst : typesetDocument c input = .ok (Typesetter.pageText p.lines) := by
    rw [typesetDocument_of_plain c hlines fun line hline => (hprose line hline).plain,
      lines_of_prose _ hprose]
  refine ⟨_, hfirst, fun hmarks => ?_⟩
  have hreadable : ∀ line ∈ p.lines, IsLine line :=
    fun line hline => (p.forall_mem_lines line hline).2.isLine
  have hunmarked : ∀ line ∈ p.lines, Unmarked line := by
    intro line hline
    refine hmarks line ?_
    rw [splitOn_pageText (List.ne_nil_of_mem hline) fun line hline =>
      (hreadable line hline).unbroken]
    exact List.mem_append_left _ hline
  cases hnone : p.lines with
  | nil =>
    -- A page without lines is a blank line.
    have hnothing : ∀ line ∈ ([] : List Text), IsProse line := by simp
    have hblank : passages p.settings [[]] = [] := passages_of_break hnothing [] rfl
    have hempty : ∀ line ∈ [[]], IsLine line := by
      rw [List.forall_mem_singleton]
      exact ⟨List.not_mem_nil, nofun⟩
    have hstream : streamLines? (Text.utf8 (Typesetter.pageText [])) = some [[]] :=
      streamLines?_pageText (by simp) hempty
    rw [typesetDocument_of_plain c hstream (by simp [Directive.ofLine?, afterMarker?]), hblank]
    rfl
  | cons line rest =>
    rw [← hnone]
    have hne : p.lines ≠ [] := by simp [hnone]
    have hagain : ∀ line ∈ p.lines, IsProse line :=
      fun line hline => (hunmarked line hline).isProse (p.forall_mem_lines line hline).1
    rw [typesetDocument_of_plain c (streamLines?_pageText hne hreadable)
      fun line hline => (hagain line hline).plain, lines_of_prose _ hagain]
    exact congrArg (fun lines => Except.ok (Typesetter.pageText lines)) (p.lines_lines hunmarked)

/-- An indented paragraph in the middle of a narrow page. -/
theorem typesetDocument_page_fixed_centered :
    let c : Config := { width := 13, align := .center, indent := true }
    let page := "    one TWO  \n three four  \n".toList
    typesetDocument c (Text.utf8 "one **two** three\nfour\n".toList) = .ok page ∧
      typesetDocument c (Text.utf8 page) = .ok page := by
  intro c page
  obtain ⟨hlines, hplain, hfilled, hpage, hmarks⟩ :
      streamLines? (Text.utf8 "one **two** three\nfour\n".toList) =
        some ["one **two** three".toList, "four".toList] ∧
      (∀ line ∈ ["one **two** three".toList, "four".toList], Directive.ofLine? line = none) ∧
      (∀ line ∈ ["one **two** three".toList, "four".toList],
        isComment line = false ∧ Text.isBlank line = false) ∧
      (typesetDocument c (Text.utf8 "one **two** three\nfour\n".toList)).toOption = some page ∧
      (∀ line ∈ page.splitOn '\n', (line.dropWhile isWhite).head? ≠ some '@' ∧
        (line.dropWhile isWhite).head? ≠ some '#' ∧ ¬ ['*', '*'] <:+: line) := by
    decide +kernel
  have hprose : ∀ line ∈ ["one **two** three".toList, "four".toList], IsProse line :=
    fun line hline => ⟨hplain line hline, (hfilled line hline).1, (hfilled line hline).2⟩
  rcases typesetDocument_page_fixed c hlines hprose with ⟨found, hfound, hagain⟩
  cases hfound.symm.trans (toOption_eq_some_iff.1 hpage)
  refine ⟨hfound, hagain fun line hline => ?_⟩
  exact ⟨(hmarks line hline).1, (hmarks line hline).2.1, (hmarks line hline).2.2⟩

end PlainPage
