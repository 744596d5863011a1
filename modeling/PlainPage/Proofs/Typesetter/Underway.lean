import Mathlib.Data.List.Induction
import PlainPage.Proofs.Layout.Greedy
import PlainPage.Proofs.Plugin.History
import PlainPage.Proofs.Typesetter.Passages

/-!
# Paragraphs under way

Every directive ends the paragraph before it does anything else, and nothing but directives
changes the settings.  So as long as lines are fed, a paragraph that is under way has the page
on which it was started.

Main results:

- Theorem `Typesetter.feed_outcome` says what a line does to the paragraph.
- Theorem `Typesetter.Underway.feed` says that a paragraph under way goes on under the settings
  of its start, or ends.
- Theorem `Typesetter.underway_of_fed` says that every paragraph which lines leave behind has
  been under way since one of them.
-/

namespace PlainPage

namespace Typesetter

/-- The state after lines, of which some may be refused. -/
def fed (t : Typesetter) (lines : List Text) : Typesetter :=
  t.through (lines.map .feed)

theorem fed_append (t : Typesetter) (lines more : List Text) :
    t.fed (lines ++ more) = (t.fed lines).fed more := by
  rw [fed, List.map_append, through_append]
  rfl

/-! ## What a line does to the paragraph -/

/-- No directive starts a paragraph. -/
theorem paragraph_perform (t : Typesetter) (directive : Directive) :
    (t.perform directive).2.paragraph = t.paragraph := by
  cases directive with
  | openBlock filter args => exact (t.keepsRest_openBlock filter args).paragraph
  | closeBlock filter => exact (t.keepsRest_closeBlock filter).paragraph
  | set name value => exact (t.keepsRest_withSettings _).paragraph
  | unset name => exact (t.keepsRest_withSettings _).paragraph
  | enable id => exact (t.grown_enable id).paragraph
  | run name args => exact (t.keepsRest_callCommand name args).paragraph

/-- What a line does to the paragraph: it leaves none, or it is written as it is, or it is a
comment, or it goes to the paragraph. -/
inductive FeedOutcome (t : Typesetter) (line : Text) : Typesetter → Prop where
  | ended {u : Typesetter} (hparagraph : u.paragraph = none) : FeedOutcome t line u
  | verbatim (hpre : t.settings.pre = true) : FeedOutcome t line (t.write [line])
  | skipped (hcomment : isComment line = true) : FeedOutcome t line t
  | taken (hpre : t.settings.pre = false) (hprose : IsProse line) :
      FeedOutcome t line (t.feedProse line)

/-- Feeding a line has one of the outcomes above. -/
theorem feed_outcome (t : Typesetter) (line : Text) : t.FeedOutcome line (t.feed line).2 := by
  cases hline : Directive.ofLine? line with
  | some read =>
    cases read with
    | error error =>
      rw [feed, hline]
      exact .ended rfl
    | ok directive =>
      rw [feed_of_directive hline]
      exact .ended (t.flush.paragraph_perform directive)
  | none =>
    cases hpre : t.settings.pre with
    | true =>
      rw [feed_of_pre hline hpre]
      exact .verbatim hpre
    | false =>
      have hfeed : t.feed line = (.ok (), (t.feed line).2) := by rw [feed, hline]
      have hstep := plainStep_of_feed hline hpre hfeed
      generalize (t.feed line).2 = u at hstep
      cases hstep with
      | comment hcomment => exact .skipped hcomment
      | blank => exact .ended rfl
      | prose hprose => exact .taken hpre hprose

/-! ## From the start of a paragraph to its end -/

/-- The paragraph of the document `u` was started in the document `s`, and has been filled with
lines of prose on the page that was in force there. -/
structure Underway (s : Typesetter) (prose : List Text) (u : Typesetter) : Prop where
  pre : u.settings.pre = false
  settings : u.settings = s.settings
  paragraph : u.paragraph =
    some ((Paragraph.start s.settings.indent).addLines s.settings.width prose).2
  blocks : u.blocks = s.blocks.feed
    (((Paragraph.start s.settings.indent).addLines s.settings.width prose).1.map s.align)

/-- A line of prose goes on with the paragraph, or starts one. -/
theorem feedProse_eq {u : Typesetter} {p : Paragraph} (line : Text)
    (h : u.paragraph.getD (.start u.settings.indent) = p) :
    u.feedProse line = { u with
      blocks := u.blocks.feed ((p.addLine u.settings.width line).1.map u.align)
      paragraph := some (p.addLine u.settings.width line).2 } := by
  rw [← h]
  rfl

/-- Of one line, a comment leaves nothing to the paragraph. -/
theorem filter_of_comment {line : Text} (h : isComment line = true) :
    [line].filter (fun line => !isComment line) = [] := by
  simp [h]

theorem filter_of_prose {line : Text} (h : IsProse line) :
    [line].filter (fun line => !isComment line) = [line] := by
  simp [h.visible]

section Underway

variable {s u : Typesetter} {prose : List Text}

/-- A line of prose starts a paragraph. -/
theorem underway_start (hparagraph : s.paragraph = none) (hpre : s.settings.pre = false)
    (line : Text) : s.Underway [line] (s.feedProse line) := by
  have hstart : s.paragraph.getD (.start s.settings.indent) = .start s.settings.indent := by
    rw [hparagraph, Option.getD_none]
  rw [feedProse_eq line hstart, ← Paragraph.addLines_singleton]
  exact ⟨hpre, rfl, rfl, rfl⟩

/-- While a paragraph is under way its alignment stays. -/
theorem Underway.align_eq (h : s.Underway prose u) : u.align = s.align := by
  funext text
  rw [align, align, h.settings]

/-- A paragraph under way takes a line of prose. -/
theorem Underway.feedProse (h : s.Underway prose u) (line : Text) :
    s.Underway (prose ++ [line]) (u.feedProse line) := by
  have hpending : u.paragraph.getD (.start u.settings.indent) =
      ((Paragraph.start s.settings.indent).addLines s.settings.width prose).2 := by
    rw [h.paragraph, Option.getD_some]
  rw [feedProse_eq line hpending, h.settings, h.align_eq]
  refine ⟨h.settings ▸ h.pre, rfl, ?_, ?_⟩
  · rw [Paragraph.addLines_append_singleton]
  · rw [Paragraph.addLines_append_singleton, List.map_append, ← Blocks.feed_feed, ← h.blocks]

/-- Whatever line comes next, a paragraph under way goes on under the settings of its start, or
ends. -/
theorem Underway.feed (h : s.Underway prose u) (line : Text) :
    (u.feed line).2.paragraph = none ∨
      s.Underway (prose ++ [line].filter fun line => !isComment line) (u.feed line).2 := by
  have houtcome := u.feed_outcome line
  generalize (u.feed line).2 = v at houtcome ⊢
  cases houtcome with
  | ended hparagraph => exact .inl hparagraph
  | verbatim hpre =>
    rw [h.pre] at hpre
    cases hpre
  | skipped hcomment =>
    rw [filter_of_comment hcomment, List.append_nil]
    exact .inr h
  | taken hpre hprose =>
    rw [filter_of_prose hprose]
    exact .inr (h.feedProse line)

/-- A paragraph that ends here has been wrapped and padded as a whole under the settings of its
start. -/
theorem Underway.flush (h : s.Underway prose u) :
    u.flush.blocks = s.blocks.feed (Passage.lines ⟨s.settings, prose⟩) := by
  calc u.flush.blocks
      = u.blocks.feed (((Paragraph.start s.settings.indent).addLines
          s.settings.width prose).2.lastLine.map s.align) := by
        rw [Typesetter.flush, pendingLines_eq, h.paragraph, Option.getD_some, h.align_eq]
    _ = s.blocks.feed ((wrap s.settings.width (Paragraph.gap s.settings.indent)
          (proseWords prose)).map s.align) := by
        rw [h.blocks, Blocks.feed_feed, ← List.map_append, Paragraph.addLines_start]
    _ = s.blocks.feed (Passage.lines ⟨s.settings, prose⟩) := rfl

end Underway

/-! ## Paragraphs over many lines -/

/-- A paragraph was started by the first of the lines `since`, which come after the lines
`before`, and has been under way through all of them. -/
structure Since (t : Typesetter) (before since : List Text) : Prop where
  started : (t.fed before).paragraph = none
  nonempty : since ≠ []
  underway : ∀ taken, taken <+: since → taken ≠ [] →
    (t.fed before).Underway (taken.filter fun line => !isComment line) (t.fed (before ++ taken))

theorem fed_append_singleton (t : Typesetter) (lines : List Text) (line : Text) :
    t.fed (lines ++ [line]) = ((t.fed lines).feed line).2 :=
  t.fed_append lines [line]

section Since

variable {t : Typesetter} {before since : List Text} {line : Text}

/-- The first line of prose puts a paragraph under way. -/
theorem since_start (hstarted : (t.fed before).paragraph = none)
    (hpre : (t.fed before).settings.pre = false) (hprose : IsProse line)
    (hfeed : ((t.fed before).feed line).2 = (t.fed before).feedProse line) :
    t.Since before [line] := by
  refine ⟨hstarted, List.cons_ne_nil line [], fun taken htaken hne => ?_⟩
  have htaken : taken = [line] := by
    rcases List.prefix_cons_iff.1 htaken with rfl | ⟨more, rfl, hmore⟩
    · exact absurd rfl hne
    · rw [List.prefix_nil.1 hmore]
  rw [htaken, filter_of_prose hprose, fed_append_singleton, hfeed]
  exact underway_start hstarted hpre line

/-- The next line goes on with the paragraph, or leaves none. -/
theorem Since.feed (h : t.Since before since) (line : Text) :
    (t.fed (before ++ (since ++ [line]))).paragraph = none ∨
      t.Since before (since ++ [line]) := by
  rw [← List.append_assoc, fed_append_singleton]
  rcases (h.underway since List.prefix_rfl h.nonempty).feed line with hnone | hunderway
  · exact .inl hnone
  · refine .inr ⟨h.started, by simp, fun taken htaken hne => ?_⟩
    rcases List.prefix_concat_iff.1 htaken with rfl | hearlier
    · rw [← List.append_assoc, fed_append_singleton, List.filter_append]
      exact hunderway
    · exact h.underway taken hearlier hne

/-- From a document without a paragraph, lines leave no paragraph behind, or one that has been
under way since one of them. -/
theorem exists_since (h : t.paragraph = none) (lines : List Text) :
    (t.fed lines).paragraph = none ∨
      ∃ before since, lines = before ++ since ∧ t.Since before since := by
  induction lines using List.reverseRecOn with
  | nil => exact .inl h
  | append_singleton lines line ih =>
    rcases ih with hnone | ⟨before, since, rfl, hsince⟩
    · rw [fed_append_singleton]
      have houtcome := (t.fed lines).feed_outcome line
      generalize hnext : ((t.fed lines).feed line).2 = next at houtcome ⊢
      cases houtcome with
      | ended hparagraph => exact .inl hparagraph
      | verbatim => exact .inl hnone
      | skipped => exact .inl hnone
      | taken hpre hprose => exact .inr ⟨lines, [line], rfl, since_start hnone hpre hprose hnext⟩
    · rw [List.append_assoc]
      rcases hsince.feed line with hended | hlonger
      · exact .inl hended
      · exact .inr ⟨before, since ++ [line], rfl, hlonger⟩

end Since

/-- The paragraph that lines leave behind, in whatever document without a paragraph they were
fed to, has been under way since one of them, under the settings of its start.  No lines are
taken as they are, its line has one word at most or is strictly shorter than the page in force,
and if it ends here then all its lines have been wrapped and padded under the settings of its
start. -/
theorem underway_of_fed {t : Typesetter} (h : t.paragraph = none) {lines : List Text}
    {p : Paragraph} (hp : (t.fed lines).paragraph = some p) :
    (t.fed lines).settings.pre = false ∧
      ((Text.words p.text).length ≤ 1 ∨ p.text.length < (t.fed lines).settings.width) ∧
      ∃ before since, lines = before ++ since ∧ t.Since before since ∧
        (t.fed lines).flush.blocks = (t.fed before).blocks.feed (Passage.lines
          ⟨(t.fed before).settings, since.filter fun line => !isComment line⟩) := by
  rcases exists_since h lines with hnone | ⟨before, since, rfl, hsince⟩
  · rw [hnone] at hp
    cases hp
  · have hunderway := hsince.underway since List.prefix_rfl hsince.nonempty
    rw [hunderway.paragraph, Option.some.injEq] at hp
    refine ⟨hunderway.pre, ?_, before, since, rfl, hsince, hunderway.flush⟩
    rw [← hp, hunderway.settings]
    exact Paragraph.narrow_addLines _ _ _

/-- A paragraph within a block, after a plugin, a setting and a line that is refused. -/
theorem underway_of_fed_block :
    let t : Typesetter := {}
    let lines := ["@plugin demo-plugin".toList, "@begin li".toList, "@set width 12".toList,
      "@end margin".toList, "alpha **beta** gamma".toList, "# note".toList, "one".toList]
    let p : Paragraph := { text := "gamma one".toList, length := 9, hasWords := true }
    t.paragraph = none ∧ (t.fed lines).paragraph = some p ∧
      (t.fed lines).settings.pre = false ∧
      ((Text.words p.text).length ≤ 1 ∨ p.text.length < (t.fed lines).settings.width) ∧
      ∃ before since, lines = before ++ since ∧ t.Since before since ∧
        (t.fed lines).flush.blocks = (t.fed before).blocks.feed (Passage.lines
          ⟨(t.fed before).settings, since.filter fun line => !isComment line⟩) := by
  intro t lines p
  have hp : (t.fed lines).paragraph = some p := by decide +kernel
  exact ⟨rfl, hp, underway_of_fed rfl hp⟩

end Typesetter

end PlainPage
