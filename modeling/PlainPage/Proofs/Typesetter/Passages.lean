import PlainPage.Proofs.Filter.Standard
import PlainPage.Proofs.Layout.Wrapping
import PlainPage.Proofs.Typesetter.Loading
import PlainPage.Proofs.Typesetter.Outline

/-!
# Flat documents

A flat document has no blocks: besides prose it only sets and unsets the page width, the
alignment and the indent.  Its page can be told from the lines as a whole.  They fall into
passages, which are runs of prose between blank lines and directives; comments are not
there at all.  Each passage is wrapped greedily and its lines are padded, under the
settings in force at the passage.

Main results:

- Definition `passages` cuts a flat document into its passages.
- Theorem `passages_of_break` says that a blank line or a directive separates passages.
- Theorems `Typesetter.Filling.feedProse` and `Typesetter.Filling.flush` say how a document
  fills a passage.
- Theorem `Typesetter.finish_flatLines` says that the page of a flat document is made of its
  passages.
-/

namespace PlainPage

/-! ## Settings along the lines -/

/-- The settings after a line that at most writes to them; a write that is refused changes
nothing. -/
def Settings.after (s : Settings) (line : Text) : Settings :=
  match Directive.ofLine? line with
  | some (.ok (.set name value)) => (s.set name value).toOption.getD s
  | some (.ok (.unset name)) => ((s.unset name).map (·.2)).toOption.getD s
  | _ => s

/-- Lines with the settings in force at each. -/
def inForce (s : Settings) : List Text → List (Settings × Text)
  | [] => []
  | line :: rest => (s, line) :: inForce (s.after line) rest

/-- A line without a directive changes no setting. -/
theorem Settings.after_of_plain (s : Settings) {line : Text}
    (h : Directive.ofLine? line = none) : s.after line = s := by
  simp [after, h]

/-- Lines that are no directives leave the settings in force. -/
theorem inForce_append (s : Settings) {prose : List Text} (rest : List Text)
    (h : ∀ line ∈ prose, Directive.ofLine? line = none) :
    inForce s (prose ++ rest) = prose.map (s, ·) ++ inForce s rest := by
  induction prose with
  | nil => rfl
  | cons line more ih =>
    rw [List.forall_mem_cons] at h
    rw [List.cons_append, inForce, s.after_of_plain h.1, ih h.2]
    rfl

/-! ## Passages -/

/-- Whether a line ends the passage before it: a directive or a blank line. -/
def endsPassage (line : Text) : Bool :=
  (Directive.ofLine? line).isSome || Text.isBlank line

/-- A run of prose, with the settings in force at its lines. -/
structure Passage where
  settings : Settings
  prose : List Text

namespace Passage

/-- The passage that a run of lines is, if there are any. -/
def ofRun? : List (Settings × Text) → Option Passage
  | [] => none
  | (settings, line) :: rest => some { settings, prose := line :: rest.map (·.2) }

/-- The words of a passage, with its emphasis applied line by line. -/
def words (p : Passage) : List Text :=
  p.prose.flatMap fun line => Text.words (emphasize line)

/-- The lines of a passage on the page. -/
def lines (p : Passage) : List Text :=
  (wrap p.settings.width (if p.settings.indent then indentWidth else 0) p.words).map
    (p.settings.alignment.pad p.settings.width)

end Passage

/-- The passages of a flat document: its runs of lines, without the comments, between those
that end a passage. -/
def passages (s : Settings) (lines : List Text) : List Passage :=
  (((inForce s lines).filter fun line => !isComment line.2).splitOnP
    fun line => endsPassage line.2).filterMap Passage.ofRun?

/-- A line that ends a passage is no comment. -/
theorem isComment_of_endsPassage {line : Text} (h : endsPassage line = true) :
    isComment line = false := by
  cases hvisible : line.dropWhile isWhite with
  | nil => simp [isComment, hvisible]
  | cons first rest =>
    have hfirst : first ≠ '#' := by
      rintro rfl
      unfold endsPassage at h
      rw [Bool.or_eq_true] at h
      rcases h with hdirective | hblank
      · simp [Directive.ofLine?, afterMarker?, hvisible] at hdirective
      · have hmem : '#' ∈ line := (List.dropWhile_suffix isWhite).subset (by simp [hvisible])
        have hwhite : isWhite '#' = true := List.all_eq_true.1 hblank '#' hmem
        revert hwhite
        decide
    simp [isComment, hvisible, hfirst]

/-- A line of prose: no directive, no comment and not blank. -/
structure IsProse (line : Text) : Prop where
  plain : Directive.ofLine? line = none
  visible : isComment line = false
  filled : Text.isBlank line = false

/-- Prose goes on with the passage. -/
theorem IsProse.endsPassage {line : Text} (h : IsProse line) : endsPassage line = false := by
  simp [PlainPage.endsPassage, h.plain, h.filled]

section Passages

variable {s : Settings} {prose : List Text} (hprose : ∀ line ∈ prose, IsProse line)
include hprose

/-- Lines of prose go through to the passages. -/
theorem filter_inForce_of_prose (rest : List Text) :
    (inForce s (prose ++ rest)).filter (fun line => !isComment line.2) =
      prose.map (s, ·) ++ (inForce s rest).filter fun line => !isComment line.2 := by
  rw [inForce_append s rest fun line hline => (hprose line hline).plain, List.filter_append]
  congr 1
  rw [List.filter_eq_self]
  intro line hline
  rcases List.mem_map.1 hline with ⟨text, htext, rfl⟩
  simp [(hprose text htext).visible]

/-- Lines of prose are one passage. -/
theorem splitOnP_of_prose :
    (prose.map (s, ·)).splitOnP (fun line => endsPassage line.2) = [prose.map (s, ·)] := by
  refine List.splitOnP_eq_singleton fun line hline => ?_
  rcases List.mem_map.1 hline with ⟨text, htext, rfl⟩
  exact (hprose text htext).endsPassage

/-- Nothing but prose is one passage. -/
theorem passages_of_prose : passages s prose = (Passage.ofRun? (prose.map (s, ·))).toList := by
  have hfilter := filter_inForce_of_prose (s := s) hprose []
  rw [List.append_nil, inForce, List.filter_nil, List.append_nil] at hfilter
  rw [passages, hfilter, splitOnP_of_prose hprose]
  rfl

/-- A comment does not separate passages. -/
theorem passages_of_comment {comment : Text} (rest : List Text)
    (hplain : Directive.ofLine? comment = none) (hcomment : isComment comment = true) :
    passages s (prose ++ comment :: rest) = passages s (prose ++ rest) := by
  have hskip : (inForce s (comment :: rest)).filter (fun line => !isComment line.2) =
      (inForce s rest).filter fun line => !isComment line.2 := by
    rw [inForce, s.after_of_plain hplain, List.filter_cons_of_neg]
    simp [hcomment]
  rw [passages, passages, filter_inForce_of_prose hprose, filter_inForce_of_prose hprose, hskip]

/-- A blank line or a directive separates passages. -/
theorem passages_of_break {between : Text} (rest : List Text)
    (hbreak : endsPassage between = true) :
    passages s (prose ++ between :: rest) =
      passages s prose ++ passages (s.after between) rest := by
  have hkept : (inForce s (between :: rest)).filter (fun line => !isComment line.2) =
      (s, between) :: (inForce (s.after between) rest).filter fun line => !isComment line.2 := by
    rw [inForce, List.filter_cons_of_pos]
    simp [isComment_of_endsPassage hbreak]
  have hsplit := List.splitOnP_append_cons (p := fun line : Settings × Text => endsPassage line.2)
    (prose.map (s, ·)) ((inForce (s.after between) rest).filter fun line => !isComment line.2)
    (show endsPassage (s, between).2 = true from hbreak)
  rw [passages_of_prose hprose, passages, filter_inForce_of_prose hprose, hkept, hsplit,
    splitOnP_of_prose hprose, List.filterMap_append]
  rfl

end Passages

/-- The lines of nothing but prose. -/
theorem lines_of_prose (s : Settings) {prose : List Text} (hprose : ∀ line ∈ prose, IsProse line) :
    (passages s prose).flatMap Passage.lines = Passage.lines { settings := s, prose } := by
  rw [passages_of_prose hprose]
  cases prose with
  | nil => rfl
  | cons line rest =>
    simp [Passage.ofRun?, Function.comp_def]

/-! ## Flat lines -/

/-- A line that is read as a directive. -/
theorem Directive.ofLine?_of_toOption {line : Text} {directive : Directive}
    (h : (Directive.ofLine? line).bind Except.toOption = some directive) :
    Directive.ofLine? line = some (.ok directive) := by
  rcases Option.bind_eq_some_iff.1 h with ⟨read, hline, hread⟩
  rw [toOption_eq_some_iff.1 hread] at hline
  exact hline

/-- A line that is no directive, or sets or unsets the page width, the alignment or the
indent. -/
inductive FlatLine (line : Text) : Prop where
  | plain (hline : Directive.ofLine? line = none)
  | set {name value : Text} (hline : Directive.ofLine? line = some (.ok (.set name value)))
      (hname : name ∈ [Settings.widthName, Settings.alignName, Settings.indentName])
  | unset {name : Text} (hline : Directive.ofLine? line = some (.ok (.unset name)))
      (hname : name ∈ [Settings.widthName, Settings.alignName, Settings.indentName])

namespace Typesetter

/-- What a line that is no directive does to a document: it is a comment, or it ends the
paragraph, or it is prose. -/
inductive PlainStep (t : Typesetter) (line : Text) : Typesetter → Prop where
  | comment (hcomment : isComment line = true) : PlainStep t line t
  | blank (hblank : Text.isBlank line = true) : PlainStep t line t.flush
  | prose (hprose : IsProse line) : PlainStep t line (t.feedProse line)

/-- What a line without a directive does outside preformatted text. -/
theorem plainStep_of_feed {t u : Typesetter} {line : Text} (hline : Directive.ofLine? line = none)
    (hpre : t.settings.pre = false) (hfeed : t.feed line = (.ok (), u)) : t.PlainStep line u := by
  cases hcomment : isComment line with
  | true =>
    rw [feed_of_comment hline hpre hcomment] at hfeed
    cases hfeed
    exact .comment hcomment
  | false =>
    cases hblank : Text.isBlank line with
    | true =>
      rw [feed_of_blank hline hpre hcomment hblank] at hfeed
      cases hfeed
      exact .blank hblank
    | false =>
      have hprose : t.feed line = (.ok (), t.feedProse line) := by
        simp [feed, hline, feedPlain, hpre, hcomment, hblank]
      rw [hprose] at hfeed
      cases hfeed
      exact .prose ⟨hline, hcomment, hblank⟩

/-- A flat document in which the page holds the lines `written` and the paragraph has been
filled with the lines of prose `pending`. -/
structure Filling (t : Typesetter) (written pending : List Text) : Prop where
  pre : t.settings.pre = false
  prose : ∀ line ∈ pending, IsProse line
  paragraph : t.paragraph.getD (.start t.settings.indent) =
    ((Paragraph.start t.settings.indent).addWords t.settings.width
      (Passage.words ⟨t.settings, pending⟩)).2
  blocks : t.blocks = ({} : Blocks).feed (written ++
    ((Paragraph.start t.settings.indent).addWords t.settings.width
      (Passage.words ⟨t.settings, pending⟩)).1.map t.align)

variable {t : Typesetter} {written pending : List Text}

/-- A document between two paragraphs. -/
theorem filling_of_none (hpre : t.settings.pre = false) (hparagraph : t.paragraph = none)
    (hblocks : t.blocks = ({} : Blocks).feed written) : t.Filling written [] where
  pre := hpre
  prose := by simp
  paragraph := by simp [hparagraph, Passage.words, Paragraph.addWords]
  blocks := by simp [hblocks, Passage.words, Paragraph.addWords]

/-- The pending text is the line being filled, aligned. -/
theorem pendingLines_eq (t : Typesetter) :
    t.pendingLines = (t.paragraph.getD (.start t.settings.indent)).lastLine.map t.align := by
  unfold pendingLines Paragraph.lastLine
  cases t.paragraph with
  | none => simp [Paragraph.hasWords_start]
  | some p => cases hwords : p.hasWords <;> simp [hwords]

/-- Prose goes to the passage that is being filled. -/
theorem Filling.feedProse (h : t.Filling written pending) {line : Text} (hline : IsProse line) :
    (t.feedProse line).Filling written (pending ++ [line]) := by
  have hwords : Passage.words ⟨t.settings, pending ++ [line]⟩ =
      Passage.words ⟨t.settings, pending⟩ ++ Text.words (emphasize line) := by
    simp [Passage.words]
  refine ⟨h.pre, ?_, ?_, ?_⟩
  · intro other hother
    rcases List.mem_append.1 hother with hold | hnew
    · exact h.prose other hold
    · rw [List.mem_singleton.1 hnew]
      exact hline
  · simp only [Typesetter.feedProse, Option.getD_some]
    rw [hwords, Paragraph.addWords_append, h.paragraph, Paragraph.addLine]
  · simp only [Typesetter.feedProse]
    rw [hwords, Paragraph.addWords_append, h.paragraph, Paragraph.addLine, h.blocks,
      Blocks.feed_feed, List.append_assoc, List.map_append]
    rfl

/-- At the end of a paragraph the passage is on the page. -/
theorem Filling.flush (h : t.Filling written pending) :
    t.flush.Filling (written ++ Passage.lines ⟨t.settings, pending⟩) [] := by
  refine filling_of_none h.pre rfl ?_
  have hlines : ((Paragraph.start t.settings.indent).addWords t.settings.width
        (Passage.words ⟨t.settings, pending⟩)).1.map t.align ++ t.pendingLines =
      Passage.lines ⟨t.settings, pending⟩ := by
    rw [pendingLines_eq, h.paragraph, ← List.map_append, Paragraph.addWords_start]
    rfl
  rw [Typesetter.flush, h.blocks, Blocks.feed_feed, List.append_assoc, hlines]

/-- The page of a document that ends here. -/
theorem Filling.finish (h : t.Filling written pending) :
    t.finish = .ok (written ++ Passage.lines ⟨t.settings, pending⟩) := by
  have hblocks := h.flush.blocks
  rw [Typesetter.finish, hblocks, (Blocks.stacked_empty.feed _).pageLines rfl]
  simp [Passage.words, Paragraph.addWords, Blocks.feed, Block.page]

/-- A flat directive leaves lines alone that are taken as they are. -/
theorem preName_ne_of_flat {name : Text}
    (h : name ∈ [Settings.widthName, Settings.alignName, Settings.indentName]) :
    Settings.preName ≠ name := by
  rintro rfl
  revert h
  decide

/-- A write to a setting of flat documents ends the passage. -/
theorem Filling.withSettings {u : Typesetter} (h : t.Filling written pending)
    {change : Settings.Change}
    (hname : change.name ∈ [Settings.widthName, Settings.alignName, Settings.indentName])
    (hset : t.flush.withSettings (t.settings.apply change) = (.ok (), u)) :
    t.settings.apply change = .ok u.settings ∧
      u.Filling (written ++ Passage.lines ⟨t.settings, pending⟩) [] := by
  rcases withSettings_eq_ok_iff.1 hset with ⟨s, happly, rfl⟩
  have hkept := (Settings.writes_of_apply happly).get?_of_ne (preName_ne_of_flat hname)
  have hblocks := h.flush.blocks
  refine ⟨happly, filling_of_none ((Settings.pre_congr hkept).trans h.pre) rfl ?_⟩
  simpa [Passage.words, Paragraph.addWords] using hblocks

/-- What a flat line does to a document that fills a passage: it is skipped, or it goes to the
passage, or it ends the passage. -/
inductive FlatStep (t : Typesetter) (written pending : List Text) (line : Text) :
    Typesetter → Prop where
  | skip (hplain : Directive.ofLine? line = none) (hcomment : isComment line = true) :
      FlatStep t written pending line t
  | fill {u : Typesetter} (hprose : IsProse line) (hsettings : u.settings = t.settings)
      (hu : u.Filling written (pending ++ [line])) : FlatStep t written pending line u
  | stop {u : Typesetter} (hends : endsPassage line = true)
      (hsettings : u.settings = t.settings.after line)
      (hu : u.Filling (written ++ Passage.lines ⟨t.settings, pending⟩) []) :
      FlatStep t written pending line u

/-- One line of a flat document fills the page as its passages do. -/
theorem Filling.feed {u : Typesetter} (h : t.Filling written pending) {line : Text}
    (hflat : FlatLine line) (hfeed : t.feed line = (.ok (), u)) :
    t.FlatStep written pending line u := by
  cases hflat with
  | plain hline =>
    cases plainStep_of_feed hline h.pre hfeed with
    | comment hcomment => exact .skip hline hcomment
    | blank hblank =>
      exact .stop (by simp [endsPassage, hblank]) (t.settings.after_of_plain hline).symm h.flush
    | prose hprose => exact .fill hprose rfl (h.feedProse hprose)
  | @set name value hline hname =>
    rw [feed_of_directive hline] at hfeed
    have hchange : (Settings.Change.set name value).name ∈
        [Settings.widthName, Settings.alignName, Settings.indentName] := hname
    rcases h.withSettings hchange hfeed with ⟨happly, hu⟩
    have hset : t.settings.set name value = .ok u.settings := happly
    refine .stop (by simp [endsPassage, hline]) ?_ hu
    simp [Settings.after, hline, hset, Except.toOption]
  | @unset name hline hname =>
    rw [feed_of_directive hline] at hfeed
    have hchange : (Settings.Change.unset name).name ∈
        [Settings.widthName, Settings.alignName, Settings.indentName] := hname
    rcases h.withSettings hchange hfeed with ⟨happly, hu⟩
    have hunset : (t.settings.unset name).map (·.2) = .ok u.settings := happly
    refine .stop (by simp [endsPassage, hline]) ?_ hu
    simp [Settings.after, hline, hunset, Except.toOption]

/-- A document that is filling a passage ends with the passages of all its lines. -/
theorem Filling.finish_of_feedAll {u : Typesetter} {lines : List Text}
    (h : t.Filling written pending) (hflat : ∀ line ∈ lines, FlatLine line)
    (hfeed : t.feedAll lines = (.ok (), u)) :
    u.finish =
      .ok (written ++ (passages t.settings (pending ++ lines)).flatMap Passage.lines) := by
  induction lines generalizing t written pending with
  | nil =>
    cases hfeed
    rw [List.append_nil, lines_of_prose _ h.prose]
    exact h.finish
  | cons line rest ih =>
    rw [List.forall_mem_cons] at hflat
    rcases feedAll_cons_eq_ok_iff.1 hfeed with ⟨next, hline, hrest⟩
    cases h.feed hflat.1 hline with
    | skip hplain hcomment =>
      rw [passages_of_comment h.prose rest hplain hcomment]
      exact ih h hflat.2 hrest
    | fill hprose hsettings hnext =>
      have hlast := ih hnext hflat.2 hrest
      rw [hsettings, List.append_assoc] at hlast
      exact hlast
    | stop hends hsettings hnext =>
      rw [passages_of_break h.prose rest hends, List.flatMap_append, lines_of_prose _ h.prose,
        ← List.append_assoc, ← hsettings]
      exact ih hnext hflat.2 hrest

/-- At the start of a document no lines are taken as they are. -/
theorem pre_prepared (c : Config) (catalog : Table Plugin) (ids : List Text) :
    (prepared c catalog ids).settings.pre = false := by
  calc (prepared c catalog ids).settings.pre
      = c.settings.pre := Settings.pre_congr ((prepared_start c catalog ids).settings _ _ rfl)
    _ = false := rfl

/-- A document starts on an empty page, before its first passage. -/
theorem filling_prepared (c : Config) (catalog : Table Plugin) (ids : List Text) :
    (prepared c catalog ids).Filling [] [] := by
  refine filling_of_none (pre_prepared c catalog ids) (paragraph_prepared c catalog ids) ?_
  rw [blocks_prepared, Blocks.feed_nil]

/-- The page of a flat document is made of its passages, each wrapped and padded under the
settings in force at it. -/
theorem finish_flatLines (c : Config) (catalog : Table Plugin) (ids : List Text)
    {lines : List Text} {u : Typesetter} (hflat : ∀ line ∈ lines, FlatLine line)
    (hfeed : (prepared c catalog ids).feedAll lines = (.ok (), u)) :
    u.finish =
      .ok ((passages (prepared c catalog ids).settings lines).flatMap Passage.lines) :=
  (filling_prepared c catalog ids).finish_of_feedAll hflat hfeed

/-- Two passages on a narrow page: a comment within the first one, and an indent for the
second one. -/
theorem finish_flatLines_narrow :
    let lines := ["@set width 12".toList, "alpha beta gamma".toList, "# note".toList,
      "**delta**".toList, "@set indent on".toList, "one".toList, [], "@unset indent".toList]
    ((prepared {} Plugin.catalog []).feedAll lines).2.finish =
      .ok ["alpha beta  ".toList, "gamma DELTA ".toList, "   one      ".toList] := by
  intro lines
  obtain ⟨hplain, hwidth, hindent, hunset, haccepted, hpassages⟩ :
      (∀ line ∈ ["alpha beta gamma".toList, "# note".toList, "**delta**".toList, "one".toList, []],
        Directive.ofLine? line = none) ∧
      (Directive.ofLine? "@set width 12".toList).bind Except.toOption =
        some (.set Settings.widthName "12".toList) ∧
      (Directive.ofLine? "@set indent on".toList).bind Except.toOption =
        some (.set Settings.indentName "on".toList) ∧
      (Directive.ofLine? "@unset indent".toList).bind Except.toOption =
        some (.unset Settings.indentName) ∧
      ((prepared {} Plugin.catalog []).feedAll lines).1.isOk = true ∧
      (passages (prepared {} Plugin.catalog []).settings lines).flatMap Passage.lines =
        ["alpha beta  ".toList, "gamma DELTA ".toList, "   one      ".toList] := by
    decide +kernel
  have hflat : ∀ line ∈ lines, FlatLine line := by
    intro line hline
    simp only [lines, List.mem_cons, List.not_mem_nil, or_false] at hline
    rcases hline with rfl | rfl | rfl | rfl | rfl | rfl | rfl | rfl
    · exact .set (Directive.ofLine?_of_toOption hwidth) (by simp)
    · exact .plain (hplain _ (by simp))
    · exact .plain (hplain _ (by simp))
    · exact .plain (hplain _ (by simp))
    · exact .set (Directive.ofLine?_of_toOption hindent) (by simp)
    · exact .plain (hplain _ (by simp))
    · exact .plain (hplain _ (by simp))
    · exact .unset (Directive.ofLine?_of_toOption hunset) (by simp)
  rw [← hpassages]
  exact finish_flatLines {} Plugin.catalog [] hflat (eq_ok_of_isOk haccepted)

end Typesetter

end PlainPage
