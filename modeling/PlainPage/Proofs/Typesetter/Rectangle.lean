import PlainPage.Proofs.Typesetter.Brackets
import PlainPage.Proofs.Typesetter.Passages

/-!
# Pages that stay rectangular

A block under a standard filter is set on a narrower page, and its filter fills up what the
page lacks.  So the page around it stays rectangular, provided that the block and the words
fit.  The proof is by recursion over the outline of a document: a block is set on an empty
page of its own, whose width is that in force inside it.

Main results:

- Definition `Typesetter.Fits` says which lines fit on the page in force.
- Theorem `Typesetter.Rectangular.feed` says that a line which fits and opens or closes no
  block keeps the page rectangular.
- Theorem `Typesetter.Rectangular.feedAll_outline` says the same of the lines of an outline.
- Theorem `Typesetter.length_of_mem_finish` says that the page of a document whose lines all
  fit is rectangular.
-/

namespace PlainPage

/-! ## Lines that fit -/

instance decidableIsProse (line : Text) : Decidable (IsProse line) :=
  decidable_of_iff (Directive.ofLine? line = none ∧ isComment line = false ∧
      Text.isBlank line = false)
    ⟨fun ⟨hplain, hvisible, hfilled⟩ => ⟨hplain, hvisible, hfilled⟩,
      fun ⟨hplain, hvisible, hfilled⟩ => ⟨hplain, hvisible, hfilled⟩⟩

namespace Typesetter

/-- The columns in front of the next word of prose: those of the indent, if the word is the
first one of its paragraph. -/
def indentation (t : Typesetter) : Nat :=
  if (t.paragraph.getD (.start t.settings.indent)).hasWords then 0
  else Paragraph.gap t.settings.indent

/-- Whether the words of a line of prose fit on the page in force, the first one also where
it stands. -/
def WordsFit (t : Typesetter) (line : Text) : Prop :=
  (∀ word ∈ Text.words (emphasize line), word.length ≤ t.settings.width) ∧
    ∀ word ∈ (Text.words (emphasize line)).head?, t.indentation + word.length ≤ t.settings.width

/-- Whether a directive fits on the page in force: it opens a block under a standard filter
for which the page is wide enough, or closes a block, or writes to the alignment or the
indent, or writes blank lines. -/
def Admits (t : Typesetter) : Directive → Prop
  | .openBlock name args => Filter.FitsOn name args t.settings.width
  | .closeBlock _ => True
  | .set name _ => name ∈ [Settings.alignName, Settings.indentName]
  | .unset name => name ∈ [Settings.alignName, Settings.indentName]
  | .run name _ => name = verticalSpaceName
  | .enable _ => False

/-- Whether a line fits on the page in force.  Comments and blank lines always do. -/
def Fits (t : Typesetter) (line : Text) : Prop :=
  match Directive.ofLine? line with
  | none => IsProse line → t.WordsFit line
  | some (.ok directive) => t.Admits directive
  | some (.error _) => False

/-- Whether every line fits on the page that is in force when its turn comes. -/
def FitsAll (t : Typesetter) : List Text → Prop
  | [] => True
  | line :: rest => t.Fits line ∧ (t.feed line).2.FitsAll rest

instance decidableWordsFit (t : Typesetter) (line : Text) : Decidable (t.WordsFit line) :=
  inferInstanceAs (Decidable ((∀ word ∈ _, _) ∧ ∀ word ∈ _, _))

instance decidableAdmits (t : Typesetter) : (directive : Directive) →
    Decidable (t.Admits directive)
  | .openBlock name args => inferInstanceAs (Decidable (Filter.FitsOn name args _))
  | .closeBlock _ => inferInstanceAs (Decidable True)
  | .set name _ => inferInstanceAs (Decidable (name ∈ _))
  | .unset name => inferInstanceAs (Decidable (name ∈ _))
  | .run name _ => inferInstanceAs (Decidable (name = _))
  | .enable _ => inferInstanceAs (Decidable False)

instance decidableFits (t : Typesetter) (line : Text) : Decidable (t.Fits line) :=
  match hread : Directive.ofLine? line with
  | none => decidable_of_iff (IsProse line → t.WordsFit line) (by simp [Fits, hread])
  | some (.ok directive) => decidable_of_iff (t.Admits directive) (by simp [Fits, hread])
  | some (.error _) => .isFalse (by simp [Fits, hread])

instance decidableFitsAll (t : Typesetter) : (lines : List Text) → Decidable (t.FitsAll lines)
  | [] => inferInstanceAs (Decidable True)
  | line :: rest =>
    have := decidableFitsAll (t.feed line).2 rest
    inferInstanceAs (Decidable (t.Fits line ∧ (t.feed line).2.FitsAll rest))

theorem FitsAll.next {t next : Typesetter} {line : Text} {rest : List Text}
    (h : t.FitsAll (line :: rest)) (hfeed : t.feed line = (.ok (), next)) : next.FitsAll rest := by
  have hrest := h.2
  rw [hfeed] at hrest
  exact hrest

/-- Lines in two parts fit part by part. -/
theorem FitsAll.of_append {t next : Typesetter} {first second : List Text}
    (h : t.FitsAll (first ++ second)) (hfeed : t.feedAll first = (.ok (), next)) :
    t.FitsAll first ∧ next.FitsAll second := by
  induction first generalizing t with
  | nil =>
    cases hfeed
    exact ⟨trivial, h⟩
  | cons line rest ih =>
    rcases feedAll_cons_eq_ok_iff.1 hfeed with ⟨after, hline, hrest⟩
    rcases ih (FitsAll.next h hline) hrest with ⟨hfirst, hsecond⟩
    refine ⟨⟨h.1, ?_⟩, hsecond⟩
    rw [hline]
    exact hfirst

/-- What fits inside blocks fits on a page. -/
theorem FitsAll.of_inside {t u : Typesetter} {base : Blocks} {lines : List Text}
    (h : (t.inside base).FitsAll lines) (hfeed : t.feedAll lines = (.ok (), u)) :
    t.FitsAll lines := by
  induction lines generalizing t with
  | nil => trivial
  | cons line rest ih =>
    rcases feedAll_cons_eq_ok_iff.1 hfeed with ⟨next, hline, hrest⟩
    have htake : t.takeAll [.feed line] = (.ok (), next) :=
      takeAll_cons_eq_ok_iff.2 ⟨next, hline, rfl⟩
    rcases takeAll_cons_eq_ok_iff.1 (takeAll_inside htake base) with ⟨after, hinside, hafter⟩
    cases hafter
    refine ⟨h.1, ?_⟩
    rw [hline]
    exact ih (FitsAll.next h hinside) hrest

/-- The lines of a block that fit in it fit on the page of their own on which they are
set. -/
theorem setsBlock_of_fitsAll {t first last next : Typesetter} {opening : OpeningLine}
    {closing : ClosingLine} {body : Outline} (hopening : t.feed opening.text = (.ok (), first))
    (hbody : first.feedAll body.lines = (.ok (), last))
    (hclosing : last.feed closing.text = (.ok (), next)) (hfits : first.FitsAll body.lines) :
    t.flush.SetsBlock opening closing (fun page inner =>
      page.feedAll body.lines = (.ok (), inner) ∧ page.FitsAll body.lines) next := by
  have hset := feed_block_iff.1 ⟨first, last, hopening, hbody, hclosing⟩
  cases hset with
  | @intro filter settings restored marks inner lines result hfilter hrun hinner hfinish hname
      hrestore hclose =>
    rcases (feed_opening_eq_ok_iff opening).1 hopening with
      ⟨other, found, depths, hother, hopened, rfl⟩
    -- The page is the one that the opening line leaves, so the two runs agree.
    have hfilters := hother.symm.trans hfilter
    cases hfilters
    have hruns := hopened.symm.trans hrun
    cases hruns
    exact .intro hfilter hrun ⟨hinner, FitsAll.of_inside hfits hinner⟩ hfinish hname hrestore hclose

/-! ## Rectangular pages -/

/-- A page that is rectangular so far. -/
structure Rectangular (t : Typesetter) : Prop where
  filters : t.repertoire.filters.Extends Filter.standard
  commands : t.repertoire.commands.Extends Command.standard
  pre : t.settings.pre = false
  page : ∀ line ∈ t.blocks.innermost.lines, line.length = t.settings.width
  paragraph : (t.paragraph.getD (.start t.settings.indent)).Fits t.settings.width
  /-- A paragraph without words is as it started. -/
  fresh : (t.paragraph.getD (.start t.settings.indent)).hasWords = false →
    t.paragraph.getD (.start t.settings.indent) = .start t.settings.indent

/-- What a rectangular document keeps around a block: what it can name, all values of the
page width, and all values of the switch for lines that are taken as they are. -/
structure Keeps (t u : Typesetter) : Prop where
  repertoire : u.repertoire = t.repertoire
  width : u.settings.entries.get? Settings.widthName = t.settings.entries.get? Settings.widthName
  pre : u.settings.entries.get? Settings.preName = t.settings.entries.get? Settings.preName

theorem Keeps.refl (t : Typesetter) : t.Keeps t :=
  ⟨rfl, rfl, rfl⟩

theorem Keeps.trans {t u v : Typesetter} (h : t.Keeps u) (hnext : u.Keeps v) : t.Keeps v where
  repertoire := hnext.repertoire.trans h.repertoire
  width := hnext.width.trans h.width
  pre := hnext.pre.trans h.pre

/-- The end of a paragraph changes no setting. -/
theorem keeps_flush (t : Typesetter) : t.Keeps t.flush :=
  ⟨rfl, rfl, rfl⟩

namespace Rectangular

variable {t u : Typesetter}

/-- Lines as wide as the page keep it rectangular. -/
theorem write (h : t.Rectangular) {lines : List Text}
    (hlines : ∀ line ∈ lines, line.length = t.settings.width) : (t.write lines).Rectangular where
  filters := h.filters
  commands := h.commands
  pre := h.pre
  page line hline := by
    rcases List.mem_append.1 hline with hold | hnew
    · exact h.page line hold
    · exact hlines line hnew
  paragraph := h.paragraph
  fresh := h.fresh

/-- Between two paragraphs, other settings keep the page rectangular if they leave its width
alone. -/
theorem of_keeps (h : t.Rectangular) (hkeeps : t.Keeps u) (hblocks : u.blocks = t.blocks)
    (hparagraph : u.paragraph = none) : u.Rectangular where
  filters := by
    rw [hkeeps.repertoire]
    exact h.filters
  commands := by
    rw [hkeeps.repertoire]
    exact h.commands
  pre := (Settings.pre_congr hkeeps.pre).trans h.pre
  page := by
    rw [hblocks, Settings.width_congr hkeeps.width]
    exact h.page
  paragraph := by
    rw [hparagraph]
    exact Paragraph.fits_start ..
  fresh _ := by
    rw [hparagraph]
    rfl

/-- A line that fits is as wide as the page when it is padded. -/
theorem length_align {line : Text} (h : line.length ≤ t.settings.width) :
    (t.align line).length = t.settings.width := by
  rw [align, Alignment.length_pad]
  exact Nat.max_eq_left h

/-- Pending lines are as wide as the page. -/
theorem length_of_mem_pendingLines (h : t.Rectangular) :
    ∀ line ∈ t.pendingLines, line.length = t.settings.width := by
  intro line hline
  rw [pendingLines_eq] at hline
  rcases List.mem_map.1 hline with ⟨text, htext, rfl⟩
  unfold Paragraph.lastLine at htext
  split at htext
  · rename_i hwords
    rw [List.mem_singleton.1 htext]
    exact length_align (h.paragraph.text_le hwords)
  · cases htext

/-- Ending a paragraph keeps all lines as wide as the page. -/
theorem flush (h : t.Rectangular) : t.flush.Rectangular :=
  (h.write h.length_of_mem_pendingLines).of_keeps (u := t.flush) ⟨rfl, rfl, rfl⟩ rfl rfl

/-- Words that fit keep the page rectangular. -/
theorem feedProse (h : t.Rectangular) {line : Text} (hfits : t.WordsFit line) :
    (t.feedProse line).Rectangular := by
  have hfirst : (t.paragraph.getD (.start t.settings.indent)).hasWords = false →
      ∀ word ∈ (Text.words (emphasize line)).head?,
        (t.paragraph.getD (.start t.settings.indent)).length + word.length ≤ t.settings.width := by
    intro hwords word hword
    have hroom := hfits.2 word hword
    simp only [indentation, hwords, Bool.false_eq_true, if_false] at hroom
    rw [h.fresh hwords, Paragraph.length_start]
    exact hroom
  rcases h.paragraph.addWords hfits.1 hfirst with ⟨hlines, hparagraph⟩
  refine ⟨h.filters, h.commands, h.pre, ?_, hparagraph, ?_⟩
  · intro row hrow
    rcases List.mem_append.1 hrow with hold | hnew
    · exact h.page row hold
    · rcases List.mem_map.1 hnew with ⟨text, htext, rfl⟩
      exact length_align (hlines text htext)
  · intro hwords
    have hnone := Paragraph.addWords_of_not_hasWords hwords
    exact hnone.trans (h.fresh (hnone ▸ hwords))

/-- A write to another setting keeps the page rectangular. -/
theorem withSettings (h : t.Rectangular) {change : Settings.Change}
    (hname : change.name ∈ [Settings.alignName, Settings.indentName])
    (hset : t.flush.withSettings (t.settings.apply change) = (.ok (), u)) :
    u.Rectangular ∧ t.Keeps u := by
  rcases withSettings_eq_ok_iff.1 hset with ⟨s, happly, rfl⟩
  have hwrites := Settings.writes_of_apply happly
  have hother : ∀ name ∈ [Settings.widthName, Settings.preName], name ≠ change.name := by
    intro name hmem
    simp only [List.mem_cons, List.not_mem_nil, or_false] at hmem hname
    rcases hmem with rfl | rfl <;> rcases hname with heq | heq <;> rw [heq] <;> decide
  have hkeeps : t.flush.Keeps { t.flush with settings := s } :=
    ⟨rfl, hwrites.get?_of_ne (hother _ (by simp)), hwrites.get?_of_ne (hother _ (by simp))⟩
  exact ⟨h.flush.of_keeps hkeeps rfl rfl, (keeps_flush t).trans hkeeps⟩

/-- The command for blank lines writes lines as wide as the page, and changes no setting. -/
theorem run_verticalSpace (args : List Text) (s : Settings) :
    ((Command.verticalSpace args).run s).settings = s ∧
      ∀ line ∈ ((Command.verticalSpace args).run s).lines, line.length = s.width := by
  have hblank : ∀ count, ((Command.verticalSpace.blank count).run s).settings = s ∧
      ∀ line ∈ ((Command.verticalSpace.blank count).run s).lines, line.length = s.width := by
    intro count
    refine ⟨rfl, fun line hline => ?_⟩
    rw [Command.verticalSpace.blank, Action.run_inspect, Action.run_feed, Action.run_done,
      List.append_nil] at hline
    rw [(List.mem_replicate.1 hline).2]
    exact Text.length_spaces _
  cases args with
  | nil => exact hblank 1
  | cons raw rest =>
    cases hcount : readCount verticalSpaceName raw "expected a line count" with
    | error error => simp [Command.verticalSpace, hcount]
    | ok count =>
      simp only [Command.verticalSpace, hcount]
      exact hblank count

/-- So does vertical space, which keeps the repertoire and the page width too. -/
theorem callVerticalSpace (h : t.Rectangular) (args : List Text) :
    (t.callCommand verticalSpaceName args).2.Rectangular ∧
      t.Keeps (t.callCommand verticalSpaceName args).2 := by
  have hget := h.commands verticalSpaceName Command.verticalSpace rfl
  rcases run_verticalSpace args t.settings with ⟨hsettings, hlines⟩
  have hcall : (t.callCommand verticalSpaceName args).2 =
      t.write ((Command.verticalSpace args).run t.settings).lines := by
    simp only [callCommand, hget, hsettings, Typesetter.write]
  rw [hcall]
  exact ⟨h.write hlines, ⟨rfl, rfl, rfl⟩⟩

/-- A line that fits and opens or closes no block keeps the page rectangular. -/
theorem feed (h : t.Rectangular) {line : Text} (hstays : Nesting.ofLine line = .stays)
    (hfits : t.Fits line) (hfeed : t.feed line = (.ok (), u)) : u.Rectangular ∧ t.Keeps u := by
  unfold Typesetter.Fits at hfits
  cases hread : Directive.ofLine? line with
  | none =>
    rw [hread] at hfits
    cases plainStep_of_feed hread h.pre hfeed with
    | comment => exact ⟨h, .refl t⟩
    | blank => exact ⟨h.flush, keeps_flush t⟩
    | prose hprose => exact ⟨h.feedProse (hfits hprose), ⟨rfl, rfl, rfl⟩⟩
  | some read =>
    cases read with
    | error error =>
      rw [hread] at hfits
      cases hfits
    | ok directive =>
      rw [hread] at hfits
      rw [feed_of_directive hread] at hfeed
      cases directive with
      | openBlock => cases (Nesting.ofLine_eq_opens.2 hread).symm.trans hstays
      | closeBlock => cases (Nesting.ofLine_eq_closes.2 hread).symm.trans hstays
      | set name value =>
        have hname : (Settings.Change.set name value).name ∈
            [Settings.alignName, Settings.indentName] := hfits
        exact h.withSettings hname hfeed
      | unset name =>
        have hname : (Settings.Change.unset name).name ∈
            [Settings.alignName, Settings.indentName] := hfits
        exact h.withSettings hname hfeed
      | enable => cases hfits
      | run name args =>
        have hname : name = verticalSpaceName := hfits
        subst hname
        have hcall := h.flush.callVerticalSpace args
        have hu : (t.flush.callCommand verticalSpaceName args).2 = u := congrArg Prod.snd hfeed
        rw [hu] at hcall
        exact ⟨hcall.1, (keeps_flush t).trans hcall.2⟩

/-! ## Blocks -/

/-- An empty page is rectangular. -/
theorem page_of (h : t.Rectangular) {settings : Settings} (hpre : settings.pre = false) :
    (t.page settings).Rectangular where
  filters := h.filters
  commands := h.commands
  pre := hpre
  page line hline := by cases hline
  paragraph := Paragraph.fits_start ..
  fresh _ := rfl

/-- A block that fits keeps the page around it rectangular, if its lines keep a page inside
it rectangular. -/
theorem setsBlock (h : t.Rectangular) {opening : OpeningLine} {closing : ClosingLine}
    {body : Outline} (hfits : Filter.FitsOn opening.filter opening.args t.settings.width)
    (hbody : ∀ {page inner : Typesetter}, page.Rectangular → page.FitsAll body.lines →
      page.feedAll body.lines = (.ok (), inner) → inner.Rectangular ∧ page.Keeps inner)
    (hset : t.SetsBlock opening closing (fun page inner =>
      page.feedAll body.lines = (.ok (), inner) ∧ page.FitsAll body.lines) u) :
    u.Rectangular ∧ t.Keeps u := by
  cases hset with
  | @intro filter settings restored marks inner lines result hfilter hopening hinner hfinish _
      hrestore hclose =>
    rcases hinner with ⟨hfeed, hinside⟩
    rcases Filter.exists_frames hfits with ⟨standard, width, hstandard, hframes⟩
    have hsame := (h.filters _ _ hstandard).symm.trans hfilter
    cases hsame
    rcases hframes.opening t.settings ⟨settings, marks⟩ rfl hopening with ⟨hwidth, hpre⟩
    have hpage : (t.page settings).Rectangular := h.page_of (hpre.trans h.pre)
    rcases hbody hpage hinside hfeed with ⟨hrectangular, hkeeps⟩
    have hinner : inner.settings.width = width := (Settings.width_congr hkeeps.width).trans hwidth
    -- Inside the block, the lines are as wide as the page that the opening left.
    have hlines : ∀ line ∈ lines, line.length = width := by
      have hdepth : inner.blocks.depth = 0 := (staysAbove_outline hfeed (Nat.zero_le _)).1
      have hlast := (finish_of_page hfeed hdepth).symm.trans hfinish
      cases hlast
      rw [← hinner]
      exact hrectangular.flush.page
    -- Around the block, the settings have their old values again.
    have habove := (MarkedSettings.above_start t.settings).run (filter.opening opening.args)
    rw [hopening] at habove
    have houter : t.Keeps
        { inner with settings := restored, blocks := t.blocks.feed result, paragraph := none } :=
      ⟨hkeeps.repertoire, habove.get?_of_restore_of_eq hkeeps.width hrestore,
        habove.get?_of_restore_of_eq hkeeps.pre hrestore⟩
    have hresult := hframes.closing lines restored result (Settings.width_congr houter.width)
      hclose hlines
    have hwritten : (t.write result).Keeps
        { inner with settings := restored, blocks := t.blocks.feed result, paragraph := none } :=
      ⟨houter.repertoire, houter.width, houter.pre⟩
    exact ⟨(h.write hresult).of_keeps hwritten rfl rfl, houter⟩

/-- Lines that fit and have an outline keep the page rectangular. -/
theorem feedAll_outline {o : Outline} (h : t.Rectangular) (hfits : t.FitsAll o.lines)
    (hfeed : t.feedAll o.lines = (.ok (), u)) : u.Rectangular ∧ t.Keeps u := by
  induction o generalizing t u with
  | done =>
    cases hfeed
    exact ⟨h, .refl t⟩
  | line l rest ih =>
    rcases feedAll_cons_eq_ok_iff.1 hfeed with ⟨next, hline, hrest⟩
    rcases h.feed l.reads hfits.1 hline with ⟨hnext, hkeeps⟩
    rcases ih hnext (FitsAll.next hfits hline) hrest with ⟨hlast, hmore⟩
    exact ⟨hlast, hkeeps.trans hmore⟩
  | block opening body closing rest ihbody ihrest =>
    rcases feedAll_cons_eq_ok_iff.1 hfeed with ⟨first, hopening, hfeed⟩
    rcases feedAll_append_eq_ok_iff.1 hfeed with ⟨last, hbody, hfeed⟩
    rcases feedAll_cons_eq_ok_iff.1 hfeed with ⟨next, hclosing, hrest⟩
    rcases FitsAll.of_append (FitsAll.next hfits hopening) hbody with ⟨hinside, hafter⟩
    have hblock : Filter.FitsOn opening.filter opening.args t.flush.settings.width := by
      have hline := hfits.1
      rw [Typesetter.Fits, Nesting.ofLine_eq_opens.1 opening.reads] at hline
      exact hline
    have hset := setsBlock_of_fitsAll hopening hbody hclosing hinside
    rcases h.flush.setsBlock hblock (fun hpage hfits hfeed => ihbody hpage hfits hfeed) hset with
      ⟨hnext, hkeeps⟩
    rcases ihrest hnext (FitsAll.next hafter hclosing) hrest with ⟨hlast, hmore⟩
    exact ⟨hlast, (keeps_flush t).trans (hkeeps.trans hmore)⟩

end Rectangular

theorem staysAbove_zero (t : Typesetter) (steps : List Step) : t.StaysAbove 0 steps := by
  induction steps generalizing t with
  | nil => exact Nat.zero_le _
  | cons step rest ih => exact ⟨Nat.zero_le _, ih _⟩

theorem width_prepared (c : Config) (catalog : Table Plugin) (ids : List Text) :
    (prepared c catalog ids).settings.width = c.settings.width :=
  Settings.width_congr ((prepared_start c catalog ids).settings _ _ rfl)

/-- A document starts on a rectangular page. -/
theorem rectangular_prepared (c : Config) (catalog : Table Plugin) (ids : List Text) :
    (prepared c catalog ids).Rectangular where
  filters := (prepared_start c catalog ids).filters
  commands := (prepared_start c catalog ids).commands
  pre := pre_prepared c catalog ids
  page := by
    rw [blocks_prepared]
    intro line hline
    cases hline
  paragraph := by
    rw [paragraph_prepared]
    exact Paragraph.fits_start ..
  fresh _ := by
    rw [paragraph_prepared]
    rfl

/-- The page of a document whose lines all fit is as wide everywhere as it was at the
start. -/
theorem length_of_mem_finish (c : Config) (catalog : Table Plugin) (ids : List Text)
    {lines page : List Text} {u : Typesetter} (hfits : (prepared c catalog ids).FitsAll lines)
    (hfeed : (prepared c catalog ids).feedAll lines = (.ok (), u)) (hfinish : u.finish = .ok page) :
    ∀ line ∈ page, line.length = c.settings.width := by
  have hstart := rectangular_prepared c catalog ids
  have hstacked : u.flush.blocks.Stacked := by
    have hall := stacked_takeAll (reachable_prepared c catalog ids).sound.stacked (lines.map .feed)
    rw [takeAll_map_feed, hfeed] at hall
    exact hall.feed _
  have hdepth : u.blocks.depth = 0 := hstacked.depth_of_pageLines hfinish
  have hzero : (prepared c catalog ids).blocks.depth = 0 := by
    rw [blocks_prepared]
    rfl
  have habove : (prepared c catalog ids).StaysAbove (prepared c catalog ids).blocks.depth
      (lines.map .feed) := by
    rw [hzero]
    exact staysAbove_zero ..
  rcases exists_outline hfeed habove (hdepth.trans hzero.symm) with ⟨o, rfl⟩
  rcases hstart.feedAll_outline hfits hfeed with ⟨hlast, hkeeps⟩
  rw [Typesetter.finish, hstacked.pageLines hdepth] at hfinish
  cases hfinish
  intro line hline
  rw [hlast.flush.page line hline, ← width_prepared c catalog ids]
  exact Settings.width_congr hkeeps.width

/-- Two columns inside a margin, with an indented paragraph and a blank line around them. -/
theorem length_of_mem_finish_columns :
    let lines := ["@set indent on".toList, "one **two** three".toList, "@begin margin 3".toList,
      "@begin twocols".toList, "@unset indent".toList, "a".toList, [], "b".toList, "@end".toList,
      "@end margin".toList, "@vspace".toList]
    let page := ["   one TWO  ".toList, "three       ".toList, "   a     b  ".toList,
      "            ".toList]
    ((prepared { width := 12 } Plugin.catalog []).feedAll lines).2.finish.toOption = some page ∧
      ∀ line ∈ page, line.length = (Config.settings { width := 12 }).width := by
  intro lines page
  obtain ⟨hfits, haccepted, hfinish⟩ :
      (prepared { width := 12 } Plugin.catalog []).FitsAll lines ∧
      ((prepared { width := 12 } Plugin.catalog []).feedAll lines).1.isOk = true ∧
      ((prepared { width := 12 } Plugin.catalog []).feedAll lines).2.finish.toOption =
        some page := by
    decide +kernel
  refine ⟨hfinish, ?_⟩
  cases hanswer : ((prepared { width := 12 } Plugin.catalog []).feedAll lines).2.finish with
  | error error =>
    rw [hanswer] at hfinish
    cases hfinish
  | ok rows =>
    rw [hanswer] at hfinish
    cases hfinish
    exact length_of_mem_finish { width := 12 } Plugin.catalog [] hfits (eq_ok_of_isOk haccepted)
      hanswer

end Typesetter

end PlainPage
