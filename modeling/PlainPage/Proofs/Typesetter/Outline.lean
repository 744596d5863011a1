import PlainPage.Proofs.Typesetter.Inside
import PlainPage.Proofs.Typesetter.Sound

/-!
# The outline of a document

Lines that open and close blocks in pairs form an outline: a tree of blocks.  A document
takes them one by one and keeps the open blocks on a stack.  What comes out is what one
gets by recursion over the tree: a block is set on a page of its own, and its filter
transforms that page as a whole.

Main results:

- Theorem `Typesetter.exists_outline` says that accepted lines which close what they open,
  and nothing else, have an outline.
- Theorem `Outline.typeset_eq_ok_iff` says that recursion over the outline does what the
  lines do.
- Theorem `Typesetter.feed_block` says what a block does to the document around it.
-/

namespace PlainPage

/-! ## Outlines -/

/-- A line that opens a block. -/
structure OpeningLine where
  text : Text
  filter : Text
  args : List Text
  reads : Nesting.ofLine text = .opens filter args

/-- A line that closes a block. -/
structure ClosingLine where
  text : Text
  filter : Option Text
  reads : Nesting.ofLine text = .closes filter

/-- A line that opens and closes nothing. -/
structure InnerLine where
  text : Text
  reads : Nesting.ofLine text = .stays

/-- Lines cut into the blocks that they open and close. -/
inductive Outline where
  | done
  | line (line : InnerLine) (rest : Outline)
  | block (opening : OpeningLine) (body : Outline) (closing : ClosingLine) (rest : Outline)

/-- The lines of an outline. -/
def Outline.lines : Outline → List Text
  | done => []
  | line l rest => l.text :: rest.lines
  | block opening body closing rest =>
    opening.text :: (body.lines ++ closing.text :: rest.lines)

namespace Typesetter

/-- Lines are fed one after the other, as long as none fails. -/
theorem feedAll_cons_eq_ok_iff {t u : Typesetter} {line : Text} {rest : List Text} :
    t.feedAll (line :: rest) = (.ok (), u) ↔
      ∃ next, t.feed line = (.ok (), next) ∧ next.feedAll rest = (.ok (), u) := by
  rw [← takeAll_map_feed, List.map_cons, takeAll_cons_eq_ok_iff]
  simp only [takeAll_map_feed, take]

theorem feedAll_append_eq_ok_iff {t u : Typesetter} {first second : List Text} :
    t.feedAll (first ++ second) = (.ok (), u) ↔
      ∃ next, t.feedAll first = (.ok (), next) ∧ next.feedAll second = (.ok (), u) := by
  induction first generalizing t with
  | nil => simp [feedAll]
  | cons line rest ih =>
    simp only [List.cons_append, feedAll_cons_eq_ok_iff, ih]
    constructor
    · rintro ⟨next, hline, after, hrest, hsecond⟩
      exact ⟨after, ⟨next, hline, hrest⟩, hsecond⟩
    · rintro ⟨after, ⟨next, hline, hrest⟩, hsecond⟩
      exact ⟨next, hline, after, hrest, hsecond⟩

/-- One more step in front, taken above the floor. -/
theorem StaysAbove.cons {t next : Typesetter} {floor : Nat} {step : Step} {rest : List Step}
    (hfloor : floor ≤ t.blocks.depth) (htake : t.take step = (.ok (), next))
    (hrest : next.StaysAbove floor rest) : t.StaysAbove floor (step :: rest) := by
  refine ⟨hfloor, ?_⟩
  rw [htake]
  exact hrest

/-- Steps that stay above a floor may follow one another. -/
theorem StaysAbove.append {t next : Typesetter} {floor : Nat} {first second : List Step}
    (hfirst : t.StaysAbove floor first) (htake : t.takeAll first = (.ok (), next))
    (hsecond : next.StaysAbove floor second) : t.StaysAbove floor (first ++ second) := by
  induction first generalizing t with
  | nil =>
    cases htake
    exact hsecond
  | cons step rest ih =>
    rcases takeAll_cons_eq_ok_iff.1 htake with ⟨after, hstep, hrest⟩
    exact .cons hfirst.start hstep (ih (hfirst.next hstep) hrest)

/-- The lines of an outline close what they open, and nothing else. -/
theorem staysAbove_outline {t u : Typesetter} {o : Outline} {floor : Nat}
    (h : t.feedAll o.lines = (.ok (), u)) (hfloor : floor ≤ t.blocks.depth) :
    u.blocks.depth = t.blocks.depth ∧ t.StaysAbove floor (o.lines.map .feed) := by
  induction o generalizing t u with
  | done =>
    cases h
    exact ⟨rfl, hfloor⟩
  | line l rest ih =>
    rcases feedAll_cons_eq_ok_iff.1 h with ⟨next, hline, hrest⟩
    have htake : t.take (.feed l.text) = (.ok (), next) := hline
    have hdepth := t.depth_of_stays (.feed l.text) l.reads
    rw [htake] at hdepth
    rcases ih hrest (hdepth ▸ hfloor) with ⟨hend, habove⟩
    exact ⟨hend.trans hdepth, .cons hfloor htake habove⟩
  | block opening body closing rest ihbody ihrest =>
    rcases feedAll_cons_eq_ok_iff.1 h with ⟨inner, hopening, h⟩
    rcases feedAll_append_eq_ok_iff.1 h with ⟨last, hbody, h⟩
    rcases feedAll_cons_eq_ok_iff.1 h with ⟨next, hclosing, hrest⟩
    have hopen := depth_of_opens (.feed opening.text) opening.reads hopening
    have hclose := depth_of_closes (.feed closing.text) closing.reads hclosing
    rcases ihbody hbody (by omega) with ⟨hlast, hinner⟩
    rcases ihrest hrest (by omega) with ⟨hend, hafter⟩
    refine ⟨by omega, ?_⟩
    have htail : last.StaysAbove floor ((closing.text :: rest.lines).map .feed) :=
      .cons (by omega) hclosing hafter
    have hmap : (Outline.block opening body closing rest).lines.map Step.feed =
        .feed opening.text ::
          (body.lines.map .feed ++ (closing.text :: rest.lines).map .feed) := by
      simp [Outline.lines]
    rw [hmap]
    refine .cons hfloor hopening (hinner.append ?_ htail)
    rw [takeAll_map_feed]
    exact hbody

/-- Lines that close as many blocks as they open, and `count` blocks more, are outlines with
closing lines between them. -/
theorem exists_outlines {t u : Typesetter} {lines : List Text} {floor count : Nat}
    (h : t.feedAll lines = (.ok (), u)) (habove : t.StaysAbove floor (lines.map .feed))
    (hstart : t.blocks.depth = floor + count) (hend : u.blocks.depth = floor) :
    ∃ (first : Outline) (others : List (ClosingLine × Outline)), others.length = count ∧
      lines = first.lines ++ others.flatMap fun (closing, o) => closing.text :: o.lines := by
  induction lines generalizing t count with
  | nil =>
    cases h
    have hcount : count = 0 := by omega
    exact ⟨.done, [], hcount.symm, rfl⟩
  | cons line rest ih =>
    rcases feedAll_cons_eq_ok_iff.1 h with ⟨next, hline, hrest⟩
    have htake : t.take (.feed line) = (.ok (), next) := hline
    have hnext := habove.next htake
    cases hnesting : Nesting.ofLine line with
    | stays =>
      have hdepth := t.depth_of_stays (.feed line) hnesting
      rw [htake] at hdepth
      rcases ih hrest hnext (hdepth.trans hstart) with ⟨first, others, hlength, rfl⟩
      exact ⟨.line ⟨line, hnesting⟩ first, others, hlength, rfl⟩
    | opens filter args =>
      have hdepth := depth_of_opens (.feed line) hnesting htake
      have hcount : next.blocks.depth = floor + (count + 1) := by omega
      rcases ih hrest hnext hcount with ⟨body, others, hlength, rfl⟩
      cases others with
      | nil => simp at hlength
      | cons other others =>
        rcases other with ⟨closing, first⟩
        refine ⟨.block ⟨line, filter, args, hnesting⟩ body closing first, others, ?_, ?_⟩
        · simpa using hlength
        · simp [Outline.lines]
    | closes found =>
      have hdepth := depth_of_closes (.feed line) hnesting htake
      have hfloor := hnext.start
      have hcount : next.blocks.depth = floor + (count - 1) := by omega
      rcases ih hrest hnext hcount with ⟨first, others, hlength, rfl⟩
      refine ⟨.done, (⟨line, found, hnesting⟩, first) :: others, ?_, rfl⟩
      rw [List.length_cons, hlength]
      omega

/-- Accepted lines that close what they open, and nothing else, have an outline. -/
theorem exists_outline {t u : Typesetter} {lines : List Text}
    (h : t.feedAll lines = (.ok (), u))
    (habove : t.StaysAbove t.blocks.depth (lines.map .feed))
    (hend : u.blocks.depth = t.blocks.depth) : ∃ o : Outline, o.lines = lines := by
  have hcount : t.blocks.depth = t.blocks.depth + 0 := rfl
  rcases exists_outlines h habove hcount hend with ⟨first, others, hlength, hlines⟩
  rw [List.length_eq_zero_iff.1 hlength] at hlines
  exact ⟨first, by simpa using hlines.symm⟩

end Typesetter

/-! ## Recursion over an outline -/

/-- Whether a line closes a block of the given name. -/
def ClosingLine.check (closing : ClosingLine) (name : Text) : Except DocumentError Unit :=
  match closing.filter with
  | none => .ok ()
  | some found => if found = name then .ok () else .error (.mismatchedClose name found)

/-- A closing line that gives a name must give the right one. -/
theorem ClosingLine.check_eq_ok_iff {closing : ClosingLine} {name : Text} :
    closing.check name = .ok () ↔ ∀ found ∈ closing.filter, found = name := by
  unfold check
  cases closing.filter with
  | none => simp
  | some found => by_cases h : found = name <;> simp [h]

namespace Typesetter

/-- An empty page for a document, under other settings. -/
def page (t : Typesetter) (settings : Settings) : Typesetter :=
  { t with settings, blocks := {}, paragraph := none }

/-- Set a block: its body is set on a page of its own, under the settings that its filter
leaves on opening; when the settings are back, its filter transforms that page. -/
def setBlock (t : Typesetter) (opening : OpeningLine) (closing : ClosingLine)
    (body : Typesetter → Except DocumentError Typesetter) : Except DocumentError Typesetter :=
  match t.repertoire.filters.get? opening.filter with
  | none => .error (.unknownFilter opening.filter)
  | some filter =>
    match (filter.opening opening.args).run { settings := t.settings } with
    | (.error cause, _) => .error (.filterFailed opening.filter .opening cause)
    | (.ok _, ⟨settings, marks⟩) => do
      let inner ← body (t.page settings)
      let lines ← inner.finish
      closing.check opening.filter
      let (restored, settings) := marks.restore inner.settings
      restored
      let result ← (filter.close lines opening.args settings).mapError
        (.filterFailed opening.filter .closing)
      return { inner with settings, blocks := t.blocks.feed result, paragraph := none }

end Typesetter

/-- Set a document by recursion over its outline. -/
def Outline.typeset : Outline → Typesetter → Except DocumentError Typesetter
  | done, t => .ok t
  | line l rest, t =>
    match t.feed l.text with
    | (.ok _, t) => rest.typeset t
    | (.error error, _) => .error error
  | block opening body closing rest, t => do
    let t ← t.flush.setBlock opening closing body.typeset
    rest.typeset t

namespace Typesetter

/-- How a block takes a document from one state to another, when `body` says what its lines
do to a page. -/
inductive SetsBlock (t : Typesetter) (opening : OpeningLine) (closing : ClosingLine)
    (body : Typesetter → Typesetter → Prop) : Typesetter → Prop where
  | intro {filter : Filter} {settings restored : Settings} {marks : Marks} {inner : Typesetter}
      {lines result : List Text}
      (hfilter : t.repertoire.filters.get? opening.filter = some filter)
      (hopening : (filter.opening opening.args).run { settings := t.settings } =
        (.ok (), ⟨settings, marks⟩))
      (hbody : body (t.page settings) inner)
      (hfinish : inner.finish = .ok lines)
      (hname : ∀ found ∈ closing.filter, found = opening.filter)
      (hrestore : marks.restore inner.settings = (.ok (), restored))
      (hclose : filter.close lines opening.args restored = .ok result) :
      SetsBlock t opening closing body
        { inner with settings := restored, blocks := t.blocks.feed result, paragraph := none }

/-- What is known of the body of a block may be weakened. -/
theorem SetsBlock.mono {t u : Typesetter} {opening : OpeningLine} {closing : ClosingLine}
    {body other : Typesetter → Typesetter → Prop} (h : t.SetsBlock opening closing body u)
    (hbody : ∀ page inner, body page inner → other page inner) :
    t.SetsBlock opening closing other u := by
  cases h with
  | intro hfilter hopening hinner hfinish hname hrestore hclose =>
    exact .intro hfilter hopening (hbody _ _ hinner) hfinish hname hrestore hclose

/-- Setting a block succeeds exactly when its three parts do. -/
theorem setBlock_eq_ok_iff {t u : Typesetter} {opening : OpeningLine} {closing : ClosingLine}
    {body : Typesetter → Except DocumentError Typesetter} :
    t.setBlock opening closing body = .ok u ↔
      t.SetsBlock opening closing (fun page inner => body page = .ok inner) u := by
  constructor
  · intro h
    unfold setBlock at h
    cases hfilter : t.repertoire.filters.get? opening.filter with
    | none => simp [hfilter] at h
    | some filter =>
      rw [hfilter] at h
      dsimp only at h
      rcases hopening : (filter.opening opening.args).run { settings := t.settings } with
        ⟨answer, settings, marks⟩
      rw [hopening] at h
      cases answer with
      | error cause => cases h
      | ok _ =>
        rcases bind_eq_ok_iff.1 h with ⟨inner, hbody, h⟩
        rcases bind_eq_ok_iff.1 h with ⟨lines, hfinish, h⟩
        rcases bind_eq_ok_iff.1 h with ⟨⟨⟩, hname, h⟩
        rcases hrestore : marks.restore inner.settings with ⟨answer, restored⟩
        rw [hrestore] at h
        rcases bind_eq_ok_iff.1 h with ⟨⟨⟩, rfl, h⟩
        rcases bind_eq_ok_iff.1 h with ⟨result, hclose, h⟩
        cases h
        exact .intro hfilter hopening hbody hfinish (ClosingLine.check_eq_ok_iff.1 hname)
          hrestore (mapError_eq_ok_iff.1 hclose)
  · intro h
    cases h with
    | @intro filter settings restored marks inner lines result hfilter hopening hbody hfinish
        hname hrestore hclose =>
      unfold setBlock
      rw [hfilter]
      dsimp only
      rw [hopening]
      refine bind_eq_ok_iff.2 ⟨inner, hbody, ?_⟩
      refine bind_eq_ok_iff.2 ⟨lines, hfinish, ?_⟩
      refine bind_eq_ok_iff.2 ⟨(), ClosingLine.check_eq_ok_iff.2 hname, ?_⟩
      rw [hrestore]
      refine bind_eq_ok_iff.2 ⟨(), rfl, ?_⟩
      exact bind_eq_ok_iff.2 ⟨result, mapError_eq_ok_iff.2 hclose, rfl⟩

/-! ## A block and the document around it -/

theorem page_inside (t : Typesetter) (settings : Settings) (base : Blocks) :
    (t.page settings).inside base = { t with settings, blocks := base, paragraph := none } := by
  simp [page, inside]

theorem depth_page_inside (t : Typesetter) (settings : Settings) (base : Blocks) :
    ((t.page settings).inside base).blocks.depth = base.depth := by
  rw [page_inside]

/-- A block is opened exactly when its filter is known and accepts its arguments. -/
theorem feed_opening_eq_ok_iff {t u : Typesetter} (opening : OpeningLine) :
    t.feed opening.text = (.ok (), u) ↔
      ∃ filter settings marks, t.repertoire.filters.get? opening.filter = some filter ∧
        (filter.opening opening.args).run { settings := t.settings } =
          (.ok (), ⟨settings, marks⟩) ∧
        u = (t.page settings).inside (t.flush.blocks.push
          { opened := some (opening.filter, filter), args := opening.args, marks }) := by
  rw [feed_of_directive (Nesting.ofLine_eq_opens.1 opening.reads), perform, openBlock_eq_ok_iff]
  simp only [page_inside]
  rfl

/-- A line that closes a block takes the page that stands in it as its lines. -/
theorem feed_closing_eq_ok_iff {t u : Typesetter} {closing : ClosingLine} {base : Blocks}
    {block : Block} (hdepth : t.blocks.depth = 0) :
    (t.inside (base.push block)).feed closing.text = (.ok (), u) ↔
      (∀ found ∈ closing.filter, found = block.name) ∧
        finishBlock { t.flush with blocks := base }
          { block with lines := block.lines ++ t.flush.blocks.innermost.lines } = (.ok (), u) := by
  have hflush : t.flush.blocks.depth = 0 := hdepth
  have hpage : t.flush.blocks.inside (base.push block) =
      base.push { block with lines := block.lines ++ t.flush.blocks.innermost.lines } :=
    Blocks.inside_of_depth_eq_zero hflush _
  rw [feed_of_directive (Nesting.ofLine_eq_closes.1 closing.reads), perform, flush_inside,
    closeBlock_eq_ok_iff, blocks_inside, hpage]
  constructor
  · rintro ⟨block', rest, heq, hname, hfinish⟩
    rcases Blocks.push_inj.1 heq with ⟨rfl, rfl⟩
    exact ⟨hname, hfinish⟩
  · rintro ⟨hname, hfinish⟩
    exact ⟨_, _, rfl, hname, hfinish⟩

/-- Lines that are set on a page of their own and leave no block open make a page. -/
theorem finish_of_page {t inner : Typesetter} {settings : Settings} {lines : List Text}
    (h : (t.page settings).feedAll lines = (.ok (), inner)) (hdepth : inner.blocks.depth = 0) :
    inner.finish = .ok inner.flush.blocks.innermost.lines := by
  have hstacked : inner.blocks.Stacked := by
    have hall := stacked_takeAll (t := t.page settings) Blocks.stacked_empty (lines.map .feed)
    rw [takeAll_map_feed, h] at hall
    exact hall
  exact (hstacked.feed _).pageLines hdepth

/-- The lines of a block do to a document what setting the block on a page of its own
does. -/
theorem feed_block_iff {t u : Typesetter} {opening : OpeningLine} {closing : ClosingLine}
    {body : Outline} :
    (∃ first last, t.feed opening.text = (.ok (), first) ∧
        first.feedAll body.lines = (.ok (), last) ∧ last.feed closing.text = (.ok (), u)) ↔
      t.flush.SetsBlock opening closing
        (fun page inner => page.feedAll body.lines = (.ok (), inner)) u := by
  constructor
  · rintro ⟨first, last, hopening, hbody, hclosing⟩
    rcases (feed_opening_eq_ok_iff opening).1 hopening with
      ⟨filter, settings, marks, hfilter, hrun, rfl⟩
    rcases staysAbove_outline hbody (Nat.le_of_eq (depth_page_inside ..).symm) with ⟨hlast, habove⟩
    rw [← takeAll_map_feed] at hbody
    rcases exists_of_takeAll_inside hbody habove with ⟨inner, hinner, rfl⟩
    rw [takeAll_map_feed] at hinner
    have hdepth : inner.blocks.depth = 0 := by
      rw [depth_page_inside, blocks_inside, Blocks.depth_inside] at hlast
      omega
    rcases (feed_closing_eq_ok_iff hdepth).1 hclosing with ⟨hname, hfinish⟩
    obtain ⟨name, found, restored, result, hopened, hrestore, hclose, rfl⟩ :=
      finishBlock_eq_ok_iff.1 hfinish
    cases hopened
    have hset : t.flush.SetsBlock opening closing
        (fun page inner => page.feedAll body.lines = (.ok (), inner))
        { inner with settings := restored, blocks := t.flush.blocks.feed result,
                     paragraph := none } :=
      .intro hfilter hrun hinner (finish_of_page hinner hdepth) hname hrestore hclose
    exact hset
  · intro h
    cases h with
    | @intro filter settings restored marks inner lines result hfilter hrun hinner hfinish hname
        hrestore hclose =>
      have hdepth : inner.blocks.depth = 0 :=
        (staysAbove_outline hinner (Nat.zero_le _)).1
      have hlines := (finish_of_page hinner hdepth).symm.trans hfinish
      cases hlines
      have hlast := hinner
      rw [← takeAll_map_feed] at hlast
      have hinside := takeAll_inside hlast (t.flush.blocks.push
        { opened := some (opening.filter, filter), args := opening.args, marks })
      rw [takeAll_map_feed] at hinside
      have hopening := (feed_opening_eq_ok_iff (t := t) opening).2
        ⟨filter, settings, marks, hfilter, hrun, rfl⟩
      refine ⟨_, _, hopening, hinside, (feed_closing_eq_ok_iff hdepth).2 ⟨hname, ?_⟩⟩
      exact finishBlock_eq_ok_iff.2
        ⟨opening.filter, filter, restored, result, rfl, hrestore, hclose, rfl⟩

end Typesetter

/-- Recursion over an outline does what its lines do one by one. -/
theorem Outline.typeset_eq_ok_iff {o : Outline} {t u : Typesetter} :
    o.typeset t = .ok u ↔ t.feedAll o.lines = (.ok (), u) := by
  induction o generalizing t u with
  | done => simp [typeset, lines, Typesetter.feedAll]
  | line l rest ih =>
    rw [typeset, lines, Typesetter.feedAll_cons_eq_ok_iff]
    rcases t.feed l.text with ⟨answer, next⟩
    cases answer with
    | error error => simp
    | ok _ => simp [ih]
  | block opening body closing rest ihbody ihrest =>
    have hset : ∀ next, t.flush.setBlock opening closing body.typeset = .ok next ↔
        ∃ first last, t.feed opening.text = (.ok (), first) ∧
          first.feedAll body.lines = (.ok (), last) ∧
          last.feed closing.text = (.ok (), next) := by
      intro next
      rw [Typesetter.setBlock_eq_ok_iff, Typesetter.feed_block_iff]
      exact ⟨fun h => h.mono fun _ _ => ihbody.1, fun h => h.mono fun _ _ => ihbody.2⟩
    rw [typeset, lines, bind_eq_ok_iff]
    simp only [hset, ihrest, Typesetter.feedAll_cons_eq_ok_iff,
      Typesetter.feedAll_append_eq_ok_iff]
    constructor
    · rintro ⟨next, ⟨first, last, hopening, hbody, hclosing⟩, hrest⟩
      exact ⟨first, hopening, last, hbody, next, hclosing, hrest⟩
    · rintro ⟨first, hopening, last, hbody, next, hclosing, hrest⟩
      exact ⟨next, ⟨first, last, hopening, hbody, hclosing⟩, hrest⟩

namespace Typesetter

/-- What a block does to the document around it: whatever its lines are, they are set on an
empty page under the settings that its opening leaves, one by one or by recursion over
their outline; its filter transforms that page under the settings cut back to its marks;
and only the result is written into the block around it. -/
theorem feed_block {t u v w : Typesetter} {opening closing name : Text} {args : List Text}
    {found : Option Text} {filter : Filter} {body : List Text} (hparagraph : t.paragraph = none)
    (hopening : Directive.ofLine? opening = some (.ok (.openBlock name args)))
    (hclosing : Directive.ofLine? closing = some (.ok (.closeBlock found)))
    (hfilter : t.repertoire.filters.get? name = some filter)
    (hopen : t.feed opening = (.ok (), u)) (hbody : u.feedAll body = (.ok (), v))
    (habove : u.StaysAbove (t.blocks.depth + 1) (body.map .feed))
    (hdepth : v.blocks.depth = t.blocks.depth + 1) (hclose : v.feed closing = (.ok (), w)) :
    ∃ marks inner lines restored result, ∃ o : Outline,
      (filter.opening args).run { settings := t.settings } = (.ok (), ⟨u.settings, marks⟩) ∧
      (t.page u.settings).feedAll body = (.ok (), inner) ∧ inner.finish = .ok lines ∧
      o.lines = body ∧ o.typeset (t.page u.settings) = .ok inner ∧
      marks.restore inner.settings = (.ok (), restored) ∧
      filter.close lines args restored = .ok result ∧
      w.blocks.outer = t.blocks.outer ∧
      w.blocks.innermost =
        { t.blocks.innermost with lines := t.blocks.innermost.lines ++ result } ∧
      w.settings = restored ∧ w.repertoire = inner.repertoire ∧ w.paragraph = none := by
  have hopens : (Step.feed opening).nesting = .opens name args :=
    Nesting.ofLine_eq_opens.2 hopening
  have hcloses : Nesting.ofLine closing = .closes found := Nesting.ofLine_eq_closes.2 hclosing
  have hfirst : u.blocks.depth = t.blocks.depth + 1 :=
    depth_of_opens (.feed opening) hopens hopen
  rw [← hfirst] at habove hdepth
  rcases exists_outline hbody habove hdepth with ⟨o, rfl⟩
  have hset : t.flush.SetsBlock ⟨opening, name, args, hopens⟩ ⟨closing, found, hcloses⟩
      (fun page inner => page.feedAll o.lines = (.ok (), inner)) w :=
    feed_block_iff.1 ⟨u, v, hopen, hbody, hclose⟩
  rw [flush_of_none hparagraph] at hset
  cases hset with
  | @intro filter' settings restored marks inner lines result hfilter' hrun hinner hfinish _
      hrestore hclosed =>
    rw [hfilter] at hfilter'
    cases hfilter'
    have hopened := run_of_opens hopens hfilter hopen
    rw [hrun] at hopened
    cases hopened
    exact ⟨_, inner, lines, restored, result, o, hrun, hinner, hfinish, rfl,
      Outline.typeset_eq_ok_iff.2 hinner, hrestore, hclosed, rfl, rfl, rfl, rfl, rfl⟩

/-- An underlined paragraph inside a margin is set on pages of their own. -/
theorem feed_block_margin :
    let opened := (({} : Typesetter).feed "@begin margin 3".toList).2
    let body := ["@begin underline".toList, "x".toList, "@end".toList]
    ∃ inner lines, ∃ o : Outline,
      (page {} opened.settings).feedAll body = (.ok (), inner) ∧ inner.finish = .ok lines ∧
        o.lines = body ∧ o.typeset (page {} opened.settings) = .ok inner := by
  intro opened body
  have hfilter : ({} : Typesetter).repertoire.filters.get? marginName = some Filter.margin := rfl
  obtain ⟨hopens, hcloses, hopen, hbody, hclose, habove, hdepth⟩ :
      Nesting.ofLine "@begin margin 3".toList = .opens marginName ["3".toList] ∧
      Nesting.ofLine "@end".toList = .closes none ∧
      (({} : Typesetter).feed "@begin margin 3".toList).1.isOk = true ∧
      (opened.feedAll body).1.isOk = true ∧
      ((opened.feedAll body).2.feed "@end".toList).1.isOk = true ∧
      opened.StaysAbove 1 (body.map .feed) ∧ (opened.feedAll body).2.blocks.depth = 1 := by
    decide +kernel
  obtain ⟨marks, inner, lines, restored, result, o, -, hrun, hfinish, hlines, htypeset, -⟩ :=
    feed_block (t := {}) rfl (Nesting.ofLine_eq_opens.1 hopens)
      (Nesting.ofLine_eq_closes.1 hcloses) hfilter (eq_ok_of_isOk hopen) (eq_ok_of_isOk hbody)
      habove hdepth (eq_ok_of_isOk hclose)
  exact ⟨inner, lines, o, hrun, hfinish, hlines, htypeset⟩

end Typesetter

end PlainPage
