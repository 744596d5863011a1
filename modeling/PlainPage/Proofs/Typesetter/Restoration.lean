import PlainPage.Proofs.Typesetter.Inside
import PlainPage.Proofs.Typesetter.Sound

/-!
# The settings after a block

Closing a block cuts back the settings that its opening pushed on, and no others.  So what
the lines of the block did to a setting is undone if the opening touched the setting, and
stays if it did not.  Values from before the block that its lines have dropped do not come
back, whether they were taken off one by one or went with all settings at once.

Main results:

- Theorem `Typesetter.restores_block` says that closing restores the marks of the opening,
  whatever steps are taken in between.
- Theorem `Typesetter.get?_of_block` gives all values of every setting after a block.
- Theorem `Typesetter.current?_of_block` gives the values in force after a block of lines.
-/

namespace PlainPage

namespace Typesetter

/-! ## Opening, steps and closing together -/

/-- Accepted steps that close what they open, and nothing else, write lines into the
innermost block at most. -/
theorem blocks_of_staysAbove {t u : Typesetter} {steps : List Step}
    (h : t.takeAll steps = (.ok (), u)) (habove : t.StaysAbove t.blocks.depth steps)
    (hdepth : u.blocks.depth = t.blocks.depth) : ∃ lines, u.blocks = t.blocks.feed lines := by
  have hpage : t = ({ t with blocks := {} } : Typesetter).inside t.blocks := by
    simp [inside]
  generalize t.blocks = base at hpage habove hdepth ⊢
  rw [hpage] at h habove
  rcases exists_of_takeAll_inside h habove with ⟨inner, -, rfl⟩
  rw [blocks_inside, Blocks.depth_inside] at hdepth
  refine ⟨inner.blocks.innermost.lines, ?_⟩
  rw [blocks_inside, Blocks.inside_of_depth_eq_zero (by omega)]

/-- Closing a block restores the marks of its opening, whatever steps are taken in between. -/
theorem restores_block {t u v w : Typesetter} {opening closing : Step} {name : Text}
    {args : List Text} {found : Option Text} {filter : Filter} {body : List Step}
    (hopens : opening.nesting = .opens name args) (hcloses : closing.nesting = .closes found)
    (hfilter : t.repertoire.filters.get? name = some filter)
    (hopen : t.take opening = (.ok (), u)) (hbody : u.takeAll body = (.ok (), v))
    (habove : u.StaysAbove (t.blocks.depth + 1) body)
    (hdepth : v.blocks.depth = t.blocks.depth + 1) (hclose : v.take closing = (.ok (), w)) :
    ∃ marks, (filter.opening args).run { settings := t.settings } =
        (.ok (), ⟨u.settings, marks⟩) ∧
      marks.restore v.settings = (.ok (), w.settings) := by
  rw [← depth_of_opens opening hopens hopen] at habove hdepth
  rcases blocks_of_staysAbove hbody habove hdepth with ⟨lines, hblocks⟩
  have hrestore := restore_of_closes hcloses hclose
  rw [hblocks] at hrestore
  exact ⟨_, run_of_opens hopens hfilter hopen, hrestore⟩

/-! ## Every setting after a block -/

/-- Steps during which a setting never has fewer than `depth` values: none of them takes it
below, and no command replaces the settings as a whole, which drops all their values. -/
structure NeverBelow (t : Typesetter) (steps : List Step) (name : Text) (depth : Nat) : Prop where
  place : t.replacesAny steps = false
  above : ∀ s ∈ t.passesAll steps, depth ≤ s.depth name

/-- A setting that the opening touched has its old values again, if the steps in the block
never took it below them. -/
theorem get?_of_touched {t u v w : Typesetter} {filter : Filter} {args : List Text}
    {marks : Marks} {body : List Step} {touched : Text}
    (hrun : (filter.opening args).run { settings := t.settings } = (.ok (), ⟨u.settings, marks⟩))
    (hbody : u.takeAll body = (.ok (), v))
    (hrestore : marks.restore v.settings = (.ok (), w.settings))
    (htouched : touched ∈ (filter.opening args).touched { settings := t.settings })
    (hkeeps : u.NeverBelow body touched (t.settings.depth touched)) :
    w.settings.entries.get? touched = t.settings.entries.get? touched := by
  have habove := (MarkedSettings.above_start t.settings).run (filter.opening args)
  rw [hrun] at habove
  have hmarked : touched ∈ marks.names := (Opening.mem_names_iff_touched hrun).2 htouched
  have hone : 1 ≤ t.settings.depth touched :=
    Settings.one_le_depth (habove.fit.declared touched hmarked)
  have hstart : t.settings.depth touched ≤ u.settings.depth touched :=
    Settings.depth_le_of_lowest_eq (habove.beneath touched)
  have hleads := leads_takeAll (Settings.steady_depth touched hone) hbody hkeeps.place hstart
    hkeeps.above
  exact habove.get?_of_restore hmarked hleads hrestore

/-- A setting that the opening did not touch keeps the values that the block left. -/
theorem get?_of_untouched {t u v w : Typesetter} {filter : Filter} {args : List Text}
    {marks : Marks} {other : Text}
    (hrun : (filter.opening args).run { settings := t.settings } = (.ok (), ⟨u.settings, marks⟩))
    (hrestore : marks.restore v.settings = (.ok (), w.settings))
    (hother : other ∉ (filter.opening args).touched { settings := t.settings }) :
    w.settings.entries.get? other = v.settings.entries.get? other := by
  have habove := (MarkedSettings.above_start t.settings).run (filter.opening args)
  rw [hrun] at habove
  have hfree : other ∉ marks.names :=
    fun hmem => hother ((Opening.mem_names_iff_touched hrun).1 hmem)
  exact (Marks.get?_of_restore habove.fit.distinct hrestore).2.2 other hfree

/-- Accepted lines that open a block, stay in it and close it, after which a setting that was
declared before has another value in force. -/
def ChangedByBlock (t : Typesetter) (opening : Text) (body : List Text)
    (closing setting : Text) : Prop :=
  let opened := t.feed opening
  let last := opened.2.feedAll body
  let closed := last.2.feed closing
  opened.1.isOk = true ∧ last.1.isOk = true ∧ closed.1.isOk = true ∧
    opened.2.StaysAbove (t.blocks.depth + 1) (body.map .feed) ∧
    last.2.blocks.depth = t.blocks.depth + 1 ∧ t.settings.isDeclared setting = true ∧
    closed.2.settings.current? setting ≠ t.settings.current? setting

instance (t : Typesetter) (opening : Text) (body : List Text) (closing setting : Text) :
    Decidable (t.ChangedByBlock opening body closing setting) :=
  inferInstanceAs (Decidable (_ ∧ _))

/-- A margin does not give the width back when a command in it replaces all settings, although
the width always has as many values as before the block. -/
theorem changedByBlock_renewed :
    let start := ((ofConfig { width := 60 }).take (.load .renewing)).2
    let body := ["@renew".toList]
    start.ChangedByBlock "@begin margin 3".toList body "@end".toList Settings.widthName ∧
      ∀ s ∈ (start.feed "@begin margin 3".toList).2.passesAll (body.map .feed),
        start.settings.depth Settings.widthName ≤ s.depth Settings.widthName := by
  decide +kernel

/-! ## The values in force after a block of lines -/

/-- The value in force of every setting after a block of lines: a setting that the opening
touched has its value from before, provided the lines never took it below its old values; a
setting that the opening did not touch has the value that the lines left. -/
theorem current?_of_block {t u v w : Typesetter} {opening closing name : Text}
    {args : List Text} {found : Option Text} {filter : Filter} {body : List Text}
    (hopening : Directive.ofLine? opening = some (.ok (.openBlock name args)))
    (hclosing : Directive.ofLine? closing = some (.ok (.closeBlock found)))
    (hfilter : t.repertoire.filters.get? name = some filter)
    (hopen : t.feed opening = (.ok (), u)) (hbody : u.feedAll body = (.ok (), v))
    (habove : u.StaysAbove (t.blocks.depth + 1) (body.map .feed))
    (hdepth : v.blocks.depth = t.blocks.depth + 1) (hclose : v.feed closing = (.ok (), w)) :
    ∀ setting,
      (setting ∈ (filter.opening args).touched { settings := t.settings } →
        u.NeverBelow (body.map .feed) setting (t.settings.depth setting) →
        w.settings.current? setting = t.settings.current? setting) ∧
      (setting ∉ (filter.opening args).touched { settings := t.settings } →
        w.settings.current? setting = v.settings.current? setting) := by
  intro setting
  have hopens : (Step.feed opening).nesting = .opens name args :=
    Nesting.ofLine_eq_opens.2 hopening
  have hcloses : (Step.feed closing).nesting = .closes found :=
    Nesting.ofLine_eq_closes.2 hclosing
  rw [← takeAll_map_feed] at hbody
  obtain ⟨marks, hrun, hrestore⟩ :=
    restores_block hopens hcloses hfilter hopen hbody habove hdepth hclose
  unfold Settings.current?
  constructor
  · intro htouched hkeeps
    rw [get?_of_touched hrun hbody hrestore htouched hkeeps]
  · intro hother
    rw [get?_of_untouched hrun hrestore hother]

/-- A margin gives the width back that the lines in it have changed. -/
theorem current?_of_block_margin :
    let opened := (({} : Typesetter).feed "@begin margin 3".toList).2
    let body := ["@set width 40".toList]
    let last := (opened.feedAll body).2
    let closed := (last.feed "@end".toList).2
    closed.settings.current? Settings.widthName = some (.integer 80) := by
  intro opened body last closed
  obtain ⟨hopens, hcloses, hopen, hbody, hclose, habove, hdepth, htouched, hplace, hdepths⟩ :
      Nesting.ofLine "@begin margin 3".toList = .opens marginName ["3".toList] ∧
      Nesting.ofLine "@end".toList = .closes none ∧
      (({} : Typesetter).feed "@begin margin 3".toList).1.isOk = true ∧
      (opened.feedAll body).1.isOk = true ∧ (last.feed "@end".toList).1.isOk = true ∧
      opened.StaysAbove 1 (body.map .feed) ∧ last.blocks.depth = 1 ∧
      Settings.widthName ∈
        (Filter.margin.opening ["3".toList]).touched { settings := .standard } ∧
      opened.replacesAny (body.map .feed) = false ∧
      (opened.passesAll (body.map .feed)).map (·.depth Settings.widthName) = [3] := by
    decide +kernel
  have hkeeps : opened.NeverBelow (body.map .feed) Settings.widthName 1 := by
    refine ⟨hplace, fun s hs => ?_⟩
    have hlisted := List.mem_map_of_mem (f := (·.depth Settings.widthName)) hs
    rw [hdepths, List.mem_singleton] at hlisted
    omega
  have hfilter : ({} : Typesetter).repertoire.filters.get? marginName = some Filter.margin := rfl
  exact (current?_of_block (u := opened) (v := last) (w := closed)
    (Nesting.ofLine_eq_opens.1 hopens) (Nesting.ofLine_eq_closes.1 hcloses) hfilter
    (eq_ok_of_isOk hopen) (eq_ok_of_isOk hbody) habove hdepth (eq_ok_of_isOk hclose)
    Settings.widthName).1 htouched hkeeps

/-- A block can leave a setting with another value than it had before, although its lines are
properly nested and all accepted.  A filter that touches no setting gives none back; and one
that touches the width gives back no value that the lines have taken off. -/
theorem changedByBlock_width :
    Reachable {} ∧
    ({} : Typesetter).ChangedByBlock "@begin underline".toList ["@set width 40".toList]
      "@end".toList Settings.widthName ∧
    let narrow := (({} : Typesetter).take (.feed "@set width 60".toList)).2
    Reachable narrow ∧
    narrow.ChangedByBlock "@begin margin 3".toList
      ["@unset width".toList, "@unset width".toList] "@end".toList Settings.widthName := by
  refine ⟨reachable_default, by decide +kernel, reachable_default.step _, by decide +kernel⟩

end Typesetter

end PlainPage
