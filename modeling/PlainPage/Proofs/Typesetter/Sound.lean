import PlainPage.Proofs.Settings.WellFormed
import PlainPage.Proofs.Typesetter.Steps

/-!
# What every document keeps

Whatever steps a document takes, and whichever of them are refused, its settings are well
formed, its outermost block is the page and alone without a filter, and every open block has
marked each setting once.  As long as no command replaces the settings as a whole, every
open block can also be closed, because the settings that it marked are still declared.

Main results:

- Theorem `Typesetter.moves_take` says what a step can do to the open blocks.
- Theorems `Typesetter.Sound.take` and `Typesetter.Reachable.sound` say that a step keeps the
  three facts, and that they hold in every state of a document.
- Theorems `Typesetter.Restorable.take` and `Typesetter.ReachableInPlace.restorable` say the
  same of the marked settings, as long as no command replaces the settings.
- Theorem `Typesetter.not_restorable_renewed` shows a replacement after which a marked
  setting is gone.
-/

namespace PlainPage

/-! ## The open blocks of a document -/

namespace Blocks

/-- The blocks from `block` outwards end in a page, and only there. -/
def EndsInPage : Block → List Block → Prop
  | page, [] => page.isPage = true
  | block, next :: rest => block.isPage = false ∧ EndsInPage next rest

/-- The outermost block is the page, and it alone has no filter. -/
def Stacked (b : Blocks) : Prop :=
  EndsInPage b.innermost b.outer

theorem stacked_empty : ({} : Blocks).Stacked := rfl

theorem Stacked.feed {b : Blocks} (h : b.Stacked) (lines : List Text) : (b.feed lines).Stacked := by
  rcases b with ⟨innermost, outer⟩
  cases outer with
  | nil => exact h
  | cons next rest => exact h

/-- A block may be opened above others. -/
theorem Stacked.push {b : Blocks} (h : b.Stacked) {block : Block}
    (hopened : block.isPage = false) : (b.push block).Stacked :=
  ⟨hopened, h⟩

/-- A block that was put on has a filter. -/
theorem Stacked.of_push {b : Blocks} {block : Block} (h : (b.push block).Stacked) :
    block.isPage = false ∧ b.Stacked :=
  h

/-- The page alone gives its lines. -/
theorem Stacked.pageLines {b : Blocks} (h : b.Stacked) (hdepth : b.depth = 0) :
    b.pageLines = .ok b.innermost.lines := by
  rcases b with ⟨innermost, outer⟩
  cases outer with
  | cons next rest => cases hdepth
  | nil =>
    have hpage : innermost.isPage = true := h
    simp [Blocks.pageLines, toList, bottom, hpage]

/-- The marks of the blocks, from the inside to the page. -/
def marks (b : Blocks) : List Marks :=
  b.toList.map (·.marks)

@[simp] theorem marks_feed (b : Blocks) (lines : List Text) : (b.feed lines).marks = b.marks := rfl

@[simp] theorem marks_push (b : Blocks) (block : Block) :
    (b.push block).marks = block.marks :: b.marks := rfl

/-- What a step that starts under the settings `s` can do to the open blocks: it writes
lines into the innermost one, opens another one under a filter, or takes one off. -/
inductive Moves (s : Settings) (b : Blocks) : Blocks → Prop where
  | feed (lines : List Text) : Moves s b (b.feed lines)
  | push (lines : List Text) (block : Block) (hopened : block.isPage = false)
      (hfit : block.marks.Fit s) : Moves s b ((b.feed lines).push block)
  | pop (before after : List Text) (block : Block) {rest : Blocks}
      (hpush : b.feed before = rest.push block) : Moves s b (rest.feed after)

namespace Moves

variable {s : Settings} {b c : Blocks}

theorem refl (s : Settings) (b : Blocks) : Moves s b b := by
  have h := Moves.feed (s := s) (b := b) []
  rw [feed_nil] at h
  exact h

/-- Lines may be written before the rest. -/
theorem of_feed {lines : List Text} (h : Moves s (b.feed lines) c) : Moves s b c := by
  cases h with
  | feed more =>
    rw [feed_feed]
    exact .feed _
  | push more block hopened hfit =>
    rw [feed_feed]
    exact .push _ block hopened hfit
  | pop before after block hpush =>
    rw [feed_feed] at hpush
    exact .pop _ after block hpush

/-- Blocks stay stacked when they move. -/
theorem stacked (h : Moves s b c) (hb : b.Stacked) : c.Stacked := by
  cases h with
  | feed lines => exact hb.feed lines
  | push lines block hopened hfit => exact (hb.feed lines).push hopened
  | pop before after block hpush =>
    have hbefore := hb.feed before
    rw [hpush] at hbefore
    exact hbefore.of_push.2.feed after

/-- What holds of all marks, and of new ones, which fit the settings that the step starts
from, holds after the step. -/
theorem forall_marks {Q : Marks → Prop} (h : Moves s b c)
    (hnew : ∀ marks : Marks, marks.Fit s → Q marks) (hb : ∀ marks ∈ b.marks, Q marks) :
    ∀ marks ∈ c.marks, Q marks := by
  intro marks hmarks
  cases h with
  | feed lines => exact hb marks hmarks
  | push lines block hopened hfit =>
    rcases List.mem_cons.1 hmarks with rfl | hold
    · exact hnew _ hfit
    · exact hb marks hold
  | pop before after block hpush =>
    refine hb marks ?_
    rw [← marks_feed b before, hpush, marks_push]
    exact List.mem_cons_of_mem _ hmarks

end Moves

end Blocks

/-! ## What any step does -/

namespace Typesetter

/-- Opening a block moves the open blocks in one of these ways. -/
theorem moves_openBlock (t : Typesetter) (name : Text) (args : List Text) :
    t.blocks.Moves t.settings (t.openBlock name args).2.blocks := by
  have houtcome := t.openBlock_outcome name args
  generalize t.openBlock name args = answer at houtcome ⊢
  cases houtcome with
  | unknown => exact .refl ..
  | refused => exact .refl ..
  | @opened filter settings marks hfilter hrun =>
    have habove := (MarkedSettings.above_start t.settings).run (filter.opening args)
    rw [hrun] at habove
    have hpush := Blocks.Moves.push (b := t.blocks) []
      { opened := some (name, filter), args, marks } rfl habove.fit
    rw [Blocks.feed_nil] at hpush
    exact hpush

theorem moves_closeBlock (t : Typesetter) (found : Option Text) :
    t.blocks.Moves t.settings (t.closeBlock found).2.blocks := by
  have houtcome := t.closeBlock_outcome found
  generalize t.closeBlock found = answer at houtcome ⊢
  cases houtcome with
  | nothing => exact .refl ..
  | mismatched => exact .refl ..
  | @finished _ block rest _ hpush hname hfinish =>
    have hpop : ∀ lines, t.blocks.Moves t.settings (rest.feed lines) := by
      intro lines
      refine .pop [] lines block ?_
      rw [Blocks.feed_nil]
      exact hpush
    have hnone := hpop []
    rw [Blocks.feed_nil] at hnone
    cases hfinish with
    | kept => exact hnone
    | unopened => exact hnone
    | failed => exact hnone
    | closed => exact hpop _

/-- Ending a paragraph first makes no difference to how the blocks can move. -/
theorem Settles.moves {t v : Typesetter} (h : t.Settles v) {b : Blocks}
    (hmoves : v.blocks.Moves v.settings b) : t.blocks.Moves t.settings b := by
  rcases h.exists_feed with ⟨lines, hblocks⟩
  rw [hblocks, h.settings_eq] at hmoves
  exact hmoves.of_feed

/-- What a step can do to the open blocks, also when it is refused. -/
theorem moves_take (t : Typesetter) (step : Step) :
    t.blocks.Moves t.settings (t.take step).2.blocks := by
  cases hnesting : step.nesting with
  | stays =>
    rcases blocks_of_stays (t := t) hnesting with ⟨lines, hlines⟩
    rw [hlines]
    exact .feed lines
  | opens filter args =>
    rcases t.take_of_opens hnesting with ⟨v, hsettles, htake⟩
    rw [htake]
    exact hsettles.moves (v.moves_openBlock filter args)
  | closes found =>
    rcases t.take_of_closes hnesting with ⟨v, hsettles, htake⟩
    rw [htake]
    exact hsettles.moves (v.moves_closeBlock found)

/-- The page stays beneath the blocks. -/
theorem stacked_takeAll {t : Typesetter} (h : t.blocks.Stacked) (steps : List Step) :
    (t.takeAll steps).2.blocks.Stacked := by
  induction steps generalizing t with
  | nil => exact h
  | cons step rest ih =>
    have hnext := (t.moves_take step).stacked h
    rw [takeAll]
    rcases htake : t.take step with ⟨answer, next⟩
    rw [htake] at hnext
    cases answer with
    | error error => exact hnext
    | ok _ => exact ih hnext

/-! ## What holds in every state -/

/-- A step keeps settings well formed, also when it is refused or replaces them. -/
theorem wellFormed_take {t : Typesetter} (h : t.settings.WellFormed) (step : Step) :
    (t.take step).2.settings.WellFormed := by
  cases hplace : t.replaces step with
  | false => exact (leads_of_take hplace).wellFormed h
  | true =>
    rcases (Option.any_eq_true _ _).1 hplace with ⟨action, hscript, -⟩
    rw [settings_of_script? hscript]
    exact action.wellFormed_run h

/-- What every state of a document satisfies. -/
structure Sound (t : Typesetter) : Prop where
  wellFormed : t.settings.WellFormed
  stacked : t.blocks.Stacked
  proper : ∀ marks ∈ t.blocks.marks, marks.Proper

/-- A state in which every setting that an open block has marked is declared. -/
def Restorable (t : Typesetter) : Prop :=
  ∀ marks ∈ t.blocks.marks, ∀ name ∈ marks.names, t.settings.isDeclared name = true

/-- In a sound and restorable state every open block can be cut back to. -/
theorem Sound.fit {t : Typesetter} (h : t.Sound) (hrestorable : t.Restorable) :
    ∀ marks ∈ t.blocks.marks, marks.Fit t.settings :=
  fun marks hmarks => ⟨h.proper marks hmarks, hrestorable marks hmarks⟩

/-- A step keeps a state sound, also when it is refused. -/
theorem Sound.take {t : Typesetter} (h : t.Sound) (step : Step) : (t.take step).2.Sound where
  wellFormed := wellFormed_take h.wellFormed step
  stacked := (t.moves_take step).stacked h.stacked
  proper := (t.moves_take step).forall_marks (fun _ hfit => hfit.toProper) h.proper

/-- A step that does not replace the settings keeps the marked ones declared, also when it is
refused. -/
theorem Restorable.take {t : Typesetter} (h : t.Restorable) {step : Step}
    (hplace : t.replaces step = false) : (t.take step).2.Restorable := by
  have hmarked := (t.moves_take step).forall_marks (fun _ hfit => hfit.declared) h
  intro marks hmarks name hname
  exact (leads_of_take hplace).isDeclared (hmarked marks hmarks name hname)

/-- Ending the paragraph keeps a state sound. -/
theorem Sound.flush {t : Typesetter} (h : t.Sound) : t.flush.Sound where
  wellFormed := h.wellFormed
  stacked := h.stacked.feed _
  proper := h.proper

/-- The end of a paragraph touches no setting. -/
theorem Restorable.flush {t : Typesetter} (h : t.Restorable) : t.flush.Restorable := h

/-- A document starts from well formed settings and an empty page. -/
theorem sound_ofConfig (c : Config) : (ofConfig c).Sound where
  wellFormed := Settings.wellFormed_start ..
  stacked := Blocks.stacked_empty
  proper := by
    intro marks hmarks
    rw [List.mem_singleton.1 hmarks]
    exact (Marks.fit_empty {}).toProper

/-- Every state of a document is sound. -/
theorem Reachable.sound {t : Typesetter} (h : Reachable t) : t.Sound := by
  induction h with
  | start config => exact sound_ofConfig config
  | offer _ catalog ih => exact ⟨ih.wellFormed, ih.stacked, ih.proper⟩
  | step _ step ih => exact ih.take step

/-- As long as no command replaces the settings, every marked setting is declared. -/
theorem ReachableInPlace.restorable {t : Typesetter} (h : ReachableInPlace t) :
    t.Restorable := by
  induction h with
  | start config =>
    intro marks hmarks name hname
    rw [List.mem_singleton.1 hmarks] at hname
    cases hname
  | offer _ catalog ih => exact ih
  | step _ step hplace ih => exact ih.take hplace

end Typesetter

/-- A plugin with a setting, a filter that pushes on it, and a command that puts the settings
of a new document in the place of all that are there. -/
def Plugin.renewing : Plugin where
  id := "renewing".toList
  version := { major := 1 }
  commands := [("renew".toList, fun _ =>
    .replace .standard (Settings.wellFormed_start ..) .done)]
  filters := [("shaded".toList, {
    opening := fun _ => .write (.raw "shade".toList "dark".toList) .done
    close := fun lines _ _ => .ok lines })]
  settings := [{
    name := "shade".toList
    kind := .inferred
    default := .text "light".toList }]

namespace Typesetter

/-- A replacement can take away a setting that an open block has marked. -/
theorem not_restorable_renewed :
    let shaded := (({} : Typesetter).take (.load .renewing)).2.take (.feed "@begin shaded".toList)
    let renewed := (shaded.2.take (.feed "@renew".toList)).2
    Reachable renewed ∧ shaded.2.Restorable ∧ ¬ renewed.Restorable := by
  intro shaded renewed
  refine ⟨((reachable_default.step _).step _).step _, ?_⟩
  unfold Restorable
  decide +kernel

end Typesetter

end PlainPage
