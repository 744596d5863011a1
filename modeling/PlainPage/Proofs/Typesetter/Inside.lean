import PlainPage.Proofs.Typesetter.Steps

/-!
# Documents inside blocks

What a step does never depends on the lines that are already there, nor on the blocks
around the one it is in.  So a document that is set on a page of its own can be put inside
the blocks of another, and steps do the same in both places.

Main results:

- Definition `Typesetter.inside` puts a document inside open blocks.
- Theorem `Typesetter.take_inside` says that a step does inside blocks what it does on a
  page, as long as it closes none of them.
- Definition `Typesetter.StaysAbove` says that steps leave enough blocks open.
- Theorems `Typesetter.takeAll_inside` and `Typesetter.exists_of_takeAll_inside` say that
  accepted steps do the same in both places.
-/

namespace PlainPage

/-! ## Blocks inside blocks -/

namespace Blocks

/-- The blocks from `block` outwards, put inside `base`: the lines of the outermost one go
to the innermost block of `base`. -/
def stackOn (base : Blocks) : Block → List Block → Blocks
  | page, [] => base.feed page.lines
  | block, next :: rest => (stackOn base next rest).push block

/-- The blocks `b`, put inside `base`. -/
def inside (b base : Blocks) : Blocks :=
  stackOn base b.innermost b.outer

/-- An empty page inside blocks is nothing new. -/
@[simp] theorem empty_inside (base : Blocks) : ({} : Blocks).inside base = base :=
  base.feed_nil

@[simp] theorem push_inside (b base : Blocks) (block : Block) :
    (b.push block).inside base = (b.inside base).push block := rfl

@[simp] theorem feed_inside (b base : Blocks) (lines : List Text) :
    (b.feed lines).inside base = (b.inside base).feed lines := by
  rcases b with ⟨innermost, outer⟩
  cases outer with
  | nil => exact (base.feed_feed innermost.lines lines).symm
  | cons next rest => rfl

theorem depth_stackOn (base : Blocks) (block : Block) (outer : List Block) :
    (stackOn base block outer).depth = outer.length + base.depth := by
  induction outer generalizing block with
  | nil => simp [stackOn]
  | cons next rest ih =>
    rw [stackOn, depth_push, ih next, List.length_cons]
    omega

@[simp] theorem depth_inside (b base : Blocks) :
    (b.inside base).depth = b.depth + base.depth :=
  depth_stackOn base b.innermost b.outer

/-- A page inside blocks is its lines at the end of the innermost one. -/
theorem inside_of_depth_eq_zero {b : Blocks} (h : b.depth = 0) (base : Blocks) :
    b.inside base = base.feed b.innermost.lines := by
  rcases b with ⟨innermost, outer⟩
  cases outer with
  | nil => rfl
  | cons next rest => cases h

end Blocks

/-! ## Steps inside blocks -/

namespace Typesetter

/-- A document inside open blocks. -/
def inside (t : Typesetter) (base : Blocks) : Typesetter :=
  { t with blocks := t.blocks.inside base }

section Projections

variable (t : Typesetter) (base : Blocks)

@[simp] theorem settings_inside : (t.inside base).settings = t.settings := rfl

@[simp] theorem repertoire_inside : (t.inside base).repertoire = t.repertoire := rfl

@[simp] theorem blocks_inside : (t.inside base).blocks = t.blocks.inside base := rfl

end Projections

/-- Writing does not see the blocks around a page. -/
theorem write_inside (t : Typesetter) (base : Blocks) (lines : List Text) :
    (t.inside base).write lines = (t.write lines).inside base := by
  simp [write, inside]

theorem flush_inside (t : Typesetter) (base : Blocks) :
    (t.inside base).flush = t.flush.inside base := by
  simp only [flush, inside, Blocks.feed_inside]
  rfl

theorem feedPlain_inside (t : Typesetter) (base : Blocks) (line : Text) :
    (t.inside base).feedPlain line = (t.feedPlain line).inside base := by
  unfold feedPlain
  rw [settings_inside, flush_inside, write_inside]
  split
  · rfl
  · split
    · rfl
    · split
      · rfl
      · simp only [feedProse, inside, Blocks.feed_inside]
        rfl

theorem openBlock_inside (t : Typesetter) (base : Blocks) (name : Text) (args : List Text) :
    (t.inside base).openBlock name args =
      ((t.openBlock name args).1, (t.openBlock name args).2.inside base) := by
  unfold openBlock
  rw [repertoire_inside, settings_inside]
  cases t.repertoire.filters.get? name with
  | none => rfl
  | some filter =>
    dsimp only
    rcases (filter.opening args).run { settings := t.settings } with ⟨answer, settings, marks⟩
    cases answer with
    | ok _ => rfl
    | error cause =>
      dsimp only
      rcases marks.restore settings with ⟨answer, restored⟩
      cases answer <;> rfl

theorem finishBlock_inside (t : Typesetter) (base : Blocks) (block : Block) :
    (t.inside base).finishBlock block =
      ((t.finishBlock block).1, (t.finishBlock block).2.inside base) := by
  unfold finishBlock
  rw [settings_inside]
  rcases block.marks.restore t.settings with ⟨answer, settings⟩
  cases answer with
  | error error => rfl
  | ok _ =>
    dsimp only
    cases block.opened with
    | none => rfl
    | some opened =>
      rcases opened with ⟨name, filter⟩
      dsimp only
      cases filter.close block.lines block.args settings with
      | error cause => rfl
      | ok lines => exact congrArg (Prod.mk _) (write_inside { t with settings } base lines)

theorem closeBlock_inside {t : Typesetter} (h : 0 < t.blocks.depth) (base : Blocks)
    (found : Option Text) :
    (t.inside base).closeBlock found =
      ((t.closeBlock found).1, (t.closeBlock found).2.inside base) := by
  rcases Blocks.exists_push_of_depth h with ⟨block, rest, hpush⟩
  have hfinish := finishBlock_inside { t with blocks := rest } base block
  unfold closeBlock
  rw [blocks_inside, hpush, Blocks.push_inside, Blocks.pop_push, Blocks.pop_push]
  dsimp only
  cases found with
  | none => exact hfinish
  | some name =>
    dsimp only
    by_cases hname : name = block.name
    · rw [if_pos hname, if_pos hname]
      exact hfinish
    · rw [if_neg hname, if_neg hname]

theorem withSettings_inside (t : Typesetter) (base : Blocks)
    (result : Except DocumentError Settings) :
    (t.inside base).withSettings result =
      ((t.withSettings result).1, (t.withSettings result).2.inside base) := by
  cases result <;> rfl

theorem callCommand_inside (t : Typesetter) (base : Blocks) (name : Text) (args : List Text) :
    (t.inside base).callCommand name args =
      ((t.callCommand name args).1, (t.callCommand name args).2.inside base) := by
  unfold callCommand
  rw [repertoire_inside, settings_inside]
  cases t.repertoire.commands.get? name with
  | none => rfl
  | some command =>
    simp only [inside, Blocks.feed_inside]

theorem load_inside (t : Typesetter) (base : Blocks) (plugin : Plugin) :
    (t.inside base).load plugin = ((t.load plugin).1, (t.load plugin).2.inside base) := by
  unfold load
  rw [repertoire_inside, settings_inside]
  cases t.repertoire.load t.settings plugin <;> rfl

theorem enable_inside (t : Typesetter) (base : Blocks) (id : Text) :
    (t.inside base).enable id = ((t.enable id).1, (t.enable id).2.inside base) := by
  unfold enable
  rw [repertoire_inside]
  split
  · rfl
  · have hcatalog : (t.inside base).catalog = t.catalog := rfl
    rw [hcatalog]
    cases t.catalog.get? id with
    | none => rfl
    | some plugin =>
      dsimp only
      rw [load_inside]
      rcases t.load plugin with ⟨answer, u⟩
      cases answer <;> rfl

/-- A step does inside blocks what it does on a page, as long as it closes none of them. -/
theorem take_inside {t : Typesetter} {step : Step}
    (h : ∀ found, step.nesting = .closes found → 0 < t.blocks.depth) (base : Blocks) :
    (t.inside base).take step = ((t.take step).1, (t.take step).2.inside base) := by
  cases step with
  | openBlock name args => exact openBlock_inside ..
  | closeBlock found => exact closeBlock_inside (h found rfl) base found
  | load plugin => exact load_inside ..
  | enable id =>
    rw [take, take, enable_inside]
  | feed line =>
    rw [take, take]
    cases hline : Directive.ofLine? line with
    | none =>
      rw [feed, feed, hline, feedPlain_inside]
    | some read =>
      cases read with
      | error error =>
        rw [feed, feed, hline, flush_inside]
      | ok directive =>
        rw [feed_of_directive hline, feed_of_directive hline, flush_inside]
        cases directive with
        | openBlock name args => exact openBlock_inside ..
        | closeBlock found =>
          exact closeBlock_inside (t := t.flush) (h found (Nesting.ofLine_eq_closes.2 hline))
            base found
        | set name value => exact withSettings_inside ..
        | unset name => exact withSettings_inside ..
        | enable id =>
          rw [perform, perform, enable_inside]
        | run name args => exact callCommand_inside ..

/-! ## The number of open blocks -/

/-- A line that opens a block goes one deeper. -/
theorem depth_of_opens {t u : Typesetter} (step : Step) {filter : Text} {args : List Text}
    (hnesting : step.nesting = .opens filter args) (h : t.take step = (.ok (), u)) :
    u.blocks.depth = t.blocks.depth + 1 := by
  rcases t.take_of_opens hnesting with ⟨v, hsettles, htake⟩
  rcases openBlock_eq_ok_iff.1 (htake.symm.trans h) with ⟨found, settings, marks, -, -, rfl⟩
  rw [← hsettles.depth_eq]
  rfl

/-- A line that closes a block comes back from it. -/
theorem depth_of_closes {t u : Typesetter} (step : Step) {found : Option Text}
    (hnesting : step.nesting = .closes found) (h : t.take step = (.ok (), u)) :
    t.blocks.depth = u.blocks.depth + 1 := by
  rcases t.take_of_closes hnesting with ⟨v, hsettles, htake⟩
  rcases closeBlock_eq_ok_iff.1 (htake.symm.trans h) with ⟨block, rest, hpush, -, hfinish⟩
  rcases finishBlock_eq_ok_iff.1 hfinish with ⟨name, filter, settings, lines, -, -, -, rfl⟩
  rw [← hsettles.depth_eq, hpush]
  rfl

/-- Any other step stays where it is, even if it fails. -/
theorem depth_of_stays (t : Typesetter) (step : Step) (hnesting : step.nesting = .stays) :
    (t.take step).2.blocks.depth = t.blocks.depth := by
  rcases blocks_of_stays (t := t) hnesting with ⟨lines, hblocks⟩
  rw [hblocks, Blocks.depth_feed]

/-! ## Steps one after the other -/

/-- At least `floor` blocks are open before, between and after the steps. -/
def StaysAbove (t : Typesetter) (floor : Nat) : List Step → Prop
  | [] => floor ≤ t.blocks.depth
  | step :: rest => floor ≤ t.blocks.depth ∧ (t.take step).2.StaysAbove floor rest

instance decidableStaysAbove (t : Typesetter) (floor : Nat) :
    (steps : List Step) → Decidable (t.StaysAbove floor steps)
  | [] => inferInstanceAs (Decidable (floor ≤ t.blocks.depth))
  | step :: rest =>
    have := decidableStaysAbove (t.take step).2 floor rest
    inferInstanceAs (Decidable (floor ≤ t.blocks.depth ∧ (t.take step).2.StaysAbove floor rest))

/-- What stays above a floor does so after its first step. -/
theorem StaysAbove.next {t next : Typesetter} {floor : Nat} {step : Step} {rest : List Step}
    (h : t.StaysAbove floor (step :: rest)) (htake : t.take step = (.ok (), next)) :
    next.StaysAbove floor rest := by
  have hrest := h.2
  rw [htake] at hrest
  exact hrest

theorem StaysAbove.start {t : Typesetter} {floor : Nat} {steps : List Step}
    (h : t.StaysAbove floor steps) : floor ≤ t.blocks.depth := by
  cases steps with
  | nil => exact h
  | cons step rest => exact h.1

/-- Accepted steps do the same inside blocks. -/
theorem takeAll_inside {t u : Typesetter} {steps : List Step}
    (h : t.takeAll steps = (.ok (), u)) (base : Blocks) :
    (t.inside base).takeAll steps = (.ok (), u.inside base) := by
  induction steps generalizing t with
  | nil =>
    cases h
    rfl
  | cons step rest ih =>
    rcases takeAll_cons_eq_ok_iff.1 h with ⟨next, htake, hrest⟩
    have hopen : ∀ found, step.nesting = .closes found → 0 < t.blocks.depth := by
      intro found hnesting
      have hdepth := depth_of_closes step hnesting htake
      omega
    have hinside := take_inside hopen base
    rw [htake] at hinside
    exact takeAll_cons_eq_ok_iff.2 ⟨next.inside base, hinside, ih hrest⟩

/-- Steps that are accepted inside blocks and close none of them do the same on a page. -/
theorem exists_of_takeAll_inside {t w : Typesetter} {base : Blocks} {steps : List Step}
    (h : (t.inside base).takeAll steps = (.ok (), w))
    (hfloor : (t.inside base).StaysAbove base.depth steps) :
    ∃ u, t.takeAll steps = (.ok (), u) ∧ w = u.inside base := by
  induction steps generalizing t with
  | nil =>
    cases h
    exact ⟨t, rfl, rfl⟩
  | cons step rest ih =>
    rcases takeAll_cons_eq_ok_iff.1 h with ⟨next, htake, hrest⟩
    have hnext := hfloor.next htake
    have hopen : ∀ found, step.nesting = .closes found → 0 < t.blocks.depth := by
      intro found hnesting
      have hdepth := depth_of_closes step hnesting htake
      have hstart := hnext.start
      rw [blocks_inside, Blocks.depth_inside] at hdepth
      omega
    have hinside := take_inside hopen base
    rw [htake] at hinside
    rcases hstep : t.take step with ⟨answer, after⟩
    rw [hstep] at hinside
    cases hinside
    rcases ih hrest hnext with ⟨u, hu, hw⟩
    exact ⟨u, takeAll_cons_eq_ok_iff.2 ⟨after, hstep, hu⟩, hw⟩

end Typesetter

end PlainPage
