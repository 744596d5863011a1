import PlainPage.Proofs.Settings.Scripts
import PlainPage.Typesetter.Configured

/-!
# The steps of a document

A document takes one step after the other: it is fed a line, or a block is opened or
closed, a plugin loaded or enabled from outside.  A step may be refused; the next step
then starts from the state that the refusal leaves.

Main results:

- Theorems `Typesetter.openBlock_outcome` and `Typesetter.closeBlock_outcome` list what
  opening and closing a block can come to.
- Theorem `Typesetter.keepsRest_openBlock` and its companions say what stays beside the settings
  and the blocks.
- Theorem `Typesetter.take_of_opens` and its companions say which operation a step is.
- Theorem `Typesetter.leads_take` says that a step which does not replace the settings is a
  sequence of writes through the settings that it passes, also when it is refused.
- Definition `Typesetter.Reachable` is the states that steps lead to, and definition
  `Typesetter.ReachableInPlace` those that are reached without replacing the settings.
-/

namespace PlainPage

/-! ## Steps -/

/-- What a line does to the open blocks, if it is accepted. -/
inductive Nesting where
  /-- It opens a block under a filter. -/
  | opens (filter : Text) (args : List Text)
  /-- It closes the innermost block, which has the given name if there is one. -/
  | closes (filter : Option Text)
  | stays
  deriving DecidableEq, Repr

/-- What a line does to the open blocks. -/
def Nesting.ofLine (line : Text) : Nesting :=
  match Directive.ofLine? line with
  | some (.ok (.openBlock filter args)) => opens filter args
  | some (.ok (.closeBlock filter)) => closes filter
  | _ => stays

/-- A line opens a block exactly when it is that directive. -/
theorem Nesting.ofLine_eq_opens {line filter : Text} {args : List Text} :
    ofLine line = opens filter args ↔
      Directive.ofLine? line = some (.ok (.openBlock filter args)) := by
  unfold ofLine
  split <;> simp_all

/-- A line without a directive leaves the nesting alone. -/
theorem Nesting.ofLine_of_plain {line : Text} (h : Directive.ofLine? line = none) :
    ofLine line = stays := by
  simp [ofLine, h]

theorem Nesting.ofLine_eq_closes {line : Text} {filter : Option Text} :
    ofLine line = closes filter ↔ Directive.ofLine? line = some (.ok (.closeBlock filter)) := by
  unfold ofLine
  split <;> simp_all

/-- One step of a document. -/
inductive Step where
  | feed (line : Text)
  | openBlock (filter : Text) (args : List Text)
  | closeBlock (filter : Option Text)
  | load (plugin : Plugin)
  | enable (id : Text)

/-- What a step does to the open blocks. -/
def Step.nesting : Step → Nesting
  | feed line => .ofLine line
  | openBlock filter args => .opens filter args
  | closeBlock filter => .closes filter
  | load _ => .stays
  | enable _ => .stays

namespace Typesetter

/-- Take a step. -/
def take (t : Typesetter) : Step → Answer
  | .feed line => t.feed line
  | .openBlock filter args => t.openBlock filter args
  | .closeBlock filter => t.closeBlock filter
  | .load plugin => t.load plugin
  | .enable id => (.ok (), (t.enable id).2)

/-- Take steps one after the other, up to the first that is refused. -/
def takeAll (t : Typesetter) : List Step → Answer
  | [] => (.ok (), t)
  | step :: rest =>
    match t.take step with
    | (.ok _, t) => t.takeAll rest
    | (.error error, t) => (.error error, t)

/-- The states of a document: it starts from a configuration, may be offered other plugins
at any time, and takes steps, which may be refused. -/
inductive Reachable : Typesetter → Prop where
  | start (config : Config) : Reachable (ofConfig config)
  | offer {t : Typesetter} (h : Reachable t) (catalog : Table Plugin) :
      Reachable { t with catalog }
  | step {t : Typesetter} (h : Reachable t) (step : Step) : Reachable (t.take step).2

/-- A document for which nothing is configured. -/
theorem reachable_default : Reachable {} :=
  .start {}

/-- Steps are taken one after the other, as long as none fails. -/
theorem takeAll_cons_eq_ok_iff {t u : Typesetter} {step : Step} {rest : List Step} :
    t.takeAll (step :: rest) = (.ok (), u) ↔
      ∃ next, t.take step = (.ok (), next) ∧ next.takeAll rest = (.ok (), u) := by
  rw [takeAll]
  rcases htake : t.take step with ⟨answer, next⟩
  cases answer with
  | error error => simp
  | ok _ => simp

/-- An answer that is no error, with the state that it comes with. -/
theorem eq_ok_of_isOk {answer : Answer} (h : answer.1.isOk = true) :
    answer = (.ok (), answer.2) := by
  rcases answer with ⟨result, t⟩
  cases result with
  | error error => cases h
  | ok _ => rfl

/-- Feeding lines is taking them for steps. -/
theorem takeAll_map_feed (t : Typesetter) (lines : List Text) :
    t.takeAll (lines.map .feed) = t.feedAll lines := by
  induction lines generalizing t with
  | nil => rfl
  | cons line rest ih =>
    rw [List.map_cons, takeAll, feedAll, take]
    rcases t.feed line with ⟨answer, next⟩
    cases answer with
    | error error => rfl
    | ok _ => exact ih next

/-! ## Opening a block -/

/-- What opening a block comes to: no filter has the name, or the filter refuses and its
writes are cut back, or the block is open. -/
inductive OpenOutcome (t : Typesetter) (name : Text) (args : List Text) : Answer → Prop where
  | unknown (hfilter : t.repertoire.filters.get? name = none) :
      OpenOutcome t name args (.error (.unknownFilter name), t)
  | refused {filter : Filter} {settings restored : Settings} {marks : Marks}
      {cause : DocumentError} (hfilter : t.repertoire.filters.get? name = some filter)
      (hrun : (filter.opening args).run { settings := t.settings } =
        (.error cause, ⟨settings, marks⟩))
      (hrestore : marks.restore settings = (.ok (), restored)) :
      OpenOutcome t name args
        (.error (.filterFailed name .opening cause), { t with settings := restored })
  | opened {filter : Filter} {settings : Settings} {marks : Marks}
      (hfilter : t.repertoire.filters.get? name = some filter)
      (hrun : (filter.opening args).run { settings := t.settings } =
        (.ok (), ⟨settings, marks⟩)) :
      OpenOutcome t name args (.ok (), { t with
        settings, blocks := t.blocks.push { opened := some (name, filter), args, marks } })

/-- Opening a block has one of the outcomes above. -/
theorem openBlock_outcome (t : Typesetter) (name : Text) (args : List Text) :
    t.OpenOutcome name args (t.openBlock name args) := by
  unfold openBlock
  cases hfilter : t.repertoire.filters.get? name with
  | none => exact .unknown hfilter
  | some filter =>
    have habove := (MarkedSettings.above_start t.settings).run (filter.opening args)
    dsimp only
    rcases hrun : (filter.opening args).run { settings := t.settings } with
      ⟨answer, settings, marks⟩
    rw [hrun] at habove
    cases answer with
    | ok _ => exact .opened hfilter hrun
    | error cause =>
      have hfit : marks.Fit settings := habove.fit.mono fun _ => habove.isDeclared_iff.2
      rcases hfit.restore with ⟨restored, hrestore⟩
      dsimp only
      rw [hrestore]
      exact .refused hfilter hrun hrestore

/-- When a block is opened, and what that leaves. -/
theorem openBlock_eq_ok_iff {t u : Typesetter} {name : Text} {args : List Text} :
    t.openBlock name args = (.ok (), u) ↔
      ∃ filter settings marks, t.repertoire.filters.get? name = some filter ∧
        (filter.opening args).run { settings := t.settings } = (.ok (), ⟨settings, marks⟩) ∧
        u = { t with
          settings, blocks := t.blocks.push { opened := some (name, filter), args, marks } } := by
  constructor
  · intro h
    have houtcome := t.openBlock_outcome name args
    rw [h] at houtcome
    cases houtcome with
    | opened hfilter hrun => exact ⟨_, _, _, hfilter, hrun, rfl⟩
  · rintro ⟨filter, settings, marks, hfilter, hrun, rfl⟩
    simp only [openBlock, hfilter, hrun]

/-! ## Closing a block -/

/-- What closing a block comes to that has been taken off. -/
inductive FinishOutcome (t : Typesetter) (block : Block) : Answer → Prop where
  | kept {error : DocumentError} {settings : Settings}
      (hrestore : block.marks.restore t.settings = (.error error, settings)) :
      FinishOutcome t block (.error error, { t with settings })
  | unopened {settings : Settings} (hrestore : block.marks.restore t.settings = (.ok (), settings))
      (hopened : block.opened = none) :
      FinishOutcome t block (.error .nothingToClose, { t with settings })
  | failed {name : Text} {filter : Filter} {settings : Settings} {cause : DocumentError}
      (hrestore : block.marks.restore t.settings = (.ok (), settings))
      (hopened : block.opened = some (name, filter))
      (hclose : filter.close block.lines block.args settings = .error cause) :
      FinishOutcome t block (.error (.filterFailed name .closing cause), { t with settings })
  | closed {name : Text} {filter : Filter} {settings : Settings} {lines : List Text}
      (hrestore : block.marks.restore t.settings = (.ok (), settings))
      (hopened : block.opened = some (name, filter))
      (hclose : filter.close block.lines block.args settings = .ok lines) :
      FinishOutcome t block (.ok (), { t with settings, blocks := t.blocks.feed lines })

theorem finishBlock_outcome (t : Typesetter) (block : Block) :
    t.FinishOutcome block (t.finishBlock block) := by
  unfold finishBlock
  rcases hrestore : block.marks.restore t.settings with ⟨answer, settings⟩
  cases answer with
  | error error => exact .kept hrestore
  | ok _ =>
    dsimp only
    cases hopened : block.opened with
    | none => exact .unopened hrestore hopened
    | some opened =>
      rcases opened with ⟨name, filter⟩
      dsimp only
      cases hclose : filter.close block.lines block.args settings with
      | error cause => exact .failed hrestore hopened hclose
      | ok lines => exact .closed hrestore hopened hclose

/-- What closing the innermost block comes to: none is open, or it has another name, or it
is taken off and finished. -/
inductive CloseOutcome (t : Typesetter) : Option Text → Answer → Prop where
  | nothing {found : Option Text} (hdepth : t.blocks.depth = 0) :
      CloseOutcome t found (.error .nothingToClose, t)
  | mismatched {name : Text} {block : Block} {rest : Blocks}
      (hpush : t.blocks = rest.push block) (hname : name ≠ block.name) :
      CloseOutcome t (some name) (.error (.mismatchedClose block.name name), t)
  | finished {found : Option Text} {block : Block} {rest : Blocks} {answer : Answer}
      (hpush : t.blocks = rest.push block) (hname : ∀ name ∈ found, name = block.name)
      (hfinish : FinishOutcome { t with blocks := rest } block answer) :
      CloseOutcome t found answer

theorem closeBlock_outcome (t : Typesetter) (found : Option Text) :
    t.CloseOutcome found (t.closeBlock found) := by
  rcases Nat.eq_zero_or_pos t.blocks.depth with hdepth | hdepth
  · have hpop : t.blocks.pop = .error .nothingToClose := by
      simp [Blocks.pop, List.eq_nil_of_length_eq_zero hdepth]
    rw [closeBlock, hpop]
    exact .nothing hdepth
  · rcases Blocks.exists_push_of_depth hdepth with ⟨block, rest, hpush⟩
    have hfinish := finishBlock_outcome { t with blocks := rest } block
    rw [closeBlock, hpush, Blocks.pop_push]
    cases found with
    | none => exact .finished hpush (by simp) hfinish
    | some name =>
      dsimp only
      by_cases hname : name = block.name
      · rw [if_pos hname]
        exact .finished hpush (by simpa using hname) hfinish
      · rw [if_neg hname]
        exact .mismatched hpush hname

/-- When a block that has been taken off is closed, and what that leaves. -/
theorem finishBlock_eq_ok_iff {t u : Typesetter} {block : Block} :
    t.finishBlock block = (.ok (), u) ↔
      ∃ name filter settings lines, block.opened = some (name, filter) ∧
        block.marks.restore t.settings = (.ok (), settings) ∧
        filter.close block.lines block.args settings = .ok lines ∧
        u = { t with settings, blocks := t.blocks.feed lines } := by
  constructor
  · intro h
    have houtcome := t.finishBlock_outcome block
    rw [h] at houtcome
    cases houtcome with
    | closed hrestore hopened hclose => exact ⟨_, _, _, _, hopened, hrestore, hclose, rfl⟩
  · rintro ⟨name, filter, settings, lines, hopened, hrestore, hclose, rfl⟩
    simp only [finishBlock, hrestore, hopened, hclose]
    rfl

/-- When the innermost block is closed, and what that leaves. -/
theorem closeBlock_eq_ok_iff {t u : Typesetter} {found : Option Text} :
    t.closeBlock found = (.ok (), u) ↔
      ∃ (block : Block) (rest : Blocks), t.blocks = rest.push block ∧
        (∀ name ∈ found, name = block.name) ∧
        finishBlock { t with blocks := rest } block = (.ok (), u) := by
  constructor
  · intro h
    have houtcome := t.closeBlock_outcome found
    rw [h] at houtcome
    cases houtcome with
    | finished hpush hname hfinish =>
      refine ⟨_, _, hpush, hname, finishBlock_eq_ok_iff.2 ?_⟩
      cases hfinish with
      | closed hrestore hopened hclose => exact ⟨_, _, _, _, hopened, hrestore, hclose, rfl⟩
  · rintro ⟨block, rest, hpush, hname, h⟩
    rw [closeBlock, hpush, Blocks.pop_push]
    cases found with
    | none => exact h
    | some name =>
      dsimp only
      rw [if_pos (hname name rfl)]
      exact h

/-! ## What stays beside the settings and the blocks -/

/-- A state that differs from another one in the settings and the blocks only. -/
structure KeepsRest (t u : Typesetter) : Prop where
  repertoire : u.repertoire = t.repertoire
  catalog : u.catalog = t.catalog
  paragraph : u.paragraph = t.paragraph

/-- Opening a block changes nothing but the settings and the blocks. -/
theorem keepsRest_openBlock (t : Typesetter) (name : Text) (args : List Text) :
    t.KeepsRest (t.openBlock name args).2 := by
  have houtcome := t.openBlock_outcome name args
  generalize t.openBlock name args = answer at houtcome ⊢
  cases houtcome <;> exact ⟨rfl, rfl, rfl⟩

theorem keepsRest_closeBlock (t : Typesetter) (found : Option Text) :
    t.KeepsRest (t.closeBlock found).2 := by
  have houtcome := t.closeBlock_outcome found
  generalize t.closeBlock found = answer at houtcome ⊢
  cases houtcome with
  | nothing => exact ⟨rfl, rfl, rfl⟩
  | mismatched => exact ⟨rfl, rfl, rfl⟩
  | finished hpush hname hfinish => cases hfinish <;> exact ⟨rfl, rfl, rfl⟩

theorem keepsRest_withSettings (t : Typesetter) (result : Except DocumentError Settings) :
    t.KeepsRest (t.withSettings result).2 := by
  cases result <;> exact ⟨rfl, rfl, rfl⟩

theorem keepsRest_callCommand (t : Typesetter) (name : Text) (args : List Text) :
    t.KeepsRest (t.callCommand name args).2 := by
  unfold callCommand
  split <;> exact ⟨rfl, rfl, rfl⟩

/-! ## Which operation a step is -/

/-- A directive is performed once the paragraph before it has ended. -/
theorem feed_of_directive {t : Typesetter} {line : Text} {directive : Directive}
    (h : Directive.ofLine? line = some (.ok directive)) :
    t.feed line = t.flush.perform directive := by
  simp [feed, h]

/-- A state in which the paragraph may have been ended. -/
def Settles (t v : Typesetter) : Prop :=
  v = t ∨ v = t.flush

namespace Settles

variable {t v : Typesetter}

theorem settings_eq (h : t.Settles v) : v.settings = t.settings := by
  rcases h with rfl | rfl <;> rfl

theorem repertoire_eq (h : t.Settles v) : v.repertoire = t.repertoire := by
  rcases h with rfl | rfl <;> rfl

/-- Ending the paragraph writes lines into the innermost block. -/
theorem exists_feed (h : t.Settles v) : ∃ lines, v.blocks = t.blocks.feed lines := by
  rcases h with rfl | rfl
  · exact ⟨[], (Blocks.feed_nil _).symm⟩
  · exact ⟨t.pendingLines, rfl⟩

theorem depth_eq (h : t.Settles v) : v.blocks.depth = t.blocks.depth := by
  rcases h.exists_feed with ⟨lines, hblocks⟩
  rw [hblocks, Blocks.depth_feed]

end Settles

/-- A step that opens a block does so after ending the paragraph, if it is a line. -/
theorem take_of_opens (t : Typesetter) {step : Step} {filter : Text} {args : List Text}
    (h : step.nesting = .opens filter args) :
    ∃ v, t.Settles v ∧ t.take step = v.openBlock filter args := by
  cases step with
  | feed line => exact ⟨_, .inr rfl, feed_of_directive (Nesting.ofLine_eq_opens.1 h)⟩
  | openBlock =>
    cases h
    exact ⟨_, .inl rfl, rfl⟩
  | closeBlock => cases h
  | load => cases h
  | enable => cases h

/-- A step that closes a block does so after ending the paragraph, if it is a line. -/
theorem take_of_closes (t : Typesetter) {step : Step} {filter : Option Text}
    (h : step.nesting = .closes filter) :
    ∃ v, t.Settles v ∧ t.take step = v.closeBlock filter := by
  cases step with
  | feed line => exact ⟨_, .inr rfl, feed_of_directive (Nesting.ofLine_eq_closes.1 h)⟩
  | closeBlock =>
    cases h
    exact ⟨_, .inl rfl, rfl⟩
  | openBlock => cases h
  | load => cases h
  | enable => cases h

/-- The settings and the marks after a step that opens a block. -/
theorem run_of_opens {t u : Typesetter} {step : Step} {name : Text} {args : List Text}
    {filter : Filter} (hnesting : step.nesting = .opens name args)
    (hfilter : t.repertoire.filters.get? name = some filter)
    (h : t.take step = (.ok (), u)) :
    (filter.opening args).run { settings := t.settings } =
      (.ok (), ⟨u.settings, u.blocks.innermost.marks⟩) := by
  rcases t.take_of_opens hnesting with ⟨v, hsettles, htake⟩
  obtain ⟨found, settings, marks, hfound, hrun, rfl⟩ :=
    openBlock_eq_ok_iff.1 (htake.symm.trans h)
  rw [hsettles.repertoire_eq, hfilter] at hfound
  cases hfound
  rw [hsettles.settings_eq] at hrun
  exact hrun

/-- A step that closes a block restores the marks of that block. -/
theorem restore_of_closes {t u : Typesetter} {step : Step} {found : Option Text}
    (hnesting : step.nesting = .closes found) (h : t.take step = (.ok (), u)) :
    t.blocks.innermost.marks.restore t.settings = (.ok (), u.settings) := by
  rcases t.take_of_closes hnesting with ⟨v, hsettles, htake⟩
  rcases closeBlock_eq_ok_iff.1 (htake.symm.trans h) with ⟨block, rest, hpush, -, hfinish⟩
  obtain ⟨name, filter, settings, lines, -, hrestore, -, rfl⟩ :=
    finishBlock_eq_ok_iff.1 hfinish
  rcases hsettles.exists_feed with ⟨pending, hblocks⟩
  have hmarks : t.blocks.innermost.marks = block.marks := by
    calc t.blocks.innermost.marks
        = v.blocks.innermost.marks := by rw [hblocks]; rfl
      _ = block.marks := by rw [hpush]; rfl
  rw [hmarks, ← hsettles.settings_eq]
  exact hrestore

/-! ## The settings that a step passes through -/

/-- The script that a step performs, if it is the line of a command. -/
def script? (t : Typesetter) : Step → Option Action
  | .feed line =>
    match Directive.ofLine? line with
    | some (.ok (.run name args)) => (t.repertoire.commands.get? name).map (· args)
    | _ => none
  | _ => none

/-- The settings at every moment of a step after its start.  Only a command can take a
setting down and up again within one step. -/
def passes (t : Typesetter) (step : Step) : List Settings :=
  ((t.script? step).map (·.passes t.settings)).getD [] ++ [(t.take step).2.settings]

/-- The settings at every moment of steps after their start. -/
def passesAll (t : Typesetter) : List Step → List Settings
  | [] => []
  | step :: rest => t.passes step ++ (t.take step).2.passesAll rest

/-- Whether a step runs a command that replaces the settings as a whole. -/
def replaces (t : Typesetter) (step : Step) : Bool :=
  (t.script? step).any (·.replaces t.settings)

/-- Whether one of several steps runs a command that replaces the settings as a whole. -/
def replacesAny (t : Typesetter) : List Step → Bool
  | [] => false
  | step :: rest => t.replaces step || (t.take step).2.replacesAny rest

/-- The states of a document in which no command has replaced the settings as a whole. -/
inductive ReachableInPlace : Typesetter → Prop where
  | start (config : Config) : ReachableInPlace (ofConfig config)
  | offer {t : Typesetter} (h : ReachableInPlace t) (catalog : Table Plugin) :
      ReachableInPlace { t with catalog }
  | step {t : Typesetter} (h : ReachableInPlace t) (step : Step)
      (hplace : t.replaces step = false) : ReachableInPlace (t.take step).2

/-- What is reached without replacing settings is reachable. -/
theorem ReachableInPlace.reachable {t : Typesetter} (h : ReachableInPlace t) : Reachable t := by
  induction h with
  | start config => exact .start config
  | offer _ catalog ih => exact ih.offer catalog
  | step _ step _ ih => exact ih.step step

/-- A step that performs a script leaves the settings that the script leaves. -/
theorem settings_of_script? {t : Typesetter} {step : Step} {action : Action}
    (h : t.script? step = some action) :
    (t.take step).2.settings = (action.run t.settings).settings := by
  cases step with
  | openBlock => cases h
  | closeBlock => cases h
  | load => cases h
  | enable => cases h
  | feed line =>
    rw [script?] at h
    split at h
    · rename_i name args hline
      rcases Option.map_eq_some_iff.1 h with ⟨command, hcommand, rfl⟩
      have hget : t.flush.repertoire.commands.get? name = some command := hcommand
      rw [take, feed_of_directive hline, perform, callCommand, hget]
      rfl
    · cases h

/-- Only the line of a command performs a script. -/
theorem script?_eq_none {t : Typesetter} {line : Text}
    (h : ∀ name args, Directive.ofLine? line ≠ some (.ok (.run name args))) :
    t.script? (.feed line) = none := by
  rw [script?]
  split
  · rename_i name args hline
    exact absurd hline (h name args)
  · rfl

end Typesetter

/-- A property of settings that pushes and declarations keep, and that holds before a cut if
it holds after it. -/
structure Settings.Steady (P : Settings → Prop) : Prop where
  perform : ∀ (s t : Settings) (w : SettingWrite), w.perform s = .ok t → P s → P t
  declare : ∀ (s t : Settings) (name : Text) (kind : Kind) (default : Value),
    s.declare name kind default = .ok t → P s → P t
  truncate : ∀ (s t : Settings) (name : Text) (depth : Nat),
    s.truncate name depth = .ok t → P t → P s

theorem Settings.steady_true : Steady fun _ => True :=
  ⟨fun _ _ _ _ _ => trivial, fun _ _ _ _ _ _ _ => trivial, fun _ _ _ _ _ _ => trivial⟩

/-- Reaching at least a depth is steady. -/
theorem Settings.steady_depth (name : Text) {depth : Nat} (hdepth : 1 ≤ depth) :
    Steady (depth ≤ ·.depth name) where
  perform s t w h hs := Nat.le_trans hs (SettingWrite.depth_le_of_perform h name)
  declare s t other kind default h hs := by
    have hone : 1 ≤ s.depth name := Nat.le_trans hdepth hs
    rw [depth_of_declare h (isDeclared_of_one_le_depth hone)]
    exact hs
  truncate s t other lower h ht := Nat.le_trans ht (depth_le_of_truncate h name)

/-- When a plugin is loaded, and what that leaves. -/
theorem Repertoire.load_eq_ok_iff {r after : Repertoire} {s t : Settings} {p : Plugin} :
    r.load s p = .ok (after, t) ↔
      r.check s p = .ok () ∧ declareAll p.settings s = .ok t ∧ after = r.enter p := by
  unfold load
  cases hcheck : r.check s p with
  | error rejection => simp
  | ok _ =>
    simp only [bind_eq_ok_iff, true_and]
    constructor
    · rintro ⟨settings, hdeclare, heq⟩
      cases heq
      exact ⟨hdeclare, rfl⟩
    · rintro ⟨hdeclare, rfl⟩
      exact ⟨t, hdeclare, rfl⟩

namespace Typesetter

/-- What enabling a plugin leaves: a load of it, or nothing new. -/
theorem enable_cases (t : Typesetter) (id : Text) :
    (t.enable id).2 = t ∨ ∃ plugin, t.load plugin = (.ok (), (t.enable id).2) := by
  unfold enable
  split
  · exact .inl rfl
  · cases hget : t.catalog.get? id with
    | none => exact .inl rfl
    | some plugin =>
      dsimp only
      unfold load
      cases hload : t.repertoire.load t.settings plugin with
      | error error => exact .inl rfl
      | ok result => exact .inr ⟨plugin, by rw [hload]⟩

/-- Loading a plugin writes settings one by one. -/
theorem leads_load {P : Settings → Prop} (hP : Settings.Steady P) {t : Typesetter}
    (hstart : P t.settings) (plugin : Plugin) :
    Settings.Leads P t.settings (t.load plugin).2.settings := by
  unfold load
  cases hload : t.repertoire.load t.settings plugin with
  | error error => exact .refl _
  | ok result =>
    rcases Repertoire.load_eq_ok_iff.1 hload with ⟨-, hdeclare, -⟩
    exact Repertoire.leads_of_declareAll hP.declare hdeclare hstart

theorem leads_enable {P : Settings → Prop} (hP : Settings.Steady P) {t : Typesetter}
    (hstart : P t.settings) (id : Text) :
    Settings.Leads P t.settings (t.enable id).2.settings := by
  rcases t.enable_cases id with h | ⟨plugin, h⟩
  · rw [h]
    exact .refl _
  · have hload := leads_load hP hstart plugin
    rw [h] at hload
    exact hload

/-- A line that is no directive leaves the settings alone and opens and closes nothing. -/
theorem feedPlain_eq (t : Typesetter) (line : Text) :
    (t.feedPlain line).settings = t.settings ∧
      (t.feedPlain line).repertoire = t.repertoire ∧
      ∃ lines, (t.feedPlain line).blocks = t.blocks.feed lines := by
  unfold feedPlain
  split
  · exact ⟨rfl, rfl, [line], rfl⟩
  · split
    · exact ⟨rfl, rfl, [], (Blocks.feed_nil _).symm⟩
    · split
      · exact ⟨rfl, rfl, t.pendingLines, rfl⟩
      · exact ⟨rfl, rfl, _, rfl⟩

theorem blocks_load (t : Typesetter) (plugin : Plugin) :
    (t.load plugin).2.blocks = t.blocks := by
  unfold load
  split <;> rfl

theorem blocks_enable (t : Typesetter) (id : Text) : (t.enable id).2.blocks = t.blocks := by
  rcases t.enable_cases id with h | ⟨plugin, h⟩
  · rw [h]
  · have hload := t.blocks_load plugin
    rw [h] at hload
    exact hload

theorem blocks_withSettings (t : Typesetter) (result : Except DocumentError Settings) :
    (t.withSettings result).2.blocks = t.blocks := by
  cases result <;> rfl

/-- To the blocks, a command is the lines that it writes. -/
theorem blocks_callCommand (t : Typesetter) (name : Text) (args : List Text) :
    ∃ lines, (t.callCommand name args).2.blocks = t.blocks.feed lines := by
  unfold callCommand
  split
  · exact ⟨[], (Blocks.feed_nil _).symm⟩
  · exact ⟨_, rfl⟩

/-- A step that opens and closes nothing writes lines into the innermost block at most, also
when it is refused. -/
theorem blocks_of_stays {t : Typesetter} {step : Step} (h : step.nesting = .stays) :
    ∃ lines, (t.take step).2.blocks = t.blocks.feed lines := by
  cases step with
  | openBlock => cases h
  | closeBlock => cases h
  | load plugin => exact ⟨[], by rw [take, blocks_load, Blocks.feed_nil]⟩
  | enable id => exact ⟨[], by rw [take, blocks_enable, Blocks.feed_nil]⟩
  | feed line =>
    rw [take]
    cases hline : Directive.ofLine? line with
    | none =>
      rw [feed, hline]
      exact (t.feedPlain_eq line).2.2
    | some read =>
      cases read with
      | error error =>
        rw [feed, hline]
        exact ⟨t.pendingLines, rfl⟩
      | ok directive =>
        rw [feed_of_directive hline]
        cases directive with
        | openBlock => cases (Nesting.ofLine_eq_opens.2 hline).symm.trans h
        | closeBlock => cases (Nesting.ofLine_eq_closes.2 hline).symm.trans h
        | set name value => exact ⟨t.pendingLines, blocks_withSettings ..⟩
        | unset name => exact ⟨t.pendingLines, blocks_withSettings ..⟩
        | enable id => exact ⟨t.pendingLines, blocks_enable ..⟩
        | run name args =>
          rcases t.flush.blocks_callCommand name args with ⟨lines, hlines⟩
          refine ⟨t.pendingLines ++ lines, hlines.trans ?_⟩
          exact Blocks.feed_feed ..

/-- When a write to the settings is accepted, and what that leaves. -/
theorem withSettings_eq_ok_iff {t u : Typesetter} {result : Except DocumentError Settings} :
    t.withSettings result = (.ok (), u) ↔ ∃ s, result = .ok s ∧ u = { t with settings := s } := by
  cases result <;> simp [withSettings, eq_comm]

/-- A write to the settings by a directive is a sequence of writes. -/
theorem leads_withSettings {P : Settings → Prop} {t : Typesetter} (change : Settings.Change)
    (hlast : P (t.withSettings (t.settings.apply change)).2.settings) :
    Settings.Leads P t.settings (t.withSettings (t.settings.apply change)).2.settings := by
  cases happly : t.settings.apply change with
  | error error => exact .refl _
  | ok after =>
    rw [happly] at hlast
    exact .single (Settings.writes_of_apply happly) hlast

/-- A step that opens and closes nothing writes to the settings as it passes through them,
also when it is refused, unless it replaces them as a whole. -/
theorem leads_of_stays {P : Settings → Prop} (hP : Settings.Steady P) {t : Typesetter}
    {step : Step} (h : step.nesting = .stays) (hplace : t.replaces step = false)
    (hstart : P t.settings) (hpasses : ∀ s ∈ t.passes step, P s) :
    Settings.Leads P t.settings (t.take step).2.settings := by
  have hlast : P (t.take step).2.settings := hpasses _ (by simp [passes])
  cases step with
  | openBlock => cases h
  | closeBlock => cases h
  | load plugin => exact leads_load hP hstart plugin
  | enable id => exact leads_enable hP hstart id
  | feed line =>
    rw [take] at hlast ⊢
    cases hline : Directive.ofLine? line with
    | none =>
      rw [feed, hline, (t.feedPlain_eq line).1]
      exact .refl _
    | some read =>
      cases read with
      | error error =>
        rw [feed, hline]
        exact .refl _
      | ok directive =>
        rw [feed_of_directive hline] at hlast ⊢
        cases directive with
        | openBlock => cases (Nesting.ofLine_eq_opens.2 hline).symm.trans h
        | closeBlock => cases (Nesting.ofLine_eq_closes.2 hline).symm.trans h
        | set name value => exact leads_withSettings (.set name value) hlast
        | unset name => exact leads_withSettings (.unset name) hlast
        | enable id => exact leads_enable hP (t := t.flush) hstart id
        | run name args =>
          rw [perform, callCommand]
          cases hcommand : t.flush.repertoire.commands.get? name with
          | none => exact .refl _
          | some command =>
            have hget : t.repertoire.commands.get? name = some command := hcommand
            have hscript : t.script? (.feed line) = some (command args) := by
              simp [script?, hline, hget]
            rw [replaces, hscript, Option.any_some] at hplace
            refine Action.leads_run (command args) (s := t.settings) hplace fun s hs => ?_
            refine hpasses s (List.mem_append_left _ ?_)
            rw [hscript]
            exact hs

/-- Opening a block pushes values; when it is refused, they are cut back. -/
theorem leads_openBlock {P : Settings → Prop} (hP : Settings.Steady P) {t : Typesetter}
    {name : Text} {args : List Text} (hstart : P t.settings)
    (hlast : P (t.openBlock name args).2.settings) :
    Settings.Leads P t.settings (t.openBlock name args).2.settings := by
  have hopening : ∀ filter : Filter, Settings.Leads P t.settings
      ((filter.opening args).run { settings := t.settings }).2.settings :=
    fun filter => Opening.leads_run hP.perform (filter.opening args)
      (m := { settings := t.settings }) hstart
  have houtcome := t.openBlock_outcome name args
  generalize t.openBlock name args = answer at hlast houtcome ⊢
  cases houtcome with
  | unknown => exact .refl _
  | @refused filter _ _ _ _ _ hrun hrestore =>
    have hpushed := hopening filter
    rw [hrun] at hpushed
    exact hpushed.trans (Marks.leads_of_cutBack hP.truncate hrestore hlast).2
  | @opened filter _ _ _ hrun =>
    have hpushed := hopening filter
    rw [hrun] at hpushed
    exact hpushed

/-- Closing a block cuts settings back, whether its filter succeeds or not. -/
theorem leads_closeBlock {P : Settings → Prop} (hP : Settings.Steady P) {t : Typesetter}
    {found : Option Text} (hlast : P (t.closeBlock found).2.settings) :
    Settings.Leads P t.settings (t.closeBlock found).2.settings := by
  have houtcome := t.closeBlock_outcome found
  generalize t.closeBlock found = answer at hlast houtcome ⊢
  cases houtcome with
  | nothing => exact .refl _
  | mismatched => exact .refl _
  | finished hpush hname hfinish =>
    cases hfinish with
    | kept hrestore => exact (Marks.leads_of_cutBack hP.truncate hrestore hlast).2
    | unopened hrestore => exact (Marks.leads_of_cutBack hP.truncate hrestore hlast).2
    | failed hrestore => exact (Marks.leads_of_cutBack hP.truncate hrestore hlast).2
    | closed hrestore => exact (Marks.leads_of_cutBack hP.truncate hrestore hlast).2

/-- A step is a sequence of writes to the settings as it passes through them, also when it
is refused, unless it replaces them as a whole. -/
theorem leads_take {P : Settings → Prop} (hP : Settings.Steady P) {t : Typesetter} {step : Step}
    (hplace : t.replaces step = false) (hstart : P t.settings)
    (hpasses : ∀ s ∈ t.passes step, P s) :
    Settings.Leads P t.settings (t.take step).2.settings := by
  have hlast : P (t.take step).2.settings := hpasses _ (by simp [passes])
  cases hnesting : step.nesting with
  | stays => exact leads_of_stays hP hnesting hplace hstart hpasses
  | opens filter args =>
    rcases t.take_of_opens hnesting with ⟨v, hsettles, htake⟩
    rw [htake] at hlast ⊢
    rw [← hsettles.settings_eq] at hstart ⊢
    exact leads_openBlock hP hstart hlast
  | closes found =>
    rcases t.take_of_closes hnesting with ⟨v, hsettles, htake⟩
    rw [htake] at hlast ⊢
    rw [← hsettles.settings_eq]
    exact leads_closeBlock hP hlast

/-- A step that does not replace the settings is a sequence of writes to them, also when it is
refused. -/
theorem leads_of_take {t : Typesetter} {step : Step} (hplace : t.replaces step = false) :
    Settings.Leads (fun _ => True) t.settings (t.take step).2.settings :=
  leads_take Settings.steady_true hplace trivial fun _ _ => trivial

/-- Accepted steps are a sequence of writes to the settings as they pass through them, if no
step replaces them as a whole. -/
theorem leads_takeAll {P : Settings → Prop} (hP : Settings.Steady P) {t u : Typesetter}
    {steps : List Step} (h : t.takeAll steps = (.ok (), u))
    (hplace : t.replacesAny steps = false) (hstart : P t.settings)
    (hpasses : ∀ s ∈ t.passesAll steps, P s) : Settings.Leads P t.settings u.settings := by
  induction steps generalizing t with
  | nil =>
    cases h
    exact .refl _
  | cons step rest ih =>
    rcases takeAll_cons_eq_ok_iff.1 h with ⟨next, htake, hrest⟩
    rw [replacesAny, Bool.or_eq_false_iff] at hplace
    have hfirst := leads_take hP hplace.1 hstart fun s hs =>
      hpasses s (List.mem_append_left _ hs)
    have hlater : ∀ s ∈ next.passesAll rest, P s := by
      intro s hs
      refine hpasses s (List.mem_append_right _ ?_)
      rw [htake]
      exact hs
    rw [htake] at hfirst hplace
    exact hfirst.trans (ih hrest hplace.2 (hfirst.last hstart) hlater)

end Typesetter

end PlainPage
