import PlainPage.Proofs.Plugin.Acceptance

/-!
# The plugins of a document over its whole history

A step loads one plugin at most: a load from outside does, and an enabling from outside or
by a line of the document, when the catalog has the plugin and the check lets it pass.
Every other step leaves the commands, the filters and the loaded plugins alone.

Main results:

- Definition `Typesetter.loads?` is the plugin that a step loads, and theorem
  `Typesetter.acquires_take` says that a step does no more to the repertoire.
- Theorem `Ordered.acyclic` says that plugins which find those they need among the earlier
  ones need each other in no circle.
- Theorem `Typesetter.retains_take` says that no command, filter or plugin is lost once it is
  entered.
- Theorem `Typesetter.retainsSettings_take` says the same of settings, as long as no command
  replaces them as a whole.
- Theorem `Typesetter.Reachable.inPlace` says that only a command can replace the settings.
- Theorem `Typesetter.lawful` says what holds of the plugins after any steps.
-/

namespace PlainPage

namespace Typesetter

/-! ## The plugin that a step loads -/

/-- The plugin that an enabling loads. -/
def enabled? (t : Typesetter) (id : Text) : Option Plugin :=
  if t.repertoire.loaded.contains id then none
  else (t.catalog.get? id).filter fun p => (t.load p).1.isOk

/-- The plugin that a step loads. -/
def loads? (t : Typesetter) : Step → Option Plugin
  | .load p => if (t.load p).1.isOk then some p else none
  | .enable id => t.enabled? id
  | .feed line =>
    match Directive.ofLine? line with
    | some (.ok (.enable id)) => t.flush.enabled? id
    | _ => none
  | .openBlock _ _ => none
  | .closeBlock _ => none

/-- What a step does to the repertoire: it loads a plugin, or leaves all as it was. -/
inductive Acquires (t : Typesetter) : Option Plugin → Typesetter → Prop where
  | loaded {p : Plugin} {v u : Typesetter} (hsettles : t.Settles v)
      (hload : v.load p = (.ok (), u)) : Acquires t (some p) u
  | nothing {u : Typesetter} (hrepertoire : u.repertoire = t.repertoire) : Acquires t none u

/-- A plugin that is loaded has passed the check, and the document gains what it brings. -/
theorem Acquires.gains {t u : Typesetter} {p : Plugin} (h : t.Acquires (some p) u) :
    t.repertoire.Admits t.settings p ∧ ∃ v, t.Settles v ∧ v.Gains p u := by
  cases h with
  | @loaded _ v _ hsettles hload =>
    rcases gains_of_load hload with ⟨hadmits, hgains⟩
    rw [hsettles.repertoire_eq, hsettles.settings_eq] at hadmits
    exact ⟨hadmits, v, hsettles, hgains⟩

/-- Loading acquires the plugin, or nothing when it is refused. -/
theorem acquires_load {t v : Typesetter} (hsettles : t.Settles v) (p : Plugin) :
    t.Acquires (if (v.load p).1.isOk then some p else none) (v.load p).2 := by
  by_cases hok : (v.load p).1.isOk = true
  · rw [if_pos hok]
    exact .loaded hsettles (eq_ok_of_isOk hok)
  · rw [if_neg hok]
    refine .nothing ?_
    by_cases hadmits : v.repertoire.Admits v.settings p
    · rcases gains_of_admits hadmits with ⟨u, hload, -⟩
      rw [hload] at hok
      exact absurd rfl hok
    · rcases load_of_not_admits hadmits with ⟨rejection, hload⟩
      rw [hload]
      exact hsettles.repertoire_eq

/-- Enabling acquires the plugin that it loads, if any. -/
theorem acquires_enable {t v : Typesetter} (hsettles : t.Settles v) (id : Text) :
    t.Acquires (v.enabled? id) (v.enable id).2 := by
  unfold enabled? enable
  by_cases hloaded : v.repertoire.loaded.contains id = true
  · rw [if_pos hloaded, if_pos hloaded]
    exact .nothing hsettles.repertoire_eq
  · rw [if_neg hloaded, if_neg hloaded]
    cases hcatalog : v.catalog.get? id with
    | none => exact .nothing hsettles.repertoire_eq
    | some p =>
      have h := acquires_load hsettles p
      rw [Option.filter_some]
      dsimp only
      rcases hload : v.load p with ⟨answer, u⟩
      rw [hload] at h
      cases answer with
      | ok _ => exact h
      | error error => exact h

/-- A step loads the plugin that it is said to load, and does no more to the repertoire. -/
theorem acquires_take (t : Typesetter) (step : Step) :
    t.Acquires (t.loads? step) (t.take step).2 := by
  cases step with
  | load p => exact acquires_load (.inl rfl) p
  | enable id => exact acquires_enable (.inl rfl) id
  | openBlock name args => exact .nothing (t.keepsRest_openBlock name args).repertoire
  | closeBlock found => exact .nothing (t.keepsRest_closeBlock found).repertoire
  | feed line =>
    rw [loads?, take, feed]
    cases hline : Directive.ofLine? line with
    | none => exact .nothing (t.feedPlain_eq line).2.1
    | some read =>
      cases read with
      | error error => exact .nothing rfl
      | ok directive =>
        cases directive with
        | enable id => exact acquires_enable (.inr rfl) id
        | openBlock name args => exact .nothing (t.flush.keepsRest_openBlock name args).repertoire
        | closeBlock found => exact .nothing (t.flush.keepsRest_closeBlock found).repertoire
        | set name value => exact .nothing (t.flush.keepsRest_withSettings _).repertoire
        | unset name => exact .nothing (t.flush.keepsRest_withSettings _).repertoire
        | run name args => exact .nothing (t.flush.keepsRest_callCommand name args).repertoire

/-! ## What stays once it is entered -/

/-- A later state of a document keeps every command, every filter and every version of a
plugin that was there. -/
structure Retains (t u : Typesetter) : Prop where
  commands : u.repertoire.commands.Extends t.repertoire.commands
  filters : u.repertoire.filters.Extends t.repertoire.filters
  loaded : u.repertoire.loaded.Extends t.repertoire.loaded
  disabled : u.repertoire.disabled = t.repertoire.disabled

theorem Retains.refl (t : Typesetter) : t.Retains t :=
  ⟨.refl _, .refl _, .refl _, rfl⟩

theorem Retains.trans {t u v : Typesetter} (h : t.Retains u) (hnext : u.Retains v) :
    t.Retains v :=
  ⟨hnext.commands.trans h.commands, hnext.filters.trans h.filters, hnext.loaded.trans h.loaded,
    hnext.disabled.trans h.disabled⟩

/-- A step loses nothing that was entered, also when it is refused. -/
theorem retains_take (t : Typesetter) (step : Step) : t.Retains (t.take step).2 := by
  have hacquires := t.acquires_take step
  generalize t.loads? step = found, (t.take step).2 = u at hacquires ⊢
  cases found with
  | none =>
    cases hacquires with
    | nothing hsame =>
      refine ⟨?_, ?_, ?_, ?_⟩ <;> rw [hsame]
      · exact .refl _
      · exact .refl _
      · exact .refl _
  | some p =>
    rcases hacquires.gains with ⟨-, v, hsettles, hgains⟩
    have hsame := hsettles.repertoire_eq
    refine ⟨?_, ?_, ?_, ?_⟩ <;> rw [← hsame]
    · exact fun name command h => (hgains.commands name command).2 (.inl h)
    · exact fun name filter h => (hgains.filters name filter).2 (.inl h)
    · exact fun id version h => (hgains.loaded id version).2 (.inl h)
    · exact hgains.disabled

/-- A later state of a document keeps the kind and the default of every setting. -/
def RetainsSettings (t u : Typesetter) : Prop :=
  ∀ name earlier, t.settings.entries.get? name = some earlier →
    ∃ later, u.settings.entries.get? name = some later ∧ later.kind = earlier.kind ∧
      later.default = earlier.default

theorem RetainsSettings.refl (t : Typesetter) : t.RetainsSettings t :=
  fun _ earlier h => ⟨earlier, h, rfl, rfl⟩

theorem RetainsSettings.trans {t u v : Typesetter} (h : t.RetainsSettings u)
    (hnext : u.RetainsSettings v) : t.RetainsSettings v := by
  intro name earlier hearlier
  rcases h name earlier hearlier with ⟨between, hbetween, hkind, hdefault⟩
  rcases hnext name between hbetween with ⟨later, hlater, hkind', hdefault'⟩
  exact ⟨later, hlater, hkind'.trans hkind, hdefault'.trans hdefault⟩

/-- The state after steps, of which some may be refused. -/
def through (t : Typesetter) : List Step → Typesetter
  | [] => t
  | step :: rest => (t.take step).2.through rest

/-- The plugins that steps load, the first one first. -/
def accepted (t : Typesetter) : List Step → List Plugin
  | [] => []
  | step :: rest => (t.loads? step).toList ++ (t.take step).2.accepted rest

/-- Steps may be taken in two parts. -/
theorem through_append (t : Typesetter) (steps more : List Step) :
    t.through (steps ++ more) = (t.through steps).through more := by
  induction steps generalizing t with
  | nil => rfl
  | cons step rest ih => exact ih _

/-- With commands that leave the settings in place, no step replaces them. -/
theorem replaces_eq_false {t : Typesetter}
    (hcommands : ∀ name command, t.repertoire.commands.get? name = some command →
      command.InPlace) (step : Step) : t.replaces step = false := by
  cases hscript : t.script? step with
  | none => simp [replaces, hscript]
  | some action =>
    rw [replaces, hscript, Option.any_some]
    cases step with
    | openBlock => cases hscript
    | closeBlock => cases hscript
    | load => cases hscript
    | enable => cases hscript
    | feed line =>
      rw [script?] at hscript
      split at hscript
      · rename_i name args hline
        rcases Option.map_eq_some_iff.1 hscript with ⟨command, hcommand, rfl⟩
        exact hcommands name command hcommand args t.settings
      · cases hscript

/-- With commands that all leave the settings in place, every state is reached so. -/
theorem Reachable.inPlace {t : Typesetter} (h : Reachable t)
    (hcommands : ∀ name command, t.repertoire.commands.get? name = some command →
      command.InPlace) : ReachableInPlace t := by
  induction h with
  | start config => exact .start config
  | offer _ catalog ih => exact (ih hcommands).offer catalog
  | @step t _ step ih =>
    -- The commands of the state before the step are still there after it.
    have hbefore : ∀ name command, t.repertoire.commands.get? name = some command →
        command.InPlace := fun name command hcommand =>
      hcommands name command ((t.retains_take step).commands name command hcommand)
    exact (ih hbefore).step step (replaces_eq_false hbefore step)

end Typesetter

/-! ## Plugins in the order of their loading -/

namespace Plugin

/-- A plugin that names another one among those it needs. -/
def Needs (p q : Plugin) : Prop :=
  ∃ d ∈ p.depends, d.id = q.id

/-- A plugin that will do for another one that needs it. -/
def Serves (q : Plugin) (d : Dependency) : Prop :=
  q.id = d.id ∧ ∀ needed ∈ d.minimum, q.version.AtLeast needed

/-- Plugins under different names, each of which finds those that it needs among the earlier
ones. -/
inductive Ordered : List Plugin → Prop where
  | nil : Ordered []
  | snoc {earlier : List Plugin} {p : Plugin} (h : Ordered earlier)
      (hnew : p.id ∉ earlier.map (·.id)) (hdepends : ∀ d ∈ p.depends, ∃ q ∈ earlier, q.Serves d) :
      Ordered (earlier ++ [p])

end Plugin

/-! ## What holds of the plugins after any steps -/

namespace Typesetter

/-- A document that has loaded the plugins of a list, in the order of the list. -/
structure HasLoaded (t : Typesetter) (plugins : List Plugin) : Prop where
  ordered : Plugin.Ordered plugins
  /-- The loaded plugins are those of the list, in their versions. -/
  loaded : ∀ id version, t.repertoire.loaded.get? id = some version ↔
    ∃ p ∈ plugins, (p.id, p.version) = (id, version)
  /-- No name is blank, and none belongs to a plugin that may not be loaded. -/
  loadable : ∀ p ∈ plugins, (∃ c ∈ p.id, isWhite c = false) ∧ p.id ∉ t.repertoire.disabled

/-- What a plugin needs is at hand when it is loaded. -/
theorem HasLoaded.exists_serves {t : Typesetter} {plugins : List Plugin}
    (h : t.HasLoaded plugins) {d : Dependency} (hmeets : t.repertoire.Meets d) :
    ∃ q ∈ plugins, q.Serves d := by
  rcases hmeets with ⟨-, version, hversion, hminimum⟩
  rcases (h.loaded d.id version).1 hversion with ⟨q, hq, heq⟩
  rw [Prod.mk.injEq] at heq
  rcases heq with ⟨hid, rfl⟩
  exact ⟨q, hq, hid, hminimum⟩

/-- A step adds the plugin that it loads, if any. -/
theorem HasLoaded.take {t : Typesetter} {plugins : List Plugin} (h : t.HasLoaded plugins)
    (step : Step) : (t.take step).2.HasLoaded (plugins ++ (t.loads? step).toList) := by
  have hacquires := t.acquires_take step
  generalize t.loads? step = found, (t.take step).2 = u at hacquires ⊢
  cases found with
  | none =>
    cases hacquires with
    | nothing hsame =>
      rw [Option.toList_none, List.append_nil]
      refine ⟨h.ordered, ?_, ?_⟩
      · rw [hsame]
        exact h.loaded
      · rw [hsame]
        exact h.loadable
  | some p =>
    rcases hacquires.gains with ⟨hadmits, v, hsettles, hgains⟩
    have hloaded : ∀ id version, u.repertoire.loaded.get? id = some version ↔
        t.repertoire.loaded.get? id = some version ∨ (id, version) = (p.id, p.version) := by
      rw [← hsettles.repertoire_eq]
      exact hgains.loaded
    have hdisabled : u.repertoire.disabled = t.repertoire.disabled := by
      rw [hgains.disabled, hsettles.repertoire_eq]
    refine ⟨.snoc h.ordered ?_ fun d hd => h.exists_serves (hadmits.depends d hd), ?_, ?_⟩
    · intro hmem
      rcases List.mem_map.1 hmem with ⟨q, hq, hid⟩
      have hold := (h.loaded q.id q.version).2 ⟨q, hq, rfl⟩
      rw [hid, hadmits.new] at hold
      cases hold
    · intro id version
      rw [hloaded, h.loaded]
      simp [or_and_right, exists_or, eq_comm]
    · intro q hq
      rw [hdisabled]
      rcases List.mem_append.1 hq with hold | hlast
      · exact h.loadable q hold
      · rw [List.mem_singleton.1 hlast]
        exact ⟨hadmits.named, hadmits.enabled⟩

/-- Steps add the plugins that they load, in their order. -/
theorem HasLoaded.through {t : Typesetter} {plugins : List Plugin} (h : t.HasLoaded plugins)
    (steps : List Step) : (t.through steps).HasLoaded (plugins ++ t.accepted steps) := by
  induction steps generalizing t plugins with
  | nil =>
    rw [accepted, List.append_nil]
    exact h
  | cons step rest ih =>
    rw [accepted, ← List.append_assoc]
    exact ih (h.take step)

/-- A command that replaces the settings takes away the setting that a plugin has declared. -/
theorem not_retainsSettings_renewed :
    let loaded := ({} : Typesetter).through [.load .renewing]
    loaded.replacesAny [.feed "@renew".toList] = true ∧
      loaded.settings.isDeclared "shade".toList = true ∧
      ¬ loaded.RetainsSettings (loaded.through [.feed "@renew".toList]) := by
  intro loaded
  obtain ⟨hreplaces, hdeclared, hgone⟩ :
      loaded.replacesAny [.feed "@renew".toList] = true ∧
      loaded.settings.isDeclared "shade".toList = true ∧
      (loaded.through [.feed "@renew".toList]).settings.isDeclared "shade".toList = false := by
    decide +kernel
  refine ⟨hreplaces, hdeclared, fun h => ?_⟩
  rcases Settings.isDeclared_iff.1 hdeclared with ⟨setting, hget⟩
  rcases h _ setting hget with ⟨later, hlater, -⟩
  cases (Settings.isDeclared_iff.2 ⟨later, hlater⟩).symm.trans hgone

/-- A plugin is refused until what it needs is loaded, here by a line of the document. -/
example :
    let extra : Plugin := {
      id := "extra".toList
      version := { major := 1 }
      depends := [{ id := demoId, minimum := some { major := 0, minor := 1 } }] }
    (accepted {} [.load extra, .feed "@plugin demo-plugin".toList, .load extra]).map (·.id) =
      [demoId, "extra".toList] := by
  decide +kernel

end Typesetter

end PlainPage
