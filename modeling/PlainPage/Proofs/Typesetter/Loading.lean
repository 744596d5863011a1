import PlainPage.Proofs.Typesetter.Sound

/-!
# What loading plugins leaves alone

A plugin is loaded only if all its names are new.  So whatever plugins are enabled before
the first line of a document, every setting, filter and command that was there keeps its
name and its meaning.

Main results:

- Theorem `Repertoire.check_eq_ok_iff` lists what is checked before a plugin is loaded.
- Theorem `Repertoire.extends_of_load` says that loading hides nothing.
- Theorem `Typesetter.grown_enableAll` says what enabling plugins leaves alone.
- Theorem `Typesetter.prepared_start` says how a document starts from a configuration.
-/

namespace PlainPage

/-! ## Loading -/

/-- Declaring settings only adds settings. -/
theorem Repertoire.extends_of_declareAll {declarations : List SettingDeclaration}
    {s t : Settings} (h : declareAll declarations s = .ok t) : t.entries.Extends s.entries := by
  induction declarations generalizing s with
  | nil =>
    cases h
    exact .refl _
  | cons d rest ih =>
    rcases bind_eq_ok_iff.1 h with ⟨u, hdeclare, hrest⟩
    refine (ih hrest).trans ?_
    cases Settings.writes_of_declare hdeclare with
    | declare hnew =>
      intro name setting hget
      have hne : name ≠ d.name := by
        rintro rfl
        cases (Settings.isDeclared_iff.2 ⟨setting, hget⟩).symm.trans hnew
      exact (Table.get?_insert_of_ne _ _ hne).trans hget

namespace Repertoire

/-- What is checked before a plugin is loaded. -/
theorem check_eq_ok_iff {r : Repertoire} {settings : Settings} {p : Plugin} :
    r.check settings p = .ok () ↔
      Text.isBlank p.id = false ∧ r.loaded.contains p.id = false ∧ r.isDisabled p.id = false ∧
      r.checkDependencies p.depends = .ok () ∧
      checkNames .command r.commands.contains (p.commands.map (·.1)) = .ok () ∧
      checkNames .filter r.filters.contains (p.filters.map (·.1)) = .ok () ∧
      checkSettings settings.isDeclared p.settings = .ok () := by
  unfold check
  cases hblank : Text.isBlank p.id with
  | true => simp [throw, throwThe, MonadExceptOf.throw, bind, Except.bind]
  | false =>
    cases hloaded : r.loaded.contains p.id with
    | true => simp [throw, throwThe, MonadExceptOf.throw, bind, Except.bind]
    | false =>
      cases hdisabled : r.isDisabled p.id with
      | true => simp [throw, throwThe, MonadExceptOf.throw, bind, Except.bind]
      | false =>
        simp only [Bool.false_eq_true, if_false, bind_eq_ok_iff, true_and]
        constructor
        · rintro ⟨⟨⟩, hdepends, ⟨⟩, hcommands, ⟨⟩, hfilters, hsettings⟩
          exact ⟨hdepends, hcommands, hfilters, hsettings⟩
        · rintro ⟨hdepends, hcommands, hfilters, hsettings⟩
          exact ⟨(), hdepends, (), hcommands, (), hfilters, hsettings⟩

/-- Names that may be entered are new. -/
theorem new_of_checkNames {kind : EntryKind} {taken : Text → Bool} {names : List Text}
    (h : checkNames kind taken names = .ok ()) : ∀ name ∈ names, taken name = false :=
  fun name hname => ((checkNames_eq_ok_iff.1 h).2 name hname).2

/-- Loading a plugin hides nothing that was there. -/
theorem extends_of_load {r after : Repertoire} {s t : Settings} {p : Plugin}
    (h : r.load s p = .ok (after, t)) :
    t.entries.Extends s.entries ∧ after.filters.Extends r.filters ∧
      after.commands.Extends r.commands := by
  rcases load_eq_ok_iff.1 h with ⟨hcheck, hdeclare, rfl⟩
  rcases check_eq_ok_iff.1 hcheck with ⟨-, -, -, -, hcommands, hfilters, -⟩
  exact ⟨extends_of_declareAll hdeclare, Table.extends_insertAll (new_of_checkNames hfilters),
    Table.extends_insertAll (new_of_checkNames hcommands)⟩

end Repertoire

/-! ## Enabling plugins before the first line -/

namespace Typesetter

/-- A document that has only gained settings, filters and commands. -/
structure Grown (t u : Typesetter) : Prop where
  blocks : u.blocks = t.blocks
  paragraph : u.paragraph = t.paragraph
  settings : u.settings.entries.Extends t.settings.entries
  filters : u.repertoire.filters.Extends t.repertoire.filters
  commands : u.repertoire.commands.Extends t.repertoire.commands

theorem Grown.refl (t : Typesetter) : t.Grown t :=
  ⟨rfl, rfl, .refl _, .refl _, .refl _⟩

theorem Grown.trans {t u v : Typesetter} (h : t.Grown u) (hnext : u.Grown v) : t.Grown v where
  blocks := hnext.blocks.trans h.blocks
  paragraph := hnext.paragraph.trans h.paragraph
  settings := hnext.settings.trans h.settings
  filters := hnext.filters.trans h.filters
  commands := hnext.commands.trans h.commands

/-- Loading only adds names. -/
theorem grown_load (t : Typesetter) (p : Plugin) : t.Grown (t.load p).2 := by
  unfold load
  cases hload : t.repertoire.load t.settings p with
  | error error => exact .refl t
  | ok result =>
    rcases Repertoire.extends_of_load hload with ⟨hsettings, hfilters, hcommands⟩
    exact ⟨rfl, rfl, hsettings, hfilters, hcommands⟩

theorem grown_enable (t : Typesetter) (id : Text) : t.Grown (t.enable id).2 := by
  rcases t.enable_cases id with h | ⟨p, h⟩
  · rw [h]
    exact .refl t
  · have hload := t.grown_load p
    rw [h] at hload
    exact hload

/-- Enabling plugins only adds settings, filters and commands. -/
theorem grown_enableAll (t : Typesetter) (ids : List Text) : t.Grown (t.enableAll ids) := by
  unfold enableAll
  induction ids generalizing t with
  | nil => exact .refl t
  | cons id rest ih => exact (t.grown_enable id).trans (ih _)

/-- Enabling plugins leaves the settings in place. -/
theorem ReachableInPlace.enableAll {t : Typesetter} (h : ReachableInPlace t)
    (ids : List Text) : ReachableInPlace (t.enableAll ids) := by
  unfold Typesetter.enableAll
  induction ids generalizing t with
  | nil => exact h
  | cons id rest ih => exact ih (h.step (.enable id) rfl)

/-- The settings of a document are well formed in every state. -/
theorem Reachable.wellFormed {t : Typesetter} (h : Reachable t) : t.settings.WellFormed :=
  h.sound.wellFormed

/-! ## How a document starts -/

/-- A document before its first line: a fresh one for a configuration, offered the plugins
of a catalog, with some of them enabled. -/
def prepared (c : Config) (catalog : Table Plugin) (ids : List Text) : Typesetter :=
  ({ ofConfig c with catalog } : Typesetter).enableAll ids

/-- A configured document is one that is offered the standard plugins and enables those
that the configuration names. -/
theorem configured_eq_prepared (c : Config) :
    configured c = prepared c Plugin.catalog c.plugins := rfl

/-- No command has run before the first line. -/
theorem reachableInPlace_prepared (c : Config) (catalog : Table Plugin) (ids : List Text) :
    ReachableInPlace (prepared c catalog ids) :=
  ((ReachableInPlace.start c).offer catalog).enableAll ids

/-- The typesetter that a document starts with is reachable. -/
theorem reachable_prepared (c : Config) (catalog : Table Plugin) (ids : List Text) :
    Reachable (prepared c catalog ids) :=
  (reachableInPlace_prepared c catalog ids).reachable

/-- A document starts on an empty page, with the settings of its configuration and the
standard filters and commands. -/
theorem prepared_start (c : Config) (catalog : Table Plugin) (ids : List Text) :
    Grown (ofConfig c) (prepared c catalog ids) := by
  have h := ({ ofConfig c with catalog } : Typesetter).grown_enableAll ids
  exact ⟨h.blocks, h.paragraph, h.settings, h.filters, h.commands⟩

@[simp] theorem blocks_prepared (c : Config) (catalog : Table Plugin) (ids : List Text) :
    (prepared c catalog ids).blocks = {} :=
  (prepared_start c catalog ids).blocks

@[simp] theorem paragraph_prepared (c : Config) (catalog : Table Plugin) (ids : List Text) :
    (prepared c catalog ids).paragraph = none :=
  (prepared_start c catalog ids).paragraph

end Typesetter

end PlainPage
