import PlainPage.Proofs.Plugin.Version
import PlainPage.Proofs.Typesetter.Loading

/-!
# Which plugins are loaded

A plugin is checked as a whole before anything of it is entered, and what has been checked
can be entered: the declarations of its settings, made one after the other, find every name
still free.  So a plugin is loaded as a whole or leaves no trace.

Main results:

- Theorem `Version.isBefore_eq_false_iff` says when a version is new enough.
- Theorem `Repertoire.checkDependencies_eq_ok_iff` and its companions say what each part of
  the check has checked.
- Theorem `Repertoire.check_eq_ok_iff_admits` says which plugins pass the whole check.
- Theorem `Repertoire.declareAll_eq` says that checked settings can all be declared.
- Theorem `Typesetter.load_whole` says which plugins are loaded, and what a load or a refusal
  leaves.
-/

namespace PlainPage

/-! ## Versions that are new enough -/

namespace Version

/-- A version that is not older than the one needed: the first difference decides. -/
def AtLeast (v needed : Version) : Prop :=
  needed.major < v.major ∨ needed.major = v.major ∧
    (needed.minor < v.minor ∨ needed.minor = v.minor ∧ needed.patch ≤ v.patch)

/-- A version is new enough unless it comes before the one needed. -/
theorem isBefore_eq_false_iff {v needed : Version} :
    v.isBefore needed = false ↔ v.AtLeast needed := by
  rw [← Bool.not_eq_true, isBefore_eq_true_iff]
  unfold Before AtLeast
  omega

end Version

namespace Repertoire

/-! ## What each part of the check has checked -/

/-- A name that a command or a filter may have. -/
structure Enterable (name : Text) : Prop where
  not_empty : name ≠ []
  not_white : ∀ c ∈ name, isWhite c = false
  not_uppercase : ∀ c ∈ name, isUppercase c = false
  not_reserved : name ∉ Directive.reservedWords

/-- The check of a name finds no fault exactly when the name is enterable. -/
theorem nameFault?_eq_none_iff {name : Text} : nameFault? name = none ↔ Enterable name := by
  have hfault : nameFault? name = none ↔ name ≠ [] ∧ name.any isWhite = false ∧
      name.any isUppercase = false ∧ Directive.reservedWords.contains name = false := by
    unfold nameFault?
    by_cases hempty : name = []
    · simp [hempty]
    · cases name.any isWhite <;> cases name.any isUppercase <;>
        cases Directive.reservedWords.contains name <;> simp [hempty]
  rw [hfault]
  constructor
  · rintro ⟨hempty, hwhite, huppercase, hreserved⟩
    exact ⟨hempty, by simpa using hwhite, by simpa using huppercase, by simpa using hreserved⟩
  · rintro ⟨hempty, hwhite, huppercase, hreserved⟩
    exact ⟨hempty, by simpa using hwhite, by simpa using huppercase, by simpa using hreserved⟩

/-- A plugin that is needed can be used: it is enabled and loaded in a version that will
do. -/
def Meets (r : Repertoire) (d : Dependency) : Prop :=
  d.id ∉ r.disabled ∧ ∃ version, r.loaded.get? d.id = some version ∧
    ∀ needed ∈ d.minimum, version.AtLeast needed

/-- The check of a dependency passes exactly when it is met. -/
theorem checkDependency_eq_ok_iff {r : Repertoire} {d : Dependency} :
    r.checkDependency d = .ok () ↔ r.Meets d := by
  unfold checkDependency isDisabled Meets
  by_cases hdisabled : d.id ∈ r.disabled
  · simp [hdisabled]
  · cases hloaded : r.loaded.get? d.id with
    | none => simp [hdisabled]
    | some version =>
      cases hminimum : d.minimum with
      | none => simp [hdisabled]
      | some needed =>
        cases hbefore : version.isBefore needed with
        | false => simp [hdisabled, hbefore, Version.isBefore_eq_false_iff.1 hbefore]
        | true =>
          have hold : ¬ version.AtLeast needed := by
            intro hnew
            rw [Version.isBefore_eq_false_iff.2 hnew] at hbefore
            cases hbefore
          simp [hdisabled, hbefore, hold]

/-- All plugins that are needed can be used. -/
theorem checkDependencies_eq_ok_iff {r : Repertoire} {depends : List Dependency} :
    r.checkDependencies depends = .ok () ↔ ∀ d ∈ depends, r.Meets d := by
  induction depends with
  | nil => simp [checkDependencies]
  | cons d rest ih =>
    rw [checkDependencies, bind_eq_ok_iff, List.forall_mem_cons, ← ih,
      ← checkDependency_eq_ok_iff]
    constructor
    · rintro ⟨⟨⟩, hd, hrest⟩
      exact ⟨hd, hrest⟩
    · rintro ⟨hd, hrest⟩
      exact ⟨(), hd, hrest⟩

/-- The lists of declarations that may be made. -/
theorem checkSettings_eq_ok_iff {taken : Text → Bool} {declarations : List SettingDeclaration} :
    checkSettings taken declarations = .ok () ↔ (declarations.map (·.name)).Nodup ∧
      ∀ d ∈ declarations, taken d.name = false ∧ d.kind.accepts d.default = true := by
  induction declarations generalizing taken with
  | nil => simp [checkSettings]
  | cons d rest ih =>
    unfold checkSettings
    cases htaken : taken d.name with
    | true => simp [htaken]
    | false =>
      cases haccepts : d.kind.accepts d.default with
      | false => simp [haccepts]
      | true =>
        simp only [Bool.false_eq_true, if_false, if_true, ih, List.map_cons, List.nodup_cons,
          List.forall_mem_cons, htaken, haccepts, Bool.or_eq_false_iff, beq_eq_false_iff_ne,
          ne_eq, true_and, and_true]
        constructor
        · rintro ⟨hnodup, hall⟩
          refine ⟨⟨?_, hnodup⟩,
            fun other hother => ⟨(hall other hother).1.2, (hall other hother).2⟩⟩
          intro hmem
          rcases List.mem_map.1 hmem with ⟨other, hother, hname⟩
          exact (hall other hother).1.1 hname
        · rintro ⟨⟨hfresh, hnodup⟩, hall⟩
          refine ⟨hnodup,
            fun other hother => ⟨⟨?_, (hall other hother).1⟩, (hall other hother).2⟩⟩
          intro hname
          exact hfresh (List.mem_map.2 ⟨other, hother, hname⟩)

/-! ## Plugins that pass the whole check -/

/-- Entries under distinct names that may be had and are free. -/
def FreshIn {α : Type} (table : Table α) (entries : List (Text × α)) : Prop :=
  (entries.map (·.1)).Nodup ∧
    ∀ name ∈ entries.map (·.1), Enterable name ∧ table.get? name = none

/-- The check of names passes exactly when they are fresh in the table. -/
theorem checkNames_eq_ok_iff_freshIn {α : Type} {kind : EntryKind} {table : Table α}
    {entries : List (Text × α)} :
    checkNames kind table.contains (entries.map (·.1)) = .ok () ↔ FreshIn table entries := by
  simp only [checkNames_eq_ok_iff, nameFault?_eq_none_iff, Table.contains_eq_false_iff, FreshIn]

/-- What a plugin must satisfy to be loaded. -/
structure Admits (r : Repertoire) (settings : Settings) (p : Plugin) : Prop where
  /-- Its own name is not blank. -/
  named : ∃ c ∈ p.id, isWhite c = false
  new : r.loaded.get? p.id = none
  enabled : p.id ∉ r.disabled
  /-- The plugins that it needs can be used. -/
  depends : ∀ d ∈ p.depends, r.Meets d
  commands : FreshIn r.commands p.commands
  filters : FreshIn r.filters p.filters
  /-- Its settings have distinct names that are free. -/
  settings : (p.settings.map (·.name)).Nodup ∧
    ∀ d ∈ p.settings, settings.entries.get? d.name = none
  /-- Its settings have defaults of their kinds. -/
  defaults : ∀ d ∈ p.settings, d.kind.accepts d.default = true

/-- The plugins that pass the whole check. -/
theorem check_eq_ok_iff_admits {r : Repertoire} {settings : Settings} {p : Plugin} :
    r.check settings p = .ok () ↔ r.Admits settings p := by
  have henabled : r.isDisabled p.id = false ↔ p.id ∉ r.disabled := by
    simp [isDisabled]
  have hdeclared : ∀ name, settings.isDeclared name = false ↔ settings.entries.get? name = none :=
    fun _ => Table.contains_eq_false_iff
  rw [check_eq_ok_iff, Text.isBlank_eq_false_iff, Table.contains_eq_false_iff, henabled,
    checkDependencies_eq_ok_iff,
    checkNames_eq_ok_iff_freshIn, checkNames_eq_ok_iff_freshIn, checkSettings_eq_ok_iff]
  simp only [hdeclared]
  constructor
  · rintro ⟨hnamed, hnew, henabled, hdepends, hcommands, hfilters, hnodup, hsettings⟩
    exact ⟨hnamed, hnew, henabled, hdepends, hcommands, hfilters,
      ⟨hnodup, fun d hd => (hsettings d hd).1⟩, fun d hd => (hsettings d hd).2⟩
  · intro h
    exact ⟨h.named, h.new, h.enabled, h.depends, h.commands, h.filters, h.settings.1,
      fun d hd => ⟨h.settings.2 d hd, h.defaults d hd⟩⟩

end Repertoire

/-! ## What a load leaves -/

/-- The setting that a declaration makes. -/
def SettingDeclaration.setting (d : SettingDeclaration) : Setting :=
  { kind := d.kind, default := d.default }

namespace Repertoire

/-- Declarations of distinct free names with defaults of their kinds can all be made, one
after the other. -/
theorem declareAll_eq {declarations : List SettingDeclaration} {s : Settings}
    (hdistinct : (declarations.map (·.name)).Nodup)
    (hnew : ∀ d ∈ declarations, s.entries.get? d.name = none)
    (haccepts : ∀ d ∈ declarations, d.kind.accepts d.default = true) :
    declareAll declarations s =
      .ok ⟨s.entries.insertAll (declarations.map fun d => (d.name, d.setting))⟩ := by
  induction declarations generalizing s with
  | nil => rfl
  | cons d rest ih =>
    rw [List.map_cons, List.nodup_cons] at hdistinct
    rw [List.forall_mem_cons] at hnew haccepts
    have hdeclare : s.declare d.name d.kind d.default =
        .ok { s with entries := s.entries.insert d.name d.setting } := by
      have hfree : s.isDeclared d.name = false := Table.contains_eq_false_iff.2 hnew.1
      simp [Settings.declare, hfree, haccepts.1, SettingDeclaration.setting]
    have hrest : ∀ other ∈ rest, (s.entries.insert d.name d.setting).get? other.name = none := by
      intro other hother
      have hne : other.name ≠ d.name := by
        intro heq
        exact hdistinct.1 (List.mem_map.2 ⟨other, hother, heq⟩)
      rw [Table.get?_insert_of_ne _ _ hne]
      exact hnew.2 other hother
    rw [declareAll, hdeclare]
    exact ih hdistinct.2 hrest haccepts.2

/-- A plugin that passes the check is loaded. -/
theorem Admits.load_eq {r : Repertoire} {s : Settings} {p : Plugin} (h : r.Admits s p) :
    r.load s p =
      .ok (r.enter p, ⟨s.entries.insertAll (p.settings.map fun d => (d.name, d.setting))⟩) :=
  load_eq_ok_iff.2 ⟨check_eq_ok_iff_admits.2 h,
    declareAll_eq h.settings.1 h.settings.2 h.defaults, rfl⟩

end Repertoire

namespace Typesetter

/-- What a document gains when a plugin is loaded: the settings, commands and filters of the
plugin, and its name and version.  What was there stays as it was. -/
structure Gains (t : Typesetter) (p : Plugin) (u : Typesetter) : Prop where
  settings : ∀ name setting, u.settings.entries.get? name = some setting ↔
    t.settings.entries.get? name = some setting ∨
      ∃ d ∈ p.settings, (d.name, d.setting) = (name, setting)
  commands : ∀ name command, u.repertoire.commands.get? name = some command ↔
    t.repertoire.commands.get? name = some command ∨ (name, command) ∈ p.commands
  filters : ∀ name filter, u.repertoire.filters.get? name = some filter ↔
    t.repertoire.filters.get? name = some filter ∨ (name, filter) ∈ p.filters
  loaded : ∀ id version, u.repertoire.loaded.get? id = some version ↔
    t.repertoire.loaded.get? id = some version ∨ (id, version) = (p.id, p.version)
  disabled : u.repertoire.disabled = t.repertoire.disabled
  blocks : u.blocks = t.blocks
  paragraph : u.paragraph = t.paragraph
  catalog : u.catalog = t.catalog

/-- A plugin that passes the check is loaded, and its document gains what it brings. -/
theorem gains_of_admits {t : Typesetter} {p : Plugin}
    (h : t.repertoire.Admits t.settings p) :
    ∃ u, t.load p = (.ok (), u) ∧ t.Gains p u := by
  have hfree : ∀ {α : Type} {table : Table α} {pairs : List (Text × α)},
      (∀ name ∈ pairs.map (·.1), table.get? name = none) →
      ∀ name ∈ pairs.map (·.1), table.contains name = false :=
    fun hnew name hname => Table.contains_eq_false_iff.2 (hnew name hname)
  have hload : t.load p = (.ok (), { t with
      repertoire := t.repertoire.enter p,
      settings :=
        ⟨t.settings.entries.insertAll (p.settings.map fun d => (d.name, d.setting))⟩ }) := by
    simp only [load, h.load_eq]
  refine ⟨_, hload, ?_, ?_, ?_, ?_, rfl, rfl, rfl, rfl⟩
  · intro name setting
    refine (Table.get?_insertAll_eq_some_iff ?_ ?_).trans (or_congr_right List.mem_map)
    · simpa [List.map_map, Function.comp_def] using h.settings.1
    · refine hfree fun name hname => ?_
      simp only [List.map_map, List.mem_map, Function.comp_apply] at hname
      rcases hname with ⟨d, hd, rfl⟩
      exact h.settings.2 d hd
  · intro name command
    exact Table.get?_insertAll_eq_some_iff h.commands.1
      (hfree fun name hname => (h.commands.2 name hname).2)
  · intro name filter
    exact Table.get?_insertAll_eq_some_iff h.filters.1
      (hfree fun name hname => (h.filters.2 name hname).2)
  · intro id version
    have hget := Table.get?_insert t.repertoire.loaded p.id id p.version
    have hloaded : (t.repertoire.enter p).loaded = t.repertoire.loaded.insert p.id p.version := rfl
    rw [hloaded, hget, Prod.mk.injEq]
    by_cases hid : id = p.id
    · simp [hid, h.new, eq_comm]
    · simp [hid]

/-- A plugin that does not pass the check is refused, and leaves no trace. -/
theorem load_of_not_admits {t : Typesetter} {p : Plugin}
    (h : ¬ t.repertoire.Admits t.settings p) :
    ∃ rejection, t.load p = (.error (.pluginRefused p.id rejection), t) := by
  cases hcheck : t.repertoire.check t.settings p with
  | ok _ => exact absurd (Repertoire.check_eq_ok_iff_admits.1 hcheck) h
  | error rejection =>
    refine ⟨rejection, ?_⟩
    rw [load, Repertoire.load_of_check_error hcheck]

/-- A plugin that has been loaded has passed the check. -/
theorem gains_of_load {t u : Typesetter} {p : Plugin} (h : t.load p = (.ok (), u)) :
    t.repertoire.Admits t.settings p ∧ t.Gains p u := by
  by_cases hadmits : t.repertoire.Admits t.settings p
  · rcases gains_of_admits hadmits with ⟨v, hload, hgains⟩
    rw [h] at hload
    cases hload
    exact ⟨hadmits, hgains⟩
  · rcases load_of_not_admits hadmits with ⟨rejection, hload⟩
    rw [h] at hload
    cases hload

/-- A plugin is loaded exactly when it passes the check.  A plugin that is refused changes
nothing, and is refused by the check; one that is loaded brings what is its own and changes
nothing that was there. -/
theorem load_whole (t : Typesetter) (p : Plugin) :
    ((t.load p).1 = .ok () ↔ t.repertoire.Admits t.settings p) ∧
    (∀ error, (t.load p).1 = .error error →
      (∃ rejection, error = .pluginRefused p.id rejection) ∧ (t.load p).2 = t) ∧
    ((t.load p).1 = .ok () → t.Gains p (t.load p).2) := by
  by_cases h : t.repertoire.Admits t.settings p
  · rcases gains_of_admits h with ⟨u, hload, hgains⟩
    simp [hload, h, hgains]
  · rcases load_of_not_admits h with ⟨rejection, hload⟩
    simp [hload, h]

/-- A plugin is loaded once. -/
example : (({} : Typesetter).load .demo).1.isOk = true ∧
    ((({} : Typesetter).load .demo).2.load .demo).1.isOk = false := by
  decide +kernel

end Typesetter

end PlainPage
