import Mathlib.Data.List.Basic
import PlainPage.Proofs.Plugin.History

/-!
# Plugins that have nothing to do with each other

The check of a plugin looks up its own name, the plugins that it needs, and the names of its
commands, filters and settings, and nothing else.  A plugin that has nothing to do with it
enters none of these.  So whether the one is loaded before or after the other, each of them is
accepted or refused for the same reason, and the document comes to hold the same.

Main results:

- Definition `Plugin.Independent` says when plugins have nothing to do with each other.
- Theorem `Repertoire.check_congr` says what the check of a plugin depends on.
- Theorem `Typesetter.answer_load` says that the check decides about the answer.
- Theorem `Typesetter.load_comm` says that the order of two such plugins makes no difference.
-/

namespace PlainPage

/-! ## What the check looks up -/

namespace Repertoire

/-- Two states in which everything is the same that the check of a plugin looks up. -/
structure AgreeOn (p : Plugin) (r other : Repertoire) (s more : Settings) : Prop where
  disabled : other.disabled = r.disabled
  loaded : other.loaded.get? p.id = r.loaded.get? p.id
  depends : ∀ d ∈ p.depends, other.loaded.get? d.id = r.loaded.get? d.id
  commands : ∀ name ∈ p.commands.map (·.1), other.commands.get? name = r.commands.get? name
  filters : ∀ name ∈ p.filters.map (·.1), other.filters.get? name = r.filters.get? name
  settings : ∀ d ∈ p.settings, more.entries.get? d.name = s.entries.get? d.name

/-- The verdict on dependencies rests on the plugins that they name and on what is disabled. -/
theorem checkDependencies_congr {r other : Repertoire} {depends : List Dependency}
    (hdisabled : other.disabled = r.disabled)
    (h : ∀ d ∈ depends, other.loaded.get? d.id = r.loaded.get? d.id) :
    other.checkDependencies depends = r.checkDependencies depends := by
  induction depends with
  | nil => rfl
  | cons d rest ih =>
    rw [List.forall_mem_cons] at h
    have hd : other.checkDependency d = r.checkDependency d := by
      unfold checkDependency isDisabled
      rw [hdisabled, h.1]
    rw [checkDependencies, checkDependencies, hd, ih h.2]

/-- The verdict on names rests on which of them are taken. -/
theorem checkNames_congr {kind : EntryKind} {taken other : Text → Bool} {names : List Text}
    (h : ∀ name ∈ names, other name = taken name) :
    checkNames kind other names = checkNames kind taken names := by
  induction names generalizing taken other with
  | nil => rfl
  | cons name rest ih =>
    rw [List.forall_mem_cons] at h
    have hrest : checkNames kind (fun n => n == name || other n) rest =
        checkNames kind (fun n => n == name || taken n) rest :=
      ih fun n hn => by rw [h.2 n hn]
    rw [checkNames, checkNames, h.1, hrest]

theorem checkSettings_congr {taken other : Text → Bool} {declarations : List SettingDeclaration}
    (h : ∀ d ∈ declarations, other d.name = taken d.name) :
    checkSettings other declarations = checkSettings taken declarations := by
  induction declarations generalizing taken other with
  | nil => rfl
  | cons d rest ih =>
    rw [List.forall_mem_cons] at h
    have hrest : checkSettings (fun n => n == d.name || other n) rest =
        checkSettings (fun n => n == d.name || taken n) rest :=
      ih fun e he => by rw [h.2 e he]
    rw [checkSettings, checkSettings, h.1, hrest]

/-- The check of a plugin depends on nothing but what it looks up. -/
theorem check_congr {p : Plugin} {r other : Repertoire} {s more : Settings}
    (h : AgreeOn p r other s more) : other.check more p = r.check s p := by
  have hcontains : ∀ {α : Type} {table base : Table α} {name : Text},
      table.get? name = base.get? name → table.contains name = base.contains name :=
    fun heq => congrArg Option.isSome heq
  have hcommands : checkNames .command other.commands.contains (p.commands.map (·.1)) =
      checkNames .command r.commands.contains (p.commands.map (·.1)) :=
    checkNames_congr fun name hname => hcontains (h.commands name hname)
  have hfilters : checkNames .filter other.filters.contains (p.filters.map (·.1)) =
      checkNames .filter r.filters.contains (p.filters.map (·.1)) :=
    checkNames_congr fun name hname => hcontains (h.filters name hname)
  have hsettings :
      checkSettings more.isDeclared p.settings = checkSettings s.isDeclared p.settings :=
    checkSettings_congr fun d hd => hcontains (h.settings d hd)
  unfold check isDisabled
  rw [hcontains h.loaded, h.disabled, checkDependencies_congr h.disabled h.depends, hcommands,
    hfilters, hsettings]

end Repertoire

/-! ## Plugins that have nothing to do with each other -/

/-- Plugins under different names that do not need each other and bring nothing under a common
name. -/
structure Plugin.Independent (p q : Plugin) : Prop where
  id : p.id ≠ q.id
  not_needs : ¬ p.Needs q
  not_needed : ¬ q.Needs p
  commands : (p.commands.map (·.1)).Disjoint (q.commands.map (·.1))
  filters : (p.filters.map (·.1)).Disjoint (q.filters.map (·.1))
  settings : (p.settings.map (·.name)).Disjoint (q.settings.map (·.name))

/-- Independence goes both ways. -/
theorem Plugin.Independent.symm {p q : Plugin} (h : p.Independent q) : q.Independent p where
  id := h.id.symm
  not_needs := h.not_needed
  not_needed := h.not_needs
  commands := List.disjoint_symm h.commands
  filters := List.disjoint_symm h.filters
  settings := List.disjoint_symm h.settings

namespace Typesetter

/-- Two states of a document that hold the same under every name. -/
structure Alike (t u : Typesetter) : Prop where
  settings : ∀ name, t.settings.entries.get? name = u.settings.entries.get? name
  commands : ∀ name, t.repertoire.commands.get? name = u.repertoire.commands.get? name
  filters : ∀ name, t.repertoire.filters.get? name = u.repertoire.filters.get? name
  loaded : ∀ id, t.repertoire.loaded.get? id = u.repertoire.loaded.get? id
  disabled : t.repertoire.disabled = u.repertoire.disabled
  blocks : t.blocks = u.blocks
  paragraph : t.paragraph = u.paragraph
  catalog : t.catalog = u.catalog

theorem Alike.refl (t : Typesetter) : t.Alike t :=
  ⟨fun _ => rfl, fun _ => rfl, fun _ => rfl, fun _ => rfl, rfl, rfl, rfl, rfl⟩

variable {t u : Typesetter} {p q : Plugin}

/-- What the check of a plugin looks up is the same after a plugin is loaded that has nothing to
do with it. -/
theorem Gains.agreeOn (h : t.Gains q u) (hindependent : p.Independent q) :
    Repertoire.AgreeOn p t.repertoire u.repertoire t.settings u.settings := by
  have hkept : ∀ {α : Type} {table base : Table α} {name : Text} {added : α → Prop},
      (∀ value, table.get? name = some value ↔ base.get? name = some value ∨ added value) →
      (∀ value, ¬ added value) → table.get? name = base.get? name := by
    intro α table base name added hgains hnone
    exact Option.ext fun value => by simp [hgains, hnone]
  refine ⟨h.disabled, ?_, ?_, ?_, ?_, ?_⟩
  · refine hkept (h.loaded p.id) fun version heq => ?_
    exact hindependent.id (Prod.mk.inj heq).1
  · intro d hd
    refine hkept (h.loaded d.id) fun version heq => ?_
    exact hindependent.not_needs ⟨d, hd, (Prod.mk.inj heq).1⟩
  · intro name hname
    refine hkept (h.commands name) fun command hmem => ?_
    exact hindependent.commands hname (List.mem_map.2 ⟨_, hmem, rfl⟩)
  · intro name hname
    refine hkept (h.filters name) fun filter hmem => ?_
    exact hindependent.filters hname (List.mem_map.2 ⟨_, hmem, rfl⟩)
  · intro d hd
    refine hkept (h.settings d.name) fun setting hmem => ?_
    rcases hmem with ⟨e, he, heq⟩
    exact hindependent.settings (List.mem_map.2 ⟨d, hd, rfl⟩)
      (List.mem_map.2 ⟨e, he, (Prod.mk.inj heq).1⟩)

/-- The check of a plugin comes to the same after another one is loaded or refused that has
nothing to do with it. -/
theorem check_load (t : Typesetter) (h : p.Independent q) :
    (t.load q).2.repertoire.check (t.load q).2.settings p = t.repertoire.check t.settings p := by
  by_cases hadmits : t.repertoire.Admits t.settings q
  · rcases gains_of_admits hadmits with ⟨u, hload, hgains⟩
    rw [hload]
    exact Repertoire.check_congr (hgains.agreeOn h)
  · rcases load_of_not_admits hadmits with ⟨rejection, hload⟩
    rw [hload]

/-- Loading an independent plugin does not change whether another is admitted. -/
theorem admits_load_iff (t : Typesetter) (h : p.Independent q) :
    (t.load q).2.repertoire.Admits (t.load q).2.settings p ↔ t.repertoire.Admits t.settings p := by
  rw [← Repertoire.check_eq_ok_iff_admits, ← Repertoire.check_eq_ok_iff_admits, t.check_load h]

/-- The check decides about the answer to a load. -/
theorem answer_load (t : Typesetter) (p : Plugin) :
    (t.load p).1 = (t.repertoire.check t.settings p).mapError (.pluginRefused p.id) := by
  cases hcheck : t.repertoire.check t.settings p with
  | error rejection => rw [load, Repertoire.load_of_check_error hcheck]; rfl
  | ok _ =>
    rw [load, (Repertoire.check_eq_ok_iff_admits.1 hcheck).load_eq]
    rfl

/-- What a document gains from two plugins, it gains from them in either order. -/
theorem Gains.alike {u' v v' : Typesetter} (hp : t.Gains p u) (hq : u.Gains q v)
    (hq' : t.Gains q u') (hp' : u'.Gains p v') : v.Alike v' := by
  have hsame : ∀ {α : Type} {base one other both all : Option α} {first second : α → Prop},
      (∀ value, one = some value ↔ base = some value ∨ first value) →
      (∀ value, both = some value ↔ one = some value ∨ second value) →
      (∀ value, other = some value ↔ base = some value ∨ second value) →
      (∀ value, all = some value ↔ other = some value ∨ first value) → both = all := by
    intro α base one other both all first second hone hboth hother hall
    exact Option.ext fun value => by rw [hboth, hone, hall, hother, or_right_comm]
  refine ⟨fun name => ?_, fun name => ?_, fun name => ?_, fun id => ?_, ?_, ?_, ?_, ?_⟩
  · exact hsame (hp.settings name) (hq.settings name) (hq'.settings name) (hp'.settings name)
  · exact hsame (hp.commands name) (hq.commands name) (hq'.commands name) (hp'.commands name)
  · exact hsame (hp.filters name) (hq.filters name) (hq'.filters name) (hp'.filters name)
  · exact hsame (hp.loaded id) (hq.loaded id) (hq'.loaded id) (hp'.loaded id)
  · rw [hq.disabled, hp.disabled, hp'.disabled, hq'.disabled]
  · rw [hq.blocks, hp.blocks, hp'.blocks, hq'.blocks]
  · rw [hq.paragraph, hp.paragraph, hp'.paragraph, hq'.paragraph]
  · rw [hq.catalog, hp.catalog, hp'.catalog, hq'.catalog]

/-- Plugins that have nothing to do with each other can be loaded in either order.  Each of them
is accepted or is refused for the same reason, and the document comes to hold the same. -/
theorem load_comm (t : Typesetter) (h : p.Independent q) :
    ((t.load q).2.load p).1 = (t.load p).1 ∧ ((t.load p).2.load q).1 = (t.load q).1 ∧
      ((t.load p).2.load q).2.Alike ((t.load q).2.load p).2 := by
  have hp := t.admits_load_iff h
  have hq := t.admits_load_iff h.symm
  refine ⟨by rw [answer_load, answer_load, t.check_load h],
    by rw [answer_load, answer_load, t.check_load h.symm], ?_⟩
  by_cases hadmitsP : t.repertoire.Admits t.settings p
  · by_cases hadmitsQ : t.repertoire.Admits t.settings q
    · rcases gains_of_admits hadmitsP with ⟨u, hloadP, hgainsP⟩
      rcases gains_of_admits (hq.2 hadmitsQ) with ⟨v, hloadPQ, hgainsPQ⟩
      rcases gains_of_admits hadmitsQ with ⟨u', hloadQ, hgainsQ⟩
      rcases gains_of_admits (hp.2 hadmitsP) with ⟨v', hloadQP, hgainsQP⟩
      rw [hloadPQ, hloadQP]
      rw [hloadP] at hgainsPQ
      rw [hloadQ] at hgainsQP
      exact hgainsP.alike hgainsPQ hgainsQ hgainsQP
    · -- The second plugin is refused in both states and leaves no trace.
      rcases load_of_not_admits hadmitsQ with ⟨_, hloadQ⟩
      rcases load_of_not_admits (mt hq.1 hadmitsQ) with ⟨_, hloadPQ⟩
      rw [hloadPQ, hloadQ]
      exact .refl _
  · rcases load_of_not_admits hadmitsP with ⟨_, hloadP⟩
    rcases load_of_not_admits (mt hp.1 hadmitsP) with ⟨_, hloadQP⟩
    rw [hloadQP, hloadP]
    exact .refl _

/-- A plugin is accepted and another one refused, whichever comes first. -/
theorem load_comm_demo :
    let p : Plugin := .demo
    let q : Plugin := {
      id := "notes".toList
      version := { major := 2 }
      commands := [("stamp".toList, Command.horizontalLine)]
      filters := [("plain".toList, Filter.reverse)]
      settings := [{ name := "tone".toList, kind := .switch, default := .text "low".toList }] }
    let t : Typesetter := {}
    p.Independent q ∧ (t.load p).1.isOk = true ∧ (t.load q).1.isOk = false ∧
      ((t.load q).2.load p).1 = (t.load p).1 ∧ ((t.load p).2.load q).1 = (t.load q).1 ∧
      ((t.load p).2.load q).2.Alike ((t.load q).2.load p).2 := by
  intro p q t
  have hindependent : p.Independent q :=
    { id := by decide
      not_needs := by simp [p, Plugin.Needs, Plugin.demo]
      not_needed := by simp [q, Plugin.Needs]
      commands := List.disjoint_right.2 (List.forall_mem_singleton.2 (by decide))
      filters := List.disjoint_right.2 (List.forall_mem_singleton.2 (by decide))
      settings := List.disjoint_nil_left _ }
  exact ⟨hindependent, by decide +kernel, by decide +kernel, t.load_comm hindependent⟩

end Typesetter

end PlainPage
