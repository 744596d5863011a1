import PlainPage.Proofs.Plugin.Acceptance

/-!
# Enabling plugins twice

A plugin of the catalog is looked up by the name that the catalog has for it, and counts as
loaded under its own name.  Where the two are the same, an enabling answers whether the plugin
is loaded, and enabling it again changes nothing.  A plugin that the catalog has under another
name is loaded under its own: the first answer is that it is loaded, and the second that it is
not, since it is refused as one that is loaded already.

Main results:

- Definition `Typesetter.Enabling` lists what an enabling can come to.
- Theorem `Typesetter.enable_enable` says when the answer holds the second time.
- Theorem `Typesetter.not_enable_enable` says that it does not always.
-/

namespace PlainPage

namespace Typesetter

/-- What enabling a plugin can come to. -/
inductive Enabling (t : Typesetter) (id : Text) : Bool × Typesetter → Prop where
  | already (hloaded : t.repertoire.loaded.contains id = true) : Enabling t id (true, t)
  | missing (hnew : t.repertoire.loaded.contains id = false) (hcatalog : t.catalog.get? id = none) :
      Enabling t id (false, t)
  | refused {p : Plugin} (hnew : t.repertoire.loaded.contains id = false)
      (hcatalog : t.catalog.get? id = some p) (hrefused : ¬ t.repertoire.Admits t.settings p) :
      Enabling t id (false, t)
  | loaded {p : Plugin} {u : Typesetter} (hnew : t.repertoire.loaded.contains id = false)
      (hcatalog : t.catalog.get? id = some p) (hgains : t.Gains p u) : Enabling t id (true, u)

/-- Enabling a plugin has one of the outcomes above. -/
theorem enable_outcome (t : Typesetter) (id : Text) : t.Enabling id (t.enable id) := by
  unfold enable
  cases hloaded : t.repertoire.loaded.contains id with
  | true => exact .already hloaded
  | false =>
    cases hcatalog : t.catalog.get? id with
    | none => exact .missing hloaded hcatalog
    | some p =>
      by_cases hadmits : t.repertoire.Admits t.settings p
      · rcases gains_of_admits hadmits with ⟨u, hload, hgains⟩
        simp only [Bool.false_eq_true, if_false, hload]
        exact .loaded hloaded hcatalog hgains
      · rcases load_of_not_admits hadmits with ⟨rejection, hload⟩
        simp only [Bool.false_eq_true, if_false, hload]
        exact .refused hloaded hcatalog hadmits

/-- After a load, the names under which plugins are loaded are the old ones and that of the new
plugin. -/
theorem Gains.contains_iff {t u : Typesetter} {p : Plugin} (h : t.Gains p u) (id : Text) :
    u.repertoire.loaded.contains id = true ↔
      t.repertoire.loaded.contains id = true ∨ p.id = id := by
  simp only [Table.contains_iff, h.loaded, Prod.mk.injEq, exists_or]
  exact or_congr_right ⟨fun ⟨_, hid, _⟩ => hid.symm, fun hid => ⟨p.version, hid.symm, rfl⟩⟩

/-- A plugin that the catalog has under another name is not loaded a second time. -/
theorem Gains.enable_eq {t u : Typesetter} {p : Plugin} {id : Text} (h : t.Gains p u)
    (hcatalog : t.catalog.get? id = some p) (hnew : u.repertoire.loaded.contains id = false) :
    u.enable id = (false, u) := by
  have hloaded := (h.loaded p.id p.version).2 (.inr rfl)
  have hrefused : ¬ u.repertoire.Admits u.settings p := by
    intro hadmits
    rw [hadmits.new] at hloaded
    cases hloaded
  rcases load_of_not_admits hrefused with ⟨rejection, hload⟩
  rw [← h.catalog] at hcatalog
  simp [enable, hnew, hcatalog, hload]

/-- An enabling that answers yes has loaded the plugin under the name that it was asked for, and
does so again, exactly if the plugin was loaded before or the catalog has it under its own
name.  One that answers no has changed nothing, and the plugin is not loaded.  Enabling a plugin
again never changes anything. -/
theorem enable_enable (t : Typesetter) (id : Text) :
    let u := (t.enable id).2
    ((t.enable id).1 = true →
      ((u.repertoire.loaded.contains id = true ∧ u.enable id = (true, u)) ↔
        t.repertoire.loaded.contains id = true ∨ ∃ p, t.catalog.get? id = some p ∧ p.id = id)) ∧
    ((t.enable id).1 = false → u = t ∧ t.repertoire.loaded.contains id = false) ∧
    (u.enable id).2 = u := by
  have houtcome := t.enable_outcome id
  rcases henable : t.enable id with ⟨answer, u⟩
  rw [henable] at houtcome
  dsimp only
  cases houtcome with
  | already hloaded => simp [hloaded, henable]
  | missing hnew hcatalog => simp [hnew, henable]
  | refused hnew hcatalog hrefused => simp [hnew, henable]
  | @loaded p _ hnew hcatalog hgains =>
    have hcontains := hgains.contains_iff id
    rw [hnew] at hcontains
    cases hname : u.repertoire.loaded.contains id with
    | true =>
      have hagain := enable_of_loaded hname
      have hid : p.id = id := by simpa [hname] using hcontains
      simp [hagain, hnew, hcatalog, hid]
    | false =>
      have hagain := hgains.enable_eq hcatalog hname
      have hid : p.id ≠ id := by simpa [hname] using hcontains
      simp [hagain, hnew, hcatalog, hid]

/-- The demonstration plugin is enabled twice. -/
theorem enable_enable_demo :
    let u := (({} : Typesetter).enable demoId).2
    u.repertoire.loaded.contains demoId = true ∧ u.enable demoId = (true, u) :=
  ((enable_enable {} demoId).1 (by decide +kernel)).2 (.inr ⟨.demo, rfl, rfl⟩)

/-- A plugin that the catalog has under another name is enabled, and is not loaded under that
name. -/
theorem not_enable_enable :
    ¬ ∀ (t : Typesetter) (id : Text), Reachable t → (t.enable id).1 = true →
      (t.enable id).2.repertoire.loaded.contains id = true ∧
        (t.enable id).2.enable id = (true, (t.enable id).2) := by
  intro h
  let catalog : Table Plugin :=
    Table.empty.insert "alias".toList { id := "real".toList, version := { major := 1 } }
  have hloaded := (h _ "alias".toList ((Reachable.start {}).offer catalog) (by decide +kernel)).1
  revert hloaded
  decide +kernel

end Typesetter

end PlainPage
