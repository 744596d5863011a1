import PlainPage.Proofs.Filter.Standard

/-!
# Settings among more settings

Whatever is done successfully to the settings of a document can be done as well when more
settings are declared, and comes to the same: only a declaration could meet a name that is
taken.  A script that ends at its first refused write does the same, too; one that goes on
after a refusal may have been refused for want of a setting.

Main results:

- Theorem `Settings.apply_eq_ok_iff` says that the cases of a write are exact.
- Theorem `Settings.Writes.exists_of_extends` says that a write does the same among more
  settings.
- Theorem `Marks.exists_restore_of_extends` says that cutting back does.
- Theorem `Opening.Strict.exists_run_of_extends` says that an opening does which ends at its
  first refused write.
-/

namespace PlainPage

/-! ## Reading -/

namespace Settings

variable {s t more : Settings}

/-- A value that is in force stays in force when settings are added. -/
theorem current?_of_extends (h : more.entries.Extends s.entries) {name : Text} {value : Value}
    (hcurrent : s.current? name = some value) : more.current? name = some value := by
  rcases Option.map_eq_some_iff.1 hcurrent with ⟨setting, hget, hvalue⟩
  rw [current?, h name setting hget, Option.map_some, hvalue]

namespace WellFormed

theorem width_of_extends (hs : s.WellFormed) (h : more.entries.Extends s.entries) :
    more.width = s.width := by
  rcases hs.width_eq with ⟨n, hcurrent, hwidth⟩
  rw [hwidth, width, current?_of_extends h hcurrent]
  rfl

theorem alignment_of_extends (hs : s.WellFormed) (h : more.entries.Extends s.entries) :
    more.alignment = s.alignment := by
  rw [alignment, current?_of_extends h hs.alignment_eq]
  rfl

theorem indent_of_extends (hs : s.WellFormed) (h : more.entries.Extends s.entries) :
    more.indent = s.indent := by
  rw [indent, current?_of_extends h hs.indent_eq]
  rfl

theorem pre_of_extends (hs : s.WellFormed) (h : more.entries.Extends s.entries) :
    more.pre = s.pre := by
  rw [pre, current?_of_extends h hs.pre_eq]
  rfl

end WellFormed

/-- A declared setting has as many values when others are added. -/
theorem depth_of_extends (h : more.entries.Extends s.entries) {name : Text}
    (hname : s.isDeclared name = true) : more.depth name = s.depth name := by
  rcases isDeclared_iff.1 hname with ⟨setting, hget⟩
  rw [depth_of_get? hget, depth_of_get? (h name setting hget)]

/-! ## Writing -/

/-- A write succeeds exactly in the cases that are listed. -/
theorem apply_eq_ok_iff {change : Change} : s.apply change = .ok t ↔ s.Writes change t := by
  constructor
  · exact writes_of_apply
  · intro h
    cases h with
    | declare hnew haccepts => simp [apply, declare, hnew, haccepts]
    | set hget hparse hlimit =>
      refine bind_eq_ok_iff.2 ⟨_, lookup_eq_ok_iff.2 hget, ?_⟩
      rw [hparse]
      exact bind_eq_ok_iff.2 ⟨(), hlimit, rfl⟩
    | assign hget haccepts hlimit => exact assign_of_accepts hget haccepts hlimit
    | @unset name setting value rest hget hpushed =>
      have hunset : s.unset name =
          .ok (value, { s with entries := s.entries.modify name ({ · with pushed := rest }) }) := by
        refine bind_eq_ok_iff.2 ⟨setting, lookup_eq_ok_iff.2 hget, ?_⟩
        rw [hpushed]
        rfl
      exact map_eq_ok_iff.2 ⟨_, hunset, rfl⟩
    | truncate hget => exact truncate_of_isDeclared (isDeclared_iff.2 ⟨_, hget⟩) _

/-- A write that declares nothing does the same among more settings. -/
theorem Writes.exists_of_extends {change : Change} (h : s.Writes change t)
    (hmore : more.entries.Extends s.entries)
    (hchange : ∀ name kind default, change ≠ .declare name kind default) :
    ∃ next, more.Writes change next ∧ next.entries.Extends t.entries := by
  cases h with
  | declare => exact absurd rfl (hchange _ _ _)
  | set hget hparse hlimit =>
    exact ⟨_, .set (hmore _ _ hget) hparse hlimit, hmore.modify _ _⟩
  | assign hget haccepts hlimit =>
    exact ⟨_, .assign (hmore _ _ hget) haccepts hlimit, hmore.modify _ _⟩
  | unset hget hpushed => exact ⟨_, .unset (hmore _ _ hget) hpushed, hmore.modify _ _⟩
  | truncate hget => exact ⟨_, .truncate (hmore _ _ hget), hmore.modify _ _⟩

/-- A write that declares nothing does the same among more settings. -/
theorem exists_apply_of_extends {change : Change} (h : s.apply change = .ok t)
    (hmore : more.entries.Extends s.entries)
    (hchange : ∀ name kind default, change ≠ .declare name kind default) :
    ∃ next, more.apply change = .ok next ∧ next.entries.Extends t.entries := by
  rcases (writes_of_apply h).exists_of_extends hmore hchange with ⟨next, hwrites, hnext⟩
  exact ⟨next, apply_eq_ok_iff.2 hwrites, hnext⟩

end Settings

/-! ## Cutting back -/

namespace Marks

/-- Settings can be cut back as before when others are added. -/
theorem exists_cutBack_of_extends {rows : List (Text × Nat)} {s t more : Settings}
    (h : cutBack rows s = (.ok (), t)) (hmore : more.entries.Extends s.entries) :
    ∃ next, cutBack rows more = (.ok (), next) ∧ next.entries.Extends t.entries := by
  induction rows generalizing s more with
  | nil =>
    cases h
    exact ⟨more, rfl, hmore⟩
  | cons row rest ih =>
    rcases row with ⟨name, depth⟩
    rcases cutBack_cons_eq_ok_iff.1 h with ⟨between, htruncate, hrest⟩
    have happly : s.apply (.truncate name depth) = .ok between := htruncate
    rcases Settings.exists_apply_of_extends happly hmore (by simp) with ⟨next, hnext, hextends⟩
    rcases ih hrest hextends with ⟨last, hlast, hend⟩
    exact ⟨last, cutBack_cons_eq_ok_iff.2 ⟨next, hnext, hlast⟩, hend⟩

/-- Cutting back to marks does the same among more settings. -/
theorem exists_restore_of_extends {marks : Marks} {s t more : Settings}
    (h : marks.restore s = (.ok (), t)) (hmore : more.entries.Extends s.entries) :
    ∃ next, marks.restore more = (.ok (), next) ∧ next.entries.Extends t.entries :=
  exists_cutBack_of_extends h hmore

end Marks

/-! ## Opening a block -/

/-- A script that ends at its first refused write. -/
inductive Opening.Strict : Opening → Prop where
  | done : Strict .done
  | fail (error : DocumentError) : Strict (.fail error)
  | inspect {next : Nat → Alignment → Opening} (h : ∀ width align, Strict (next width align)) :
      Strict (.inspect next)
  | write (w : SettingWrite) {next : Opening} (h : Strict next) : Strict (.write w next)

/-- Marked settings that have the same marks, and more settings. -/
structure MarkedSettings.Widens (more m : MarkedSettings) : Prop where
  settings : more.settings.entries.Extends m.settings.entries
  marks : more.marks = m.marks

/-- A marked write does the same among more settings. -/
theorem MarkedSettings.Widens.exists_write {m after more : MarkedSettings} {w : SettingWrite}
    (h : more.Widens m) (hwrite : m.write w = .ok after) :
    ∃ next, more.write w = .ok next ∧ next.Widens after := by
  have hperform := perform_of_write hwrite
  have hdeclared := (SettingWrite.perform_eq_ok hperform).1
  have happly : ∀ s : Settings, w.perform s = s.apply w.change := by
    intro s
    cases w <;> rfl
  have hchange : ∀ name kind default, w.change ≠ .declare name kind default := by
    intro name kind default
    cases w <;> simp [SettingWrite.change]
  rw [happly] at hperform
  rcases Settings.exists_apply_of_extends hperform h.settings hchange with ⟨next, hnext, hextends⟩
  rw [← happly] at hnext
  refine ⟨⟨next, more.marks.note w.name (more.settings.depth w.name)⟩,
    bind_eq_ok_iff.2 ⟨next, hnext, rfl⟩, hextends, ?_⟩
  rw [marks_of_write hwrite, h.marks, Settings.depth_of_extends h.settings hdeclared]

/-- A script that ends at its first refused write does the same among more settings. -/
theorem Opening.Strict.exists_run_of_extends {o : Opening} (ho : o.Strict)
    {m after more : MarkedSettings} (hwell : m.settings.WellFormed) (h : more.Widens m)
    (hrun : o.run m = (.ok (), after)) :
    ∃ last, o.run more = (.ok (), last) ∧ last.Widens after := by
  induction ho generalizing m more with
  | done =>
    cases hrun
    exact ⟨more, rfl, h⟩
  | fail error => cases hrun
  | inspect _ ih =>
    rw [run_inspect] at hrun
    rw [run_inspect, hwell.width_of_extends h.settings, hwell.alignment_of_extends h.settings]
    exact ih _ _ hwell h hrun
  | write w _ ih =>
    rcases run_write_eq_ok_iff.1 hrun with ⟨middle, hwrite, hnext⟩
    have hmiddle : middle.settings.WellFormed :=
      (SettingWrite.writes_of_perform (MarkedSettings.perform_of_write hwrite)).wellFormed hwell
    rcases h.exists_write hwrite with ⟨next, hwritten, hwidens⟩
    rcases ih hmiddle hwidens hnext with ⟨last, hlast, hend⟩
    exact ⟨last, run_write_eq_ok_iff.2 ⟨next, hwritten, hlast⟩, hend⟩

end PlainPage
