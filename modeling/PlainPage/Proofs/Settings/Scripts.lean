import PlainPage.Plugin.Repertoire
import PlainPage.Proofs.Settings.Changes

/-!
# Scripts that write to the settings

An opening only pushes values, and marks for every setting that it touches how many
values there were.  So cutting back to the marks gives back the settings from before, and
the cut cannot fail.  A command may write in any way, and may also replace the settings as a
whole; the settings that it passes through are listed beside it.

Main results:

- Theorem `MarkedSettings.Above.run` says that an opening leaves the values beneath its
  marks alone, whether it succeeds or not.
- Theorem `MarkedSettings.Above.restore` says that cutting back right after an opening
  gives exactly the settings before it.
- Theorem `Marks.get?_of_restore` says what cutting back does to every setting.
- Theorems `Opening.leads_run`, `Marks.leads_of_cutBack`, `Action.leads_run` and
  `Repertoire.leads_of_declareAll` say that all four are sequences of writes.
-/

namespace PlainPage

/-! ## Writes of an opening -/

namespace SettingWrite

/-- The write to the settings that a write of an opening is. -/
def change : SettingWrite → Settings.Change
  | raw name words => .set name words
  | typed name value => .assign name value

/-- A write of an opening puts a value on top of the setting it names. -/
theorem perform_eq_ok {s t : Settings} {w : SettingWrite} (h : w.perform s = .ok t) :
    s.isDeclared w.name = true ∧ ∃ value, t = s.push w.name value := by
  cases w with
  | raw name words =>
    cases Settings.writes_of_set h with
    | set hget => exact ⟨Settings.isDeclared_iff.2 ⟨_, hget⟩, _, rfl⟩
  | typed name value =>
    cases Settings.writes_of_assign h with
    | assign hget => exact ⟨Settings.isDeclared_iff.2 ⟨_, hget⟩, _, rfl⟩

/-- What a script asks for is a write. -/
theorem writes_of_perform {s t : Settings} {w : SettingWrite} (h : w.perform s = .ok t) :
    s.Writes w.change t := by
  cases w with
  | raw name words => exact Settings.writes_of_set h
  | typed name value => exact Settings.writes_of_assign h

/-- A write of an opening takes no setting down. -/
theorem depth_le_of_perform {s t : Settings} {w : SettingWrite} (h : w.perform s = .ok t)
    (name : Text) : s.depth name ≤ t.depth name := by
  rcases perform_eq_ok h with ⟨hdeclared, value, rfl⟩
  by_cases hname : name = w.name
  · rw [hname, Settings.depth_of_push value hdeclared]
    omega
  · have hsame : (s.push w.name value).depth name = s.depth name := by
      unfold Settings.depth
      rw [Settings.get?_push_of_ne s value hname]
    exact Nat.le_of_eq hsame.symm

end SettingWrite

/-- A marked write is a write to the settings beneath. -/
theorem MarkedSettings.perform_of_write {m after : MarkedSettings} {w : SettingWrite}
    (h : m.write w = .ok after) : w.perform m.settings = .ok after.settings := by
  rcases bind_eq_ok_iff.1 h with ⟨settings, hperform, h⟩
  cases h
  exact hperform

/-! ## Cutting back -/

namespace Settings

/-- Cutting one setting back leaves every setting declared. -/
theorem isDeclared_of_truncate {s t : Settings} {name other : Text} {depth : Nat}
    (h : s.truncate name depth = .ok t) (hother : s.isDeclared other = true) :
    t.isDeclared other = true :=
  (writes_of_truncate h).isDeclared hother

/-- Cutting back takes no setting up. -/
theorem depth_le_of_truncate {s t : Settings} {name : Text} {depth : Nat}
    (h : s.truncate name depth = .ok t) (other : Text) : t.depth other ≤ s.depth other := by
  cases writes_of_truncate h with
  | truncate hget =>
    unfold Settings.depth
    rw [Table.get?_modify]
    by_cases hother : other = name
    · subst hother
      simp only [hget, if_true, Option.map_some, Option.getD_some, Setting.depth_truncate]
      omega
    · simp only [if_neg hother, Nat.le_refl]

/-- Cutting back one setting leaves its values up to the given depth. -/
theorem get?_truncate_self {s t : Settings} {name : Text} {depth : Nat}
    (h : s.truncate name depth = .ok t) : t.entries.get? name = s.lowest name depth := by
  cases writes_of_truncate h with
  | truncate => exact Table.get?_modify_self ..

theorem names_of_truncate {s t : Settings} {name : Text} {depth : Nat}
    (h : s.truncate name depth = .ok t) : t.entries.names = s.entries.names := by
  cases writes_of_truncate h with
  | truncate => exact Table.names_modify ..

end Settings

namespace Marks

/-- Marks as openings make them: each setting is marked once, and keeps at least its
default. -/
structure Proper (marks : Marks) : Prop where
  distinct : marks.names.Nodup
  positive : ∀ mark ∈ marks.depths, 1 ≤ mark.2

/-- Marks that fit the settings: they are proper, and every marked setting is declared. -/
structure Fit (marks : Marks) (s : Settings) : Prop extends Proper marks where
  declared : ∀ name ∈ marks.names, s.isDeclared name = true

/-- No marks fit any settings. -/
theorem fit_empty (s : Settings) : Fit {} s where
  distinct := List.nodup_nil
  declared := by simp [names]
  positive := by simp

/-- Marks fit as long as no setting goes away. -/
theorem Fit.mono {marks : Marks} {s t : Settings} (h : marks.Fit s)
    (hdeclared : ∀ name, s.isDeclared name = true → t.isDeclared name = true) : marks.Fit t where
  distinct := h.distinct
  declared name hname := hdeclared name (h.declared name hname)
  positive := h.positive

/-- Cutting back goes on after a setting that could be cut back. -/
theorem cutBack_cons_eq_ok_iff {name : Text} {depth : Nat} {rest : List (Text × Nat)}
    {s t : Settings} : cutBack ((name, depth) :: rest) s = (.ok (), t) ↔
      ∃ u, s.truncate name depth = .ok u ∧ cutBack rest u = (.ok (), t) := by
  rw [cutBack]
  cases s.truncate name depth with
  | error error => simp
  | ok u => simp

/-- Declared settings can be cut back one after the other. -/
theorem cutBack_of_declared {rows : List (Text × Nat)} {s : Settings}
    (h : ∀ name ∈ rows.map (·.1), s.isDeclared name = true) :
    ∃ t, cutBack rows s = (.ok (), t) := by
  induction rows generalizing s with
  | nil => exact ⟨s, rfl⟩
  | cons row rest ih =>
    rcases row with ⟨name, depth⟩
    have hcut := Settings.truncate_of_isDeclared (h name (by simp)) depth
    have hrest : ∀ other ∈ rest.map (·.1), Settings.isDeclared _ other = true :=
      fun other hother =>
        Settings.isDeclared_of_truncate hcut (h other (List.mem_cons_of_mem _ hother))
    rcases ih hrest with ⟨t, ht⟩
    refine ⟨t, ?_⟩
    rw [cutBack, hcut]
    exact ht

/-- What cutting back settings one after the other does to every one of them, when each is
named once. -/
theorem get?_of_cutBack {rows : List (Text × Nat)} {s t : Settings}
    (hdistinct : (rows.map (·.1)).Nodup) (h : cutBack rows s = (.ok (), t)) :
    t.entries.names = s.entries.names ∧
      (∀ name depth, (name, depth) ∈ rows → t.entries.get? name = s.lowest name depth) ∧
      ∀ name, name ∉ rows.map (·.1) → t.entries.get? name = s.entries.get? name := by
  induction rows generalizing s with
  | nil =>
    cases h
    simp
  | cons row rest ih =>
    rcases row with ⟨name, depth⟩
    rw [List.map_cons, List.nodup_cons] at hdistinct
    rcases cutBack_cons_eq_ok_iff.1 h with ⟨u, hcut, hrest⟩
    rcases ih hdistinct.2 hrest with ⟨hnames, hmarked, hfree⟩
    refine ⟨hnames.trans (Settings.names_of_truncate hcut), ?_, ?_⟩
    · intro other lower hmem
      rcases List.mem_cons.1 hmem with heq | hrow
      · cases heq
        rw [hfree name hdistinct.1]
        exact Settings.get?_truncate_self hcut
      · have hne : other ≠ name := fun heq =>
          hdistinct.1 (heq ▸ List.mem_map_of_mem (f := (·.1)) hrow)
        rw [hmarked other lower hrow]
        unfold Settings.lowest
        rw [Settings.get?_of_truncate hcut hne]
    · intro other hother
      rw [List.map_cons, List.mem_cons, not_or] at hother
      rw [hfree other hother.2]
      exact Settings.get?_of_truncate hcut hother.1

/-- Cutting back is a sequence of writes, also when it stops half way.  A property that holds
at its end holds all the way, if it held before every cut that it holds after. -/
theorem leads_of_cutBack {P : Settings → Prop} {rows : List (Text × Nat)} {s t : Settings}
    {answer : Except DocumentError Unit}
    (hcut : ∀ s t name depth, Settings.truncate s name depth = .ok t → P t → P s)
    (h : cutBack rows s = (answer, t)) (ht : P t) : P s ∧ Settings.Leads P s t := by
  induction rows generalizing s with
  | nil =>
    cases h
    exact ⟨ht, .refl _⟩
  | cons row rest ih =>
    rcases row with ⟨name, depth⟩
    rw [cutBack] at h
    cases htruncate : s.truncate name depth with
    | error error =>
      rw [htruncate] at h
      cases h
      exact ⟨ht, .refl _⟩
    | ok u =>
      rw [htruncate] at h
      rcases ih h with ⟨hu, hleads⟩
      exact ⟨hcut _ u name depth htruncate hu,
        (Settings.Leads.single (Settings.writes_of_truncate htruncate) hu).trans hleads⟩

/-- Marks that fit can be restored. -/
theorem Fit.restore {marks : Marks} {s : Settings} (h : marks.Fit s) :
    ∃ t, marks.restore s = (.ok (), t) := by
  refine cutBack_of_declared ?_
  intro name hname
  rw [List.map_reverse, List.mem_reverse] at hname
  exact h.declared name hname

/-- Restoring cuts every marked setting back to its mark and leaves the others alone. -/
theorem get?_of_restore {marks : Marks} {s t : Settings} (hdistinct : marks.names.Nodup)
    (h : marks.restore s = (.ok (), t)) :
    t.entries.names = s.entries.names ∧
      (∀ name depth, (name, depth) ∈ marks.depths →
        t.entries.get? name = s.lowest name depth) ∧
      ∀ name, name ∉ marks.names → t.entries.get? name = s.entries.get? name := by
  have hreverse : (marks.depths.reverse.map (·.1)).Nodup := by
    rw [List.map_reverse, (List.reverse_perm _).nodup_iff]
    exact hdistinct
  rcases get?_of_cutBack hreverse h with ⟨hnames, hmarked, hfree⟩
  refine ⟨hnames, ?_, ?_⟩
  · intro name depth hmem
    exact hmarked name depth (List.mem_reverse.2 hmem)
  · intro name hname
    refine hfree name ?_
    rw [List.map_reverse, List.mem_reverse]
    exact hname

/-- Noting a depth keeps the settings that were marked and adds at most one. -/
theorem mem_names_note {marks : Marks} {name other : Text} {depth : Nat} :
    other ∈ (marks.note name depth).names ↔ other = name ∨ other ∈ marks.names := by
  by_cases h : name ∈ marks.names
  · have hnote : marks.note name depth = marks := by simp [note, h]
    rw [hnote]
    refine ⟨.inr, ?_⟩
    rintro (rfl | hother)
    · exact h
    · exact hother
  · have hnote : marks.note name depth = ⟨marks.depths ++ [(name, depth)]⟩ := by simp [note, h]
    rw [hnote]
    simp [names, or_comm]

/-- A noted depth was marked before, or is the new one of a setting that was not. -/
theorem mem_depths_note {marks : Marks} {name : Text} {depth : Nat} {mark : Text × Nat}
    (h : mark ∈ (marks.note name depth).depths) :
    mark ∈ marks.depths ∨ mark = (name, depth) ∧ name ∉ marks.names := by
  unfold note at h
  split at h
  · exact .inl h
  · rename_i hname
    rcases List.mem_append.1 h with hold | hnew
    · exact .inl hold
    · exact .inr ⟨List.mem_singleton.1 hnew, by simpa using hname⟩

/-- A name is noted once. -/
theorem nodup_names_note {marks : Marks} (h : marks.names.Nodup) (name : Text) (depth : Nat) :
    (marks.note name depth).names.Nodup := by
  unfold note
  split
  · exact h
  · rename_i hname
    have hnew : name ∉ marks.names := by simpa using hname
    have hnames : (⟨marks.depths ++ [(name, depth)]⟩ : Marks).names = marks.names ++ [name] := by
      simp [names]
    rw [hnames]
    exact Table.nodup_append_singleton h hnew

/-- Marks still fit with the depth of one more declared setting. -/
theorem Fit.note {marks : Marks} {s : Settings} {name : Text} {depth : Nat} (h : marks.Fit s)
    (hname : s.isDeclared name = true) (hdepth : 1 ≤ depth) : (marks.note name depth).Fit s where
  distinct := nodup_names_note h.distinct name depth
  declared other hother := by
    rcases mem_names_note.1 hother with rfl | hold
    · exact hname
    · exact h.declared other hold
  positive mark hmark := by
    rcases mem_depths_note hmark with hold | ⟨rfl, -⟩
    · exact h.positive mark hold
    · exact hdepth

end Marks

/-! ## What an opening leaves -/

namespace MarkedSettings

/-- Marked settings that marked pushes have led to from the settings `s`. -/
structure Above (s : Settings) (m : MarkedSettings) : Prop where
  names_eq : m.settings.entries.names = s.entries.names
  fit : m.marks.Fit s
  depth_eq : ∀ mark ∈ m.marks.depths, mark.2 = s.depth mark.1
  /-- The old values are still beneath the new ones. -/
  beneath : ∀ name, m.settings.lowest name (s.depth name) = s.entries.get? name
  free : ∀ name, name ∉ m.marks.names → m.settings.entries.get? name = s.entries.get? name

/-- Settings on which nothing has been pushed yet. -/
theorem above_start (s : Settings) : Above s { settings := s } where
  names_eq := rfl
  fit := Marks.fit_empty s
  depth_eq := by simp
  beneath := s.lowest_depth
  free _ _ := rfl

/-- No declaration is made or lost above marked settings. -/
theorem Above.isDeclared_iff {s : Settings} {m : MarkedSettings} (h : Above s m) {name : Text} :
    m.settings.isDeclared name = true ↔ s.isDeclared name = true := by
  unfold Settings.isDeclared
  rw [Table.contains_iff_mem_names, Table.contains_iff_mem_names, h.names_eq]

/-- One more push keeps the old values beneath and marks the setting that it touches. -/
theorem Above.write {s : Settings} {m after : MarkedSettings} {w : SettingWrite}
    (h : Above s m) (hwrite : m.write w = .ok after) : Above s after := by
  have hmarks := marks_of_write hwrite
  rcases SettingWrite.perform_eq_ok (perform_of_write hwrite) with ⟨hdeclared, value, hpush⟩
  have hdeclared' : s.isDeclared w.name = true := h.isDeclared_iff.1 hdeclared
  have hdepth : ∀ name, s.depth name ≤ m.settings.depth name :=
    fun name => Settings.depth_le_of_lowest_eq (h.beneath name)
  -- A setting is marked before the first push on it, when its values are the old ones.
  have hmark : w.name ∉ m.marks.names → m.settings.depth w.name = s.depth w.name := by
    intro hname
    unfold Settings.depth
    rw [h.free w.name hname]
  refine ⟨?_, ?_, ?_, ?_, ?_⟩
  · rw [hpush, Settings.push, Table.names_modify]
    exact h.names_eq
  · rw [hmarks]
    exact h.fit.note hdeclared' (Settings.one_le_depth hdeclared)
  · intro mark hmem
    rw [hmarks] at hmem
    rcases Marks.mem_depths_note hmem with hold | ⟨rfl, hname⟩
    · exact h.depth_eq mark hold
    · exact hmark hname
  · intro name
    rw [← h.beneath name, hpush]
    refine Settings.lowest_modify fun setting hget heq => ?_
    refine Setting.truncate_push_of_le ?_ value
    rw [← Settings.depth_of_get? hget, ← heq]
    exact hdepth name
  · intro name hname
    rw [hmarks, Marks.mem_names_note, not_or] at hname
    rw [hpush, Settings.get?_push_of_ne _ value hname.1]
    exact h.free name hname.2

/-- An opening leaves the old values beneath its pushes, whether it succeeds or not. -/
theorem Above.run {s : Settings} {m : MarkedSettings} (o : Opening) (h : Above s m) :
    Above s (o.run m).2 := by
  induction o generalizing m with
  | done => exact h
  | fail error => exact h
  | inspect next ih => exact ih _ _ h
  | attempt w next ih =>
    rw [Opening.run]
    cases hwrite : m.write w with
    | ok after => exact ih _ (h.write hwrite)
    | error error => exact ih _ h

/-- Cutting back right after an opening gives the settings before it, value for value. -/
theorem Above.restore {s : Settings} {m : MarkedSettings} (h : Above s m)
    (hdistinct : s.entries.names.Nodup) : m.marks.restore m.settings = (.ok (), s) := by
  have hfit : m.marks.Fit m.settings := h.fit.mono fun _ => h.isDeclared_iff.2
  rcases hfit.restore with ⟨t, ht⟩
  rcases Marks.get?_of_restore hfit.distinct ht with ⟨hnames, hmarked, hfree⟩
  have hget : ∀ name, s.entries.get? name = t.entries.get? name := by
    intro name
    by_cases hname : name ∈ m.marks.names
    · rcases List.mem_map.1 hname with ⟨mark, hmem, rfl⟩
      rw [hmarked mark.1 mark.2 hmem, h.depth_eq mark hmem, h.beneath]
    · rw [hfree name hname, h.free name hname]
  have hentries : s.entries = t.entries :=
    Table.eq_of_get? (h.names_eq.symm.trans hnames.symm) hdistinct hget
  rw [ht]
  exact congrArg (Prod.mk _) (congrArg Settings.mk hentries).symm

/-- Cutting back gives a marked setting its old values, when it never had fewer of them since
the opening. -/
theorem Above.get?_of_restore {s after restored : Settings} {m : MarkedSettings} {name : Text}
    (h : Above s m) (hname : name ∈ m.marks.names)
    (hleads : Settings.Leads (s.depth name ≤ ·.depth name) m.settings after)
    (hrestore : m.marks.restore after = (.ok (), restored)) :
    restored.entries.get? name = s.entries.get? name := by
  rcases List.mem_map.1 hname with ⟨mark, hmem, rfl⟩
  have hdeclared : m.settings.isDeclared mark.1 = true :=
    h.isDeclared_iff.2 (h.fit.declared _ hname)
  have hdepth : s.depth mark.1 ≤ m.settings.depth mark.1 :=
    Settings.depth_le_of_lowest_eq (h.beneath mark.1)
  have hcut := (Marks.get?_of_restore h.fit.distinct hrestore).2.1 mark.1 mark.2 hmem
  calc restored.entries.get? mark.1
      = after.lowest mark.1 (s.depth mark.1) := by rw [hcut, h.depth_eq mark hmem]
    _ = m.settings.lowest mark.1 (s.depth mark.1) := hleads.lowest_eq hdeclared hdepth
    _ = s.entries.get? mark.1 := h.beneath mark.1

/-- Cutting back gives a setting its old values, whether it is marked or not, when it has the
same values again as after the opening. -/
theorem Above.get?_of_restore_of_eq {s after restored : Settings} {m : MarkedSettings}
    {name : Text} (h : Above s m)
    (hsame : after.entries.get? name = m.settings.entries.get? name)
    (hrestore : m.marks.restore after = (.ok (), restored)) :
    restored.entries.get? name = s.entries.get? name := by
  rcases Marks.get?_of_restore h.fit.distinct hrestore with ⟨-, hmarked, hfree⟩
  by_cases hname : name ∈ m.marks.names
  · rcases List.mem_map.1 hname with ⟨mark, hmem, rfl⟩
    calc restored.entries.get? mark.1
        = after.lowest mark.1 (s.depth mark.1) := by
          rw [hmarked mark.1 mark.2 hmem, h.depth_eq mark hmem]
      _ = m.settings.lowest mark.1 (s.depth mark.1) := by
          unfold Settings.lowest
          rw [hsame]
      _ = s.entries.get? mark.1 := h.beneath mark.1
  · rw [hfree name hname, hsame, h.free name hname]

end MarkedSettings

namespace Opening

/-- The settings that an opening pushes on, in order. -/
def touched : Opening → MarkedSettings → List Text
  | done, _ => []
  | fail _, _ => []
  | inspect next, m => (next m.settings.width m.settings.alignment).touched m
  | attempt w next, m =>
    match m.write w with
    | .ok after => w.name :: (next (.ok ())).touched after
    | .error error => (next (.error error)).touched m

/-- An opening marks the settings that it pushes on, and no others. -/
theorem mem_names_run (o : Opening) (m : MarkedSettings) (name : Text) :
    name ∈ (o.run m).2.marks.names ↔ name ∈ m.marks.names ∨ name ∈ o.touched m := by
  induction o generalizing m with
  | done => simp [run, touched]
  | fail error => simp [run, touched]
  | inspect next ih =>
    rw [run, touched]
    exact ih _ _ _
  | attempt w next ih =>
    rw [run, touched]
    cases hwrite : m.write w with
    | error error => exact ih _ _
    | ok after =>
      dsimp only
      rw [ih, MarkedSettings.marks_of_write hwrite, Marks.mem_names_note, List.mem_cons]
      exact or_right_comm.trans or_comm

/-- An opening leaves marks for the settings that it touches, and no others. -/
theorem mem_names_iff_touched {o : Opening} {s after : Settings} {marks : Marks}
    {answer : Except DocumentError Unit} {name : Text}
    (h : o.run { settings := s } = (answer, ⟨after, marks⟩)) :
    name ∈ marks.names ↔ name ∈ o.touched { settings := s } := by
  have hmem := mem_names_run o { settings := s } name
  rw [h] at hmem
  simpa [Marks.names] using hmem

end Opening

/-- An opening is a sequence of writes.  What its writes keep holds all the way. -/
theorem Opening.leads_run {P : Settings → Prop}
    (hwrite : ∀ (s t : Settings) (w : SettingWrite), w.perform s = .ok t → P s → P t)
    (o : Opening) {m : MarkedSettings} (hm : P m.settings) :
    Settings.Leads P m.settings (o.run m).2.settings := by
  induction o generalizing m with
  | done => exact .refl _
  | fail error => exact .refl _
  | inspect next ih => exact ih _ _ hm
  | attempt w next ih =>
    rw [Opening.run]
    cases hresult : m.write w with
    | ok after =>
      have hperform := MarkedSettings.perform_of_write hresult
      have hafter := hwrite _ _ w hperform hm
      have hfirst : Settings.Leads P m.settings after.settings :=
        .single (SettingWrite.writes_of_perform hperform) hafter
      exact hfirst.trans (ih _ hafter)
    | error error => exact ih _ hm

/-! ## Commands and declarations -/

/-- The settings after each write of a script. -/
def Action.passes : Action → Settings → List Settings
  | done, _ => []
  | fail _, _ => []
  | inspect next, s => (next s).passes s
  | feed _ next, s => next.passes s
  | attempt change next, s =>
    match s.apply change with
    | .ok after => after :: (next (.ok ())).passes after
    | .error error => (next (.error error)).passes s
  | replace settings _ next, _ => settings :: next.passes settings

/-- Whether a script replaces the settings as a whole. -/
def Action.replaces : Action → Settings → Bool
  | done, _ => false
  | fail _, _ => false
  | inspect next, s => (next s).replaces s
  | feed _ next, s => next.replaces s
  | attempt change next, s =>
    match s.apply change with
    | .ok after => (next (.ok ())).replaces after
    | .error error => (next (.error error)).replaces s
  | replace _ _ _, _ => true

/-- A command that changes settings by single writes only, whatever it is given. -/
def Command.InPlace (command : Command) : Prop :=
  ∀ args s, (command args).replaces s = false

/-- A script that does not replace the settings is a sequence of writes through the settings
that it passes. -/
theorem Action.leads_run {P : Settings → Prop} (action : Action) {s : Settings}
    (hplace : action.replaces s = false) (h : ∀ after ∈ action.passes s, P after) :
    Settings.Leads P s (action.run s).settings := by
  induction action generalizing s with
  | done => exact .refl s
  | fail error => exact .refl s
  | inspect next ih => exact ih _ hplace h
  | feed lines next ih => exact ih hplace h
  | replace settings hsettings next ih => cases hplace
  | attempt change next ih =>
    rw [passes] at h
    rw [replaces] at hplace
    rw [run]
    cases happly : s.apply change with
    | ok after =>
      rw [happly] at h hplace
      have hfirst : Settings.Leads P s after :=
        .single (Settings.writes_of_apply happly) (h after List.mem_cons_self)
      exact hfirst.trans (ih _ hplace fun later hlater => h later (List.mem_cons_of_mem _ hlater))
    | error error =>
      rw [happly] at h hplace
      exact ih _ hplace h

/-- Declaring settings is a sequence of writes. -/
theorem Repertoire.leads_of_declareAll {P : Settings → Prop}
    (hdeclare : ∀ (s t : Settings) (name : Text) (kind : Kind) (default : Value),
      s.declare name kind default = .ok t → P s → P t)
    {declarations : List SettingDeclaration} {s t : Settings}
    (h : declareAll declarations s = .ok t) (hs : P s) : Settings.Leads P s t := by
  induction declarations generalizing s with
  | nil =>
    cases h
    exact .refl _
  | cons d rest ih =>
    rcases bind_eq_ok_iff.1 h with ⟨u, hdeclared, hrest⟩
    have hu := hdeclare _ _ _ _ _ hdeclared hs
    exact (Settings.Leads.single (Settings.writes_of_declare hdeclared) hu).trans (ih hrest hu)

/-- A declaration leaves the number of values of every declared setting alone. -/
theorem Settings.depth_of_declare {s t : Settings} {name other : Text} {kind : Kind}
    {default : Value} (h : s.declare name kind default = .ok t)
    (hother : s.isDeclared other = true) : t.depth other = s.depth other := by
  cases writes_of_declare h with
  | declare hnew =>
    have hne : other ≠ name := by
      rintro rfl
      simp [hnew] at hother
    unfold depth
    rw [Table.get?_insert_of_ne _ _ hne]

end PlainPage
