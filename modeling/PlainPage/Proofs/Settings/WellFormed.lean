import PlainPage.Config.Basic
import PlainPage.Proofs.Settings.Scripts
import PlainPage.Settings.WellFormed

/-!
# Settings stay well formed

Every write checks the value that it pushes, so all values of a setting are of its kind,
and no page wider than the widest one is ever pushed.  Nothing removes a setting or changes
its default.  The page width, the alignment and the two switches of every document
therefore always have a value of their own to read.

Main results:

- Theorem `Settings.Writes.setting_cases` says where a setting after a write comes from.
- Theorem `Settings.Writes.wellFormed` says that a write keeps settings well formed.
- Theorem `Settings.WellFormed.width_eq` and its companions say what the readers report.
- Theorem `Session.Sound.perform` says that an operation keeps the settings well formed and
  all marks fit.
- Theorem `Session.run_guarantees` says what holds after any operations on the settings that
  a document starts with.
-/

namespace PlainPage

/-! ## Where a setting comes from -/

/-- What a write under its name makes of a setting: it keeps its kind and its default, and
each of its values was there before or has been checked. -/
structure Setting.Continues (name : Text) (earlier later : Setting) : Prop where
  kind : later.kind = earlier.kind
  default : later.default = earlier.default
  pushed : ∀ value ∈ later.pushed, value ∈ earlier.pushed ∨
    (earlier.kind.accepts value = true ∧ Settings.limitWidth name value = .ok ())

namespace Setting

variable {name : Text} {s : Setting}

/-- A setting that has lost values at most. -/
theorem continues_of_subset {pushed : List Value} (h : pushed ⊆ s.pushed) :
    s.Continues name { s with pushed } :=
  ⟨rfl, rfl, fun _ hvalue => .inl (h hvalue)⟩

/-- A setting with a value on top that has been checked. -/
theorem continues_push {value : Value} (haccepts : s.kind.accepts value = true)
    (hlimit : Settings.limitWidth name value = .ok ()) : s.Continues name (s.push value) := by
  refine ⟨rfl, rfl, fun found hfound => ?_⟩
  rcases List.mem_cons.1 hfound with rfl | hold
  · exact .inr ⟨haccepts, hlimit⟩
  · exact .inl hold

end Setting

namespace Settings

/-- A setting after a change in place to one that continues it. -/
theorem continues_of_modify {entries : Table Setting} {name other : Text} {later old : Setting}
    {f : Setting → Setting} (hlater : (entries.modify other f).get? name = some later)
    (hold : entries.get? other = some old) (hf : old.Continues other (f old)) :
    ∃ earlier, entries.get? name = some earlier ∧ earlier.Continues name later := by
  rw [Table.get?_modify] at hlater
  by_cases hname : name = other
  · subst hname
    rw [if_pos rfl, hold] at hlater
    cases hlater
    exact ⟨old, hold, hf⟩
  · rw [if_neg hname] at hlater
    exact ⟨later, hlater, Setting.continues_of_subset (List.Subset.refl _)⟩

/-- A setting after a write is new and holds only its default, or it continues one that was
there before. -/
theorem Writes.setting_cases {s t : Settings} {change : Change} (h : s.Writes change t)
    {name : Text} {later : Setting} (hlater : t.entries.get? name = some later) :
    (s.entries.get? name = none ∧ later.pushed = [] ∧
        later.kind.accepts later.default = true) ∨
      ∃ earlier, s.entries.get? name = some earlier ∧ earlier.Continues name later := by
  cases h with
  | @declare other kind default hnew haccepts =>
    have hget : (s.entries.insert other { kind, default }).get? name = some later := hlater
    rw [Table.get?_insert] at hget
    by_cases hname : name = other
    · subst hname
      rw [if_pos rfl] at hget
      cases hget
      have hnone : s.entries.get? name = none := by
        cases hfound : s.entries.get? name with
        | none => rfl
        | some found => cases (isDeclared_iff.2 ⟨found, hfound⟩).symm.trans hnew
      exact .inl ⟨hnone, rfl, haccepts⟩
    · rw [if_neg hname] at hget
      exact .inr ⟨later, hget, Setting.continues_of_subset (List.Subset.refl _)⟩
  | set hget hparse hlimit =>
    have haccepts := Kind.accepts_of_parse? hparse
    exact .inr (continues_of_modify hlater hget (Setting.continues_push haccepts hlimit))
  | assign hget haccepts hlimit =>
    exact .inr (continues_of_modify hlater hget (Setting.continues_push haccepts hlimit))
  | unset hget hpushed =>
    refine .inr (continues_of_modify hlater hget (Setting.continues_of_subset ?_))
    rw [hpushed]
    exact List.subset_cons_self ..
  | truncate hget =>
    exact .inr (continues_of_modify hlater hget
      (Setting.continues_of_subset (List.drop_subset ..)))

/-- Looking a setting up after a write that declared it before. -/
theorem Writes.get?_of_some {s t : Settings} {change : Change} (h : s.Writes change t)
    {name : Text} {earlier : Setting} (hearlier : s.entries.get? name = some earlier) :
    ∃ later, t.entries.get? name = some later ∧ later.kind = earlier.kind ∧
      later.default = earlier.default := by
  have hdeclared : t.isDeclared name = true := h.isDeclared (isDeclared_iff.2 ⟨_, hearlier⟩)
  rcases isDeclared_iff.1 hdeclared with ⟨later, hlater⟩
  rcases h.setting_cases hlater with ⟨hnone, -⟩ | ⟨found, hfound, hcontinues⟩
  · rw [hearlier] at hnone
    cases hnone
  · rw [hearlier] at hfound
    cases hfound
    exact ⟨later, hlater, hcontinues.kind, hcontinues.default⟩

/-- Looking a setting up after writes that declared it before. -/
theorem Leads.get?_of_some {P : Settings → Prop} {s t : Settings} (h : Leads P s t)
    {name : Text} {earlier : Setting} (hearlier : s.entries.get? name = some earlier) :
    ∃ later, t.entries.get? name = some later ∧ later.kind = earlier.kind ∧
      later.default = earlier.default := by
  induction h with
  | refl => exact ⟨earlier, hearlier, rfl, rfl⟩
  | step _ hwrite _ ih =>
    rcases ih with ⟨between, hbetween, hkind, hdefault⟩
    rcases hwrite.get?_of_some hbetween with ⟨later, hlater, hkind', hdefault'⟩
    exact ⟨later, hlater, hkind'.trans hkind, hdefault'.trans hdefault⟩

end Settings

/-! ## Well formed settings -/

/-- A value that an integer setting takes is an integer, and one that a document may make
the page width is no wider than the widest page. -/
theorem Settings.exists_integer_of_limitWidth {value : Value}
    (haccepts : Kind.integer.accepts value = true)
    (hlimit : Settings.limitWidth Settings.widthName value = .ok ()) :
    ∃ n : Int, value = .integer n ∧ n ≤ maxWidth := by
  cases value with
  | integer n =>
    refine ⟨n, rfl, Int.not_lt.1 fun hwide => ?_⟩
    simp [limitWidth, hwide] at hlimit
  | switch on => cases haccepts
  | alignment a => cases haccepts
  | text t => cases haccepts

namespace Settings

namespace WellFormed

variable {s : Settings}

/-- Every value is of the kind of its setting. -/
theorem accepted (h : s.WellFormed) (name : Text) (setting : Setting)
    (hget : s.entries.get? name = some setting) :
    ∀ value ∈ setting.values, setting.kind.accepts value = true :=
  h.fitting _ (Table.mem_of_find? hget)

/-- The settings of every document are there with their kinds. -/
theorem standard (h : s.WellFormed) (row : Text × Kind) (hrow : row ∈ standardKinds) :
    ∃ setting, s.entries.get? row.1 = some setting ∧ setting.kind = row.2 :=
  Option.map_eq_some_iff.1 (h.complete row hrow)

/-- Above its default the page width is an integer and no wider than the widest page. -/
theorem limited (h : s.WellFormed) (setting : Setting)
    (hget : s.entries.get? widthName = some setting) :
    ∀ value ∈ setting.pushed, ∃ n : Int, value = .integer n ∧ n ≤ maxWidth := by
  intro value hvalue
  rcases h.standard (widthName, .integer) (by simp [standardKinds]) with ⟨width, hwidth, hkind⟩
  rw [hget] at hwidth
  cases hwidth
  have haccepts := h.accepted widthName setting hget value (List.mem_append_left _ hvalue)
  rw [hkind] at haccepts
  have hnarrow := h.narrow _ (Table.mem_of_find? hget) value hvalue
  cases hlimit : limitWidth widthName value with
  | ok _ => exact exists_integer_of_limitWidth haccepts hlimit
  | error error => simp [hlimit, Except.isOk, Except.toBool] at hnarrow

end WellFormed

/-- A write keeps settings well formed. -/
theorem Writes.wellFormed {s t : Settings} {change : Change} (h : s.Writes change t)
    (hs : s.WellFormed) : t.WellFormed := by
  have hdistinct := h.nodup_names hs.distinct
  refine ⟨hdistinct, ?_, ?_, ?_⟩
  · rintro ⟨name, later⟩ hrow value hvalue
    have hlater : t.entries.get? name = some later := Table.find?_of_mem hdistinct hrow
    dsimp only [Setting.values] at hvalue ⊢
    rcases h.setting_cases hlater with ⟨-, hpushed, haccepts⟩ | ⟨earlier, hearlier, hcontinues⟩
    · rw [hpushed, List.nil_append, List.mem_singleton] at hvalue
      rw [hvalue]
      exact haccepts
    · rw [hcontinues.kind]
      have hvalues := hs.accepted name earlier hearlier
      rcases List.mem_append.1 hvalue with hpushed | hbottom
      · rcases hcontinues.pushed value hpushed with hmem | ⟨haccepts, -⟩
        · exact hvalues value (List.mem_append_left _ hmem)
        · exact haccepts
      · rw [List.mem_singleton.1 hbottom, hcontinues.default]
        exact hvalues _ (List.mem_append_right _ (List.mem_singleton.2 rfl))
  · rintro ⟨name, later⟩ hrow value hvalue
    have hlater : t.entries.get? name = some later := Table.find?_of_mem hdistinct hrow
    rcases h.setting_cases hlater with ⟨-, hpushed, -⟩ | ⟨earlier, hearlier, hcontinues⟩
    · rw [hpushed] at hvalue
      cases hvalue
    · rcases hcontinues.pushed value hvalue with hmem | ⟨-, hlimit⟩
      · exact hs.narrow _ (Table.mem_of_find? hearlier) value hmem
      · dsimp only
        rw [hlimit]
        rfl
  · intro row hrow
    rcases hs.standard row hrow with ⟨earlier, hearlier, hkind⟩
    rcases h.get?_of_some hearlier with ⟨later, hlater, hsame, -⟩
    exact Option.map_eq_some_iff.2 ⟨later, hlater, hsame.trans hkind⟩

/-- Writes keep settings well formed. -/
theorem Leads.wellFormed {P : Settings → Prop} {s t : Settings} (h : Leads P s t)
    (hs : s.WellFormed) : t.WellFormed :=
  h.preserves (fun hwrite => hwrite.wellFormed) hs

end Settings

/-- A command keeps settings well formed, also when it replaces them. -/
theorem Action.wellFormed_run (action : Action) {s : Settings} (hs : s.WellFormed) :
    (action.run s).settings.WellFormed := by
  induction action generalizing s with
  | done => exact hs
  | fail error => exact hs
  | inspect next ih => exact ih _ hs
  | feed lines next ih => exact ih hs
  | attempt change next ih =>
    rw [run]
    cases happly : s.apply change with
    | ok after => exact ih _ ((Settings.writes_of_apply happly).wellFormed hs)
    | error error => exact ih _ hs
  | replace settings hsettings next ih => exact ih hsettings

namespace Settings

/-! ## What the readers report -/

namespace WellFormed

variable {s : Settings}

/-- A setting of every document has a value of its kind in force. -/
theorem exists_current (h : s.WellFormed) {name : Text} {kind : Kind}
    (hrow : (name, kind) ∈ standardKinds) :
    ∃ value, s.current? name = some value ∧ kind.accepts value = true := by
  rcases h.standard _ hrow with ⟨setting, hget, rfl⟩
  refine ⟨setting.current, by simp [current?, hget], h.accepted name setting hget _ ?_⟩
  exact List.mem_of_mem_head? setting.head?_values

/-- The page width is the integer in force; a negative one counts as zero. -/
theorem width_eq (h : s.WellFormed) :
    ∃ n : Int, s.current? widthName = some (.integer n) ∧ s.width = n.toNat := by
  have hrow : (widthName, Kind.integer) ∈ standardKinds := by simp [standardKinds]
  rcases h.exists_current hrow with ⟨value, hcurrent, haccepts⟩
  cases value with
  | integer n => exact ⟨n, hcurrent, by simp [width, hcurrent, Value.integer?]⟩
  | switch on => cases haccepts
  | alignment a => cases haccepts
  | text t => cases haccepts

/-- The alignment is the one in force. -/
theorem alignment_eq (h : s.WellFormed) :
    s.current? alignName = some (.alignment s.alignment) := by
  have hrow : (alignName, Kind.alignment) ∈ standardKinds := by simp [standardKinds]
  rcases h.exists_current hrow with ⟨value, hcurrent, haccepts⟩
  cases value with
  | alignment a => simp [alignment, hcurrent, Value.alignment?]
  | integer n => cases haccepts
  | switch on => cases haccepts
  | text t => cases haccepts

/-- A standard switch is on or off. -/
theorem exists_switch (h : s.WellFormed) {name : Text} (hrow : (name, .switch) ∈ standardKinds) :
    ∃ on, s.current? name = some (.switch on) := by
  rcases h.exists_current hrow with ⟨value, hcurrent, haccepts⟩
  cases value with
  | switch on => exact ⟨on, hcurrent⟩
  | integer n => cases haccepts
  | alignment a => cases haccepts
  | text t => cases haccepts

/-- The indent switch is the one in force. -/
theorem indent_eq (h : s.WellFormed) : s.current? indentName = some (.switch s.indent) := by
  have hrow : (indentName, Kind.switch) ∈ standardKinds := by simp [standardKinds]
  rcases h.exists_switch hrow with ⟨on, hcurrent⟩
  simp [indent, hcurrent, Value.switch?]

/-- The switch that takes lines as they are is the one in force. -/
theorem pre_eq (h : s.WellFormed) : s.current? preName = some (.switch s.pre) := by
  have hrow : (preName, Kind.switch) ∈ standardKinds := by simp [standardKinds]
  rcases h.exists_switch hrow with ⟨on, hcurrent⟩
  simp [pre, hcurrent, Value.switch?]

end WellFormed

end Settings

/-! ## Operations on settings -/

/-- Settings in use: writes may be marked, and the marks kept until they are restored. -/
structure Session where
  settings : Settings
  /-- The marks since marks were last kept. -/
  marks : Marks := {}
  /-- The marks that were kept, the last ones first. -/
  kept : List Marks := []

namespace Session

/-- What can be done with settings. -/
inductive Operation where
  /-- Write to them. -/
  | change (change : Settings.Change)
  /-- Push a value and mark its setting. -/
  | mark (write : SettingWrite)
  /-- Keep the marks, and start anew. -/
  | keep
  /-- Restore marks that were kept, if there are any in that place. -/
  | restore (place : Nat)

/-- What an operation makes of the settings and the marks, unless it is refused. -/
def attempt (s : Session) : Operation → Except DocumentError Session
  | .change change => (s.settings.apply change).map fun settings => { s with settings }
  | .mark write =>
    (MarkedSettings.write { settings := s.settings, marks := s.marks } write).map fun after =>
      { s with settings := after.settings, marks := after.marks }
  | .keep => .ok { s with marks := {}, kept := s.marks :: s.kept }
  | .restore place =>
    match s.kept[place]? with
    | none => .ok s
    | some marks =>
      let (restored, settings) := marks.restore s.settings
      restored.map fun _ => { s with settings }

/-- Perform an operation; one that is refused changes nothing. -/
def perform (s : Session) (operation : Operation) : Except DocumentError Unit × Session :=
  match s.attempt operation with
  | .ok after => (.ok (), after)
  | .error error => (.error error, s)

/-- Perform operations one after the other; one that is refused ends nothing. -/
def run (s : Session) : List Operation → Session
  | [] => s
  | operation :: rest => (s.perform operation).2.run rest

/-- An operation that is refused changes nothing. -/
theorem perform_of_error {s : Session} {operation : Operation} {error : DocumentError}
    (h : (s.perform operation).1 = .error error) : (s.perform operation).2 = s := by
  unfold perform at h ⊢
  cases hattempt : s.attempt operation with
  | ok after =>
    rw [hattempt] at h
    cases h
  | error reason => rfl

/-- Settings that are well formed, with marks that can all be restored. -/
structure Sound (s : Session) : Prop where
  wellFormed : s.settings.WellFormed
  fit : ∀ marks ∈ s.marks :: s.kept, marks.Fit s.settings

/-- Writes to the settings keep all marks fit. -/
theorem Sound.of_leads {s : Session} {P : Settings → Prop} {settings : Settings} (h : s.Sound)
    (hleads : Settings.Leads P s.settings settings) : Sound { s with settings } where
  wellFormed := hleads.wellFormed h.wellFormed
  fit marks hmarks := (h.fit marks hmarks).mono fun _ => hleads.isDeclared

/-- Marks that were kept can be restored. -/
theorem Sound.restore {s : Session} (h : s.Sound) (place : Nat) :
    ∃ after, s.attempt (.restore place) = .ok after := by
  cases hplace : s.kept[place]? with
  | none => exact ⟨s, by simp only [Session.attempt, hplace]⟩
  | some marks =>
    have hmem : marks ∈ s.kept := List.mem_of_getElem? hplace
    rcases (h.fit marks (List.mem_cons_of_mem _ hmem)).restore with ⟨settings, hrestore⟩
    exact ⟨{ s with settings }, by simp only [Session.attempt, hplace, hrestore, Except.map]⟩

/-- Marks that were kept are never refused. -/
theorem Sound.perform_restore {s : Session} (h : s.Sound) (place : Nat) :
    (s.perform (.restore place)).1 = .ok () := by
  rcases h.restore place with ⟨after, hafter⟩
  rw [Session.perform, hafter]

/-- An operation that is not refused keeps the settings well formed and all marks fit. -/
theorem Sound.attempt {s after : Session} {operation : Operation} (h : s.Sound)
    (hafter : s.attempt operation = .ok after) : after.Sound := by
  cases operation with
  | change change =>
    rcases map_eq_ok_iff.1 hafter with ⟨settings, happly, rfl⟩
    have hwrites : s.settings.Writes change settings := Settings.writes_of_apply happly
    exact h.of_leads (Settings.Leads.single (P := fun _ => True) hwrites trivial)
  | mark write =>
    rcases map_eq_ok_iff.1 hafter with ⟨marked, hwrite, rfl⟩
    have hperform := MarkedSettings.perform_of_write hwrite
    have hleads : Settings.Leads (fun _ => True) s.settings marked.settings :=
      .single (SettingWrite.writes_of_perform hperform) trivial
    have hsound := h.of_leads hleads
    refine ⟨hsound.wellFormed, fun marks hmarks => ?_⟩
    rcases List.mem_cons.1 hmarks with rfl | hkept
    · have hdeclared := (SettingWrite.perform_eq_ok hperform).1
      have hfit : s.marks.Fit marked.settings := hsound.fit _ List.mem_cons_self
      rw [MarkedSettings.marks_of_write hwrite]
      exact hfit.note (hleads.isDeclared hdeclared) (Settings.one_le_depth hdeclared)
    · exact hsound.fit marks (List.mem_cons_of_mem _ hkept)
  | keep =>
    cases hafter
    refine ⟨h.wellFormed, fun marks hmarks => ?_⟩
    rcases List.mem_cons.1 hmarks with rfl | hkept
    · exact Marks.fit_empty _
    · exact h.fit marks hkept
  | restore place =>
    unfold Session.attempt at hafter
    cases hplace : s.kept[place]? with
    | none =>
      simp only [hplace] at hafter
      cases hafter
      exact h
    | some marks =>
      rcases hrestore : marks.restore s.settings with ⟨answer, settings⟩
      simp only [hplace, hrestore] at hafter
      rcases map_eq_ok_iff.1 hafter with ⟨⟨⟩, -, rfl⟩
      have hleads : Settings.Leads (fun _ => True) s.settings settings :=
        (Marks.leads_of_cutBack (fun _ _ _ _ _ _ => trivial) hrestore trivial).2
      exact h.of_leads hleads

/-- An operation keeps the settings well formed and all marks fit, also when it is
refused. -/
theorem Sound.perform {s : Session} (h : s.Sound) (operation : Operation) :
    (s.perform operation).2.Sound := by
  unfold Session.perform
  cases hattempt : s.attempt operation with
  | ok after => exact h.attempt hattempt
  | error error => exact h

/-- Sound sessions stay sound, whatever is asked of them. -/
theorem Sound.run {s : Session} (h : s.Sound) (operations : List Operation) :
    (s.run operations).Sound := by
  induction operations generalizing s with
  | nil => exact h
  | cons operation rest ih => exact ih (h.perform operation)

end Session

/-! ## How settings come into being -/

namespace Settings

/-- The kind and the default of a declared setting. -/
def origin? (s : Settings) (name : Text) : Option (Kind × Value) :=
  (s.entries.get? name).map fun setting => (setting.kind, setting.default)

/-- The kind and the default that a write means to give a setting, when the kind takes the
default. -/
def Change.declares? (name : Text) : Change → Option (Kind × Value)
  | .declare other kind default =>
    if other = name ∧ kind.accepts default = true then some (kind, default) else none
  | _ => none

/-- A write gives a setting its kind and default only if it had none. -/
theorem Writes.origin?_eq {s t : Settings} {change : Change} (h : s.Writes change t)
    (name : Text) : t.origin? name = (s.origin? name).or (change.declares? name) := by
  unfold origin?
  cases hget : s.entries.get? name with
  | some earlier =>
    rcases h.get?_of_some hget with ⟨later, hlater, hkind, hdefault⟩
    simp [hlater, hkind, hdefault]
  | none =>
    have hmodify : ∀ (other : Text) (f : Setting → Setting),
        (s.entries.modify other f).get? name = none := by
      intro other f
      rw [Table.get?_modify]
      by_cases hname : name = other
      · rw [if_pos hname, ← hname, hget]
        rfl
      · rw [if_neg hname]
        exact hget
    cases h with
    | @declare other kind default hnew haccepts =>
      by_cases hname : other = name
      · subst hname
        simp [Change.declares?, haccepts]
      · have hne : name ≠ other := fun heq => hname heq.symm
        simp [Change.declares?, hname, Table.get?_insert_of_ne _ _ hne, hget]
    | set => simp [push, hmodify, Change.declares?]
    | assign => simp [push, hmodify, Change.declares?]
    | unset => simp [hmodify, Change.declares?]
    | truncate => simp [hmodify, Change.declares?]

/-- A write that is refused would have declared no setting that is not there. -/
theorem origin?_of_error {s : Settings} {change : Change} {error : DocumentError}
    (h : s.apply change = .error error) (name : Text) :
    s.origin? name = (s.origin? name).or (change.declares? name) := by
  cases hget : s.origin? name with
  | some origin => rfl
  | none =>
    cases change with
    | declare other kind default =>
      by_cases hname : other = name
      · subst hname
        have hnone : s.entries.get? other = none := by simpa [origin?] using hget
        cases haccepts : kind.accepts default with
        | false => simp [Change.declares?, haccepts]
        | true => simp [apply, declare, isDeclared, Table.contains, hnone, haccepts] at h
      · simp [Change.declares?, hname]
    | set => rfl
    | assign => rfl
    | unset => rfl
    | truncate => rfl

end Settings

/-- Cutting back declares nothing. -/
theorem Marks.origin?_of_cutBack {rows : List (Text × Nat)} {s t : Settings}
    {answer : Except DocumentError Unit} (h : cutBack rows s = (answer, t)) (name : Text) :
    t.origin? name = s.origin? name := by
  induction rows generalizing s with
  | nil =>
    cases h
    rfl
  | cons row rest ih =>
    rcases row with ⟨other, depth⟩
    rw [cutBack] at h
    cases htruncate : s.truncate other depth with
    | error error =>
      rw [htruncate] at h
      cases h
      rfl
    | ok u =>
      rw [htruncate] at h
      rw [ih h, (Settings.writes_of_truncate htruncate).origin?_eq name]
      exact Option.or_none

namespace Session

/-- The kind and the default that an operation means to give a setting. -/
def Operation.declares? (name : Text) : Operation → Option (Kind × Value)
  | .change write => write.declares? name
  | _ => none

/-- The kind and the default of a setting after operations: those that it started with, or
those of its first declaration. -/
def origin? (start : Settings) (operations : List Operation) (name : Text) :
    Option (Kind × Value) :=
  (start.origin? name).or (operations.findSome? (·.declares? name))

/-- An operation that is not refused declares what it means to declare, if it is new. -/
theorem origin?_of_attempt {s after : Session} {operation : Operation}
    (h : s.attempt operation = .ok after) (name : Text) :
    after.settings.origin? name = (s.settings.origin? name).or (operation.declares? name) := by
  cases operation with
  | change change =>
    rcases map_eq_ok_iff.1 h with ⟨settings, happly, rfl⟩
    exact (Settings.writes_of_apply happly).origin?_eq name
  | mark write =>
    rcases map_eq_ok_iff.1 h with ⟨marked, hwrite, rfl⟩
    have hperform := MarkedSettings.perform_of_write hwrite
    have hwrites := SettingWrite.writes_of_perform hperform
    have hnone : write.change.declares? name = none := by cases write <;> rfl
    have horigin := hwrites.origin?_eq name
    rw [hnone] at horigin
    exact horigin
  | keep =>
    cases h
    exact Option.or_none.symm
  | restore place =>
    refine Eq.trans ?_ Option.or_none.symm
    cases hplace : s.kept[place]? with
    | none =>
      simp only [attempt, hplace] at h
      cases h
      rfl
    | some marks =>
      rcases hrestore : marks.restore s.settings with ⟨answer, settings⟩
      simp only [attempt, hplace, hrestore] at h
      rcases map_eq_ok_iff.1 h with ⟨⟨⟩, -, rfl⟩
      exact Marks.origin?_of_cutBack hrestore name

/-- An operation that is refused would have declared no setting that is not there. -/
theorem origin?_of_refused {s : Session} {operation : Operation} {error : DocumentError}
    (h : s.attempt operation = .error error) (name : Text) :
    s.settings.origin? name = (s.settings.origin? name).or (operation.declares? name) := by
  cases operation with
  | change change =>
    cases happly : s.settings.apply change with
    | ok settings => simp [attempt, happly, Except.map] at h
    | error reason => exact Settings.origin?_of_error happly name
  | mark write => exact Option.or_none.symm
  | keep => cases h
  | restore place => exact Option.or_none.symm

/-- An operation changes no origin; it can only declare one. -/
theorem origin?_perform (s : Session) (operation : Operation) (name : Text) :
    (s.perform operation).2.settings.origin? name =
      (s.settings.origin? name).or (operation.declares? name) := by
  unfold perform
  cases hattempt : s.attempt operation with
  | ok after => exact origin?_of_attempt hattempt name
  | error error => exact origin?_of_refused hattempt name

/-- A setting keeps the kind and the default that it started with or was first declared
with. -/
theorem origin?_run (s : Session) (operations : List Operation) (name : Text) :
    (s.run operations).settings.origin? name = origin? s.settings operations name := by
  induction operations generalizing s with
  | nil => exact Option.or_none.symm
  | cons operation rest ih =>
    rw [run, ih, origin?, origin?, origin?_perform, Option.or_assoc, List.findSome?_cons]
    cases operation.declares? name <;> rfl

/-! ## What holds after any operations -/

/-- What holds of settings that started as `start`, after operations on them. -/
structure Guarantees (start : Settings) (operations : List Operation) (s : Session) : Prop where
  /-- The declared settings, their kinds and their bottom values are those that they started
  with or were first declared with. -/
  origin : ∀ name kind default,
    (∃ setting, s.settings.entries.get? name = some setting ∧ setting.kind = kind ∧
      setting.values.getLast? = some default) ↔
    origin? start operations name = some (kind, default)
  /-- Every setting has a value, and all its values are of its kind. -/
  accepted : ∀ name setting, s.settings.entries.get? name = some setting →
    setting.values ≠ [] ∧ ∀ value ∈ setting.values, setting.kind.accepts value = true
  /-- Above the bottom no page width is wider than the widest page. -/
  limited : ∀ setting, s.settings.entries.get? Settings.widthName = some setting →
    ∀ value ∈ setting.values.dropLast, ∃ n : Int, value = .integer n ∧ n ≤ maxWidth
  /-- The settings of every document are there with their kinds. -/
  standard : ∀ row ∈ Settings.standardKinds, ∃ setting,
    s.settings.entries.get? row.1 = some setting ∧ setting.kind = row.2
  /-- The readers report the values on top; a negative width counts as zero. -/
  width : ∃ n : Int, s.settings.current? Settings.widthName = some (.integer n) ∧
    s.settings.width = n.toNat
  alignment : s.settings.current? Settings.alignName = some (.alignment s.settings.alignment)
  indent : s.settings.current? Settings.indentName = some (.switch s.settings.indent)
  pre : s.settings.current? Settings.preName = some (.switch s.settings.pre)
  /-- An operation that is refused changes nothing. -/
  unchanged : ∀ operation error, (s.perform operation).1 = .error error →
    (s.perform operation).2 = s
  /-- Marks that were kept are never refused. -/
  restores : ∀ place, (s.perform (.restore place)).1 = .ok ()

end Session

theorem Setting.getLast?_values (s : Setting) : s.values.getLast? = some s.default := by
  simp [values]

theorem Setting.dropLast_values (s : Setting) : s.values.dropLast = s.pushed := by
  simp [values]

namespace Session

/-- What holds of the settings that a document starts with, after any operations on them. -/
theorem run_guarantees {start : Settings}
    (hstart : start = .standard ∨ ∃ c : Config, start = c.settings)
    (operations : List Operation) :
    Guarantees start operations (run { settings := start } operations) := by
  have hwell : start.WellFormed := by
    rcases hstart with rfl | ⟨c, rfl⟩
    · exact Settings.wellFormed_start ..
    · exact Settings.wellFormed_start ..
  have hsound : Sound { settings := start } := by
    refine ⟨hwell, fun marks hmarks => ?_⟩
    rw [List.mem_singleton.1 hmarks]
    exact Marks.fit_empty start
  have horigin := origin?_run { settings := start } operations
  have hlast := hsound.run operations
  generalize run { settings := start } operations = s at horigin hlast
  refine ⟨?_, ?_, ?_, hlast.wellFormed.standard, hlast.wellFormed.width_eq,
    hlast.wellFormed.alignment_eq, hlast.wellFormed.indent_eq, hlast.wellFormed.pre_eq, ?_, ?_⟩
  · intro name kind default
    rw [← horigin name, Settings.origin?, Option.map_eq_some_iff]
    simp only [Setting.getLast?_values, Option.some.injEq, Prod.mk.injEq]
  · intro name setting hget
    exact ⟨setting.values_ne_nil, hlast.wellFormed.accepted name setting hget⟩
  · intro setting hget
    rw [setting.dropLast_values]
    exact hlast.wellFormed.limited setting hget
  · exact fun operation error herror => perform_of_error herror
  · exact hlast.perform_restore

/-- A page that is narrowed, asked to be too wide, made negative and restored, beside a
setting that was declared on the way. -/
theorem run_guarantees_restored_width :
    let tone := "tone".toList
    let operations : List Operation :=
      [.change (.declare tone .inferred (.text "plain".toList)), .mark (.width 40), .keep,
        .change (.set Settings.widthName "2000".toList),
        .change (.set Settings.widthName "-5".toList), .restore 0]
    let s := run { settings := .standard } operations
    Guarantees .standard operations s ∧ s.settings.width = 80 ∧
      s.settings.depth Settings.widthName = 1 ∧
      origin? .standard operations tone = some (.inferred, .text "plain".toList) := by
  intro tone operations s
  have hkept : Guarantees .standard operations s := run_guarantees (.inl rfl) operations
  refine ⟨hkept, ?_⟩
  decide +kernel

end Session

end PlainPage
