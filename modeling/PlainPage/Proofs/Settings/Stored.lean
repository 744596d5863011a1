import PlainPage.Proofs.Settings.WellFormed
import PlainPage.Settings.Stored

/-!
# Settings and their stored form

A stored setting is a plain list of values, and a write on it is made in place.  Storing a
setting turns its values round.  It commutes with every write: where a write is refused, the
list is left as it was, and where one takes values off, the guards of the list leave the
default.  So what holds of settings after any operations holds of the lists.

Main results:

- Theorem `Setting.exists_stored_iff` says which lists are stored settings: those that are
  not empty.
- Theorem `Settings.apply_stored` says what a write does to the stored form.
- Theorem `Session.Sound.run_stored` says the same of any operations, and theorem
  `StoredSession.run_holds` what follows for the lists.
-/

namespace PlainPage

/-! ## One setting -/

/-- A setting as it is stored. -/
def Setting.stored (s : Setting) : Entry :=
  { kind := s.kind, values := s.values.reverse }

namespace Setting

/-- The oldest stored value is the default. -/
theorem head?_stored (s : Setting) : s.stored.values.head? = some s.default := by
  simp [stored, values]

/-- A stored setting has its default and every pushed value. -/
theorem length_stored (s : Setting) : s.stored.values.length = s.depth := by
  simp [stored]

/-- The stored settings are the entries that have a value. -/
theorem exists_stored_iff {e : Entry} : (∃ s : Setting, s.stored = e) ↔ e.values ≠ [] := by
  constructor
  · rintro ⟨s, rfl⟩ hnone
    have hhead := s.head?_stored
    rw [hnone] at hhead
    cases hhead
  · intro h
    rcases e with ⟨kind, values⟩
    cases values with
    | nil => exact absurd rfl h
    | cons default pushed =>
      exact ⟨{ kind, default, pushed := pushed.reverse }, by simp [stored, Setting.values]⟩

/-- A value that is pushed stands last in the stored form. -/
theorem stored_push (s : Setting) (value : Value) :
    (s.push value).stored = { s.stored with values := s.stored.values ++ [value] } := by
  simp [stored, values, push]

/-- Pushing on the stored form is pushing, unless the page gets too wide. -/
theorem push_stored (s : Setting) (name : Text) (value : Value) :
    s.stored.push name value =
      match Settings.limitWidth name value with
      | .ok _ => (.ok (), (s.push value).stored)
      | .error error => (.error error, s.stored) := by
  unfold Entry.push
  cases Settings.limitWidth name value with
  | ok _ => rw [stored_push]
  | error _ => rfl

/-- The guard on taking a value refuses exactly when only the default is left. -/
theorem unset_stored (s : Setting) (name : Text) :
    s.stored.unset name =
      match s.pushed with
      | [] => (.error (.nothingToUnset name), s.stored)
      | value :: rest => (.ok value, ({ s with pushed := rest } : Setting).stored) := by
  rw [Entry.unset, length_stored, depth]
  cases hpushed : s.pushed with
  | nil => rfl
  | cons value rest =>
    have hvalues : s.stored.values = s.default :: (rest.reverse ++ [value]) := by
      simp [stored, values, hpushed]
    have hmany : ¬ (value :: rest).length + 1 ≤ 1 := by simp
    rw [if_neg hmany, hvalues]
    simp [stored, values, List.getLast?_cons, List.dropLast_cons_of_ne_nil]

/-- The guard on cutting back leaves the default. -/
theorem truncate_stored (s : Setting) (depth : Nat) :
    s.stored.truncate depth = (s.truncate depth).stored := by
  rw [Entry.truncate, length_stored]
  by_cases h : depth < s.depth
  · have hone := s.one_le_depth
    have hfew : s.depth - max depth 1 ≤ s.pushed.length := by
      rw [Setting.depth] at *
      omega
    have hvalues : s.stored.values.take (max depth 1) = (s.truncate depth).values.reverse := by
      rw [stored, List.take_reverse, length_values, truncate, values, values,
        List.drop_append_of_le_length hfew]
    rw [if_pos h, hvalues]
    rfl
  · rw [if_neg h, truncate_of_depth_le (Nat.le_of_not_lt h)]

end Setting

/-! ## All settings -/

namespace Settings

/-- Settings as they are stored. -/
def stored (s : Settings) : Store :=
  { entries := s.entries.map Setting.stored }

/-- The settings that a document starts with are stored as its first values. -/
theorem stored_start (width : Nat) (align : Alignment) (indent : Bool) :
    (start width align indent).stored = Store.start width align indent := rfl

/-- Stored settings are as deep as they were. -/
theorem depth_stored (s : Settings) (name : Text) : s.stored.depth name = s.depth name := by
  rw [Store.depth, stored, Table.get?_map, depth, Option.map_map]
  exact congrArg (fun f => ((s.entries.get? name).map f).getD 0)
    (funext fun setting => setting.length_stored)

/-- The answer to a write in its stored form: the settings that it leaves, or the ones that were
there when it is refused. -/
def answerStored (s : Settings) :
    Except DocumentError Settings → Except DocumentError Unit × Store
  | .ok t => (.ok (), t.stored)
  | .error error => (.error error, s.stored)

section On

variable {s : Settings} {name : Text} {α : Type} {f : Entry → Except DocumentError α × Entry}

/-- Nothing is done to a setting that is not there. -/
theorem on_stored_of_none (h : s.entries.get? name = none) :
    s.stored.on name f = (.error (.unknownSetting name), s.stored) := by
  rw [Store.on, stored, Table.get?_map, h]
  rfl

/-- What is done to one setting in place. -/
theorem on_stored {setting later : Setting} {answer : Except DocumentError α}
    (h : s.entries.get? name = some setting) (hf : f setting.stored = (answer, later.stored)) :
    s.stored.on name f =
      (answer, ({ s with entries := s.entries.insert name later } : Settings).stored) := by
  have hget : s.stored.entries.get? name = some setting.stored := by
    rw [stored, Table.get?_map, h]
    rfl
  rw [Store.on, hget]
  dsimp only
  rw [hf, stored, Table.insert_map]
  rfl

/-- What is refused in place leaves the stored settings as they are. -/
theorem on_stored_of_refused {setting : Setting} {error : DocumentError}
    (h : s.entries.get? name = some setting)
    (hf : f setting.stored = (.error error, setting.stored)) :
    s.stored.on name f = (.error error, s.stored) := by
  rw [on_stored h hf, Table.insert_of_get? h]

end On

variable (s : Settings)

/-- A checked value is pushed in place, unless it makes the page too wide. -/
theorem on_push_stored {setting : Setting} {name : Text} {value : Value}
    {f : Entry → Except DocumentError Unit × Entry} (h : s.entries.get? name = some setting)
    (hf : f setting.stored = setting.stored.push name value) :
    s.stored.on name f =
      match limitWidth name value with
      | .ok _ => (.ok (), (s.push name value).stored)
      | .error error => (.error error, s.stored) := by
  rw [Setting.push_stored] at hf
  cases hlimit : limitWidth name value with
  | error error =>
    rw [hlimit] at hf
    exact on_stored_of_refused h hf
  | ok _ =>
    rw [hlimit] at hf
    rw [on_stored h hf, push, Table.modify_of_get? h]

/-- Setting a text in the stored form is setting it. -/
theorem set_stored (name raw : Text) :
    s.stored.on name (·.set name raw) = s.answerStored (s.set name raw) := by
  unfold set lookup
  cases hget : s.entries.get? name with
  | none => exact on_stored_of_none hget
  | some setting =>
    have hkind : setting.stored.kind.parse? raw = setting.kind.parse? raw := rfl
    cases hparse : setting.kind.parse? raw with
    | none =>
      have hset : setting.stored.set name raw =
          (.error (.unsuitableValue name raw setting.kind.expected), setting.stored) := by
        rw [Entry.set, hkind, hparse]
        rfl
      simp only [bind, Except.bind, hparse]
      exact on_stored_of_refused hget hset
    | some value =>
      have hset : setting.stored.set name raw = setting.stored.push name value := by
        rw [Entry.set, hkind, hparse]
      rw [on_push_stored s hget hset]
      simp only [bind, Except.bind, hparse]
      cases limitWidth name value <;> rfl

theorem assign_stored (name : Text) (value : Value) :
    s.stored.on name (·.assign name value) = s.answerStored (s.assign name value) := by
  unfold assign lookup
  cases hget : s.entries.get? name with
  | none => exact on_stored_of_none hget
  | some setting =>
    have hassign : setting.stored.assign name value =
        if setting.kind.accepts value then setting.stored.push name value
        else (.error (.unsuitableValue name value.toText setting.kind.expected),
          setting.stored) := rfl
    cases haccepts : setting.kind.accepts value with
    | false =>
      rw [haccepts] at hassign
      simp only [bind, Except.bind, haccepts]
      exact on_stored_of_refused hget hassign
    | true =>
      rw [haccepts, if_pos rfl] at hassign
      rw [on_push_stored s hget hassign]
      simp only [bind, Except.bind, haccepts]
      cases limitWidth name value <;> rfl

theorem unset_stored (name : Text) :
    s.stored.on name (·.unset name) =
      match s.unset name with
      | .ok (value, t) => (.ok value, t.stored)
      | .error error => (.error error, s.stored) := by
  unfold unset lookup
  cases hget : s.entries.get? name with
  | none => exact on_stored_of_none hget
  | some setting =>
    have hunset := setting.unset_stored name
    cases hpushed : setting.pushed with
    | nil =>
      rw [hpushed] at hunset
      simp only [bind, Except.bind, hpushed]
      exact on_stored_of_refused hget hunset
    | cons value rest =>
      rw [hpushed] at hunset
      simp only [bind, Except.bind, hpushed, pure, Except.pure]
      rw [on_stored hget hunset, Table.modify_of_get? hget]

theorem truncate_stored (name : Text) (depth : Nat) :
    s.stored.on name (fun entry => (.ok (), entry.truncate depth)) =
      s.answerStored (s.truncate name depth) := by
  unfold truncate lookup
  cases hget : s.entries.get? name with
  | none => exact on_stored_of_none hget
  | some setting =>
    have hcut : ((.ok (), setting.stored.truncate depth) : Except DocumentError Unit × Entry) =
        (.ok (), (setting.truncate depth).stored) := by
      rw [setting.truncate_stored]
    simp only [bind, Except.bind, pure, Except.pure]
    rw [on_stored hget hcut, Table.modify_of_get? hget]
    rfl

theorem declare_stored (name : Text) (kind : Kind) (default : Value) :
    s.stored.declare name kind default = s.answerStored (s.declare name kind default) := by
  have hsame : s.stored.entries.contains name = s.isDeclared name := Table.contains_map ..
  have hnew : (⟨kind, [default]⟩ : Entry) = ({ kind, default } : Setting).stored := rfl
  rw [Store.declare, hsame, declare]
  by_cases hdeclared : s.isDeclared name = true
  · rw [if_pos hdeclared, if_pos hdeclared]
    rfl
  · rw [if_neg hdeclared, if_neg hdeclared]
    by_cases haccepts : kind.accepts default = true
    · rw [if_pos haccepts, if_pos haccepts, hnew, stored, Table.insert_map]
      rfl
    · rw [if_neg haccepts, if_neg haccepts]
      rfl

/-- A write on the stored form does what the write does; when it is refused, it leaves the
stored form as it was. -/
theorem apply_stored (change : Change) :
    s.stored.apply change = s.answerStored (s.apply change) := by
  cases change with
  | declare name kind default => exact s.declare_stored name kind default
  | set name raw => exact s.set_stored name raw
  | assign name value => exact s.assign_stored name value
  | truncate name depth => exact s.truncate_stored name depth
  | unset name =>
    have hunset := s.unset_stored name
    have hon : s.stored.apply (.unset name) =
        ((s.stored.on name (·.unset name)).1.map fun _ => (),
          (s.stored.on name (·.unset name)).2) := by
      rw [Store.apply, Store.on, Store.on]
      cases s.stored.entries.get? name <;> rfl
    rw [hon, hunset, apply]
    cases s.unset name <;> rfl

/-- Cutting back in place stops at the same setting, and what has been cut back before it is
the same. -/
theorem cutBack_stored (rows : List (Text × Nat)) :
    Store.cutBack rows s.stored = ((Marks.cutBack rows s).1, (Marks.cutBack rows s).2.stored) := by
  induction rows generalizing s with
  | nil => rfl
  | cons row rest ih =>
    rcases row with ⟨name, depth⟩
    have htruncate := s.apply_stored (.truncate name depth)
    rw [Store.cutBack, Marks.cutBack, htruncate, apply]
    cases s.truncate name depth with
    | error error => rfl
    | ok t => exact ih t

end Settings

/-! ## Operations -/

/-- Stored settings in use: writes may be marked, and the marks kept until they are
restored. -/
structure StoredSession where
  store : Store
  /-- The marks since marks were last kept. -/
  marks : Marks := {}
  /-- The marks that were kept, the last ones first. -/
  kept : List Marks := []

namespace StoredSession

/-- Perform an operation in place. -/
def perform (s : StoredSession) : Session.Operation → Except DocumentError Unit × StoredSession
  | .change change =>
    let (answer, store) := s.store.apply change
    (answer, { s with store })
  | .mark write =>
    match s.store.apply write.change with
    | (.ok _, store) =>
      (.ok (), { s with store, marks := s.marks.note write.name (s.store.depth write.name) })
    | (.error error, store) => (.error error, { s with store })
  | .keep => (.ok (), { s with marks := {}, kept := s.marks :: s.kept })
  | .restore place =>
    match s.kept[place]? with
    | none => (.ok (), s)
    | some marks =>
      let (answer, store) := s.store.restore marks
      (answer, { s with store })

/-- Perform operations one after the other; one that is refused ends nothing. -/
def run (s : StoredSession) : List Session.Operation → StoredSession
  | [] => s
  | operation :: rest => (s.perform operation).2.run rest

end StoredSession

namespace Session

/-- Settings in use as they are stored. -/
def stored (s : Session) : StoredSession :=
  { store := s.settings.stored, marks := s.marks, kept := s.kept }

/-- An operation on the stored form does what the operation does. -/
theorem Sound.perform_stored {s : Session} (h : s.Sound) (operation : Operation) :
    s.stored.perform operation = ((s.perform operation).1, (s.perform operation).2.stored) := by
  unfold Session.perform
  cases operation with
  | change change =>
    have happly := s.settings.apply_stored change
    rw [StoredSession.perform, stored, happly, Session.attempt]
    cases s.settings.apply change <;> rfl
  | mark write =>
    have happly := s.settings.apply_stored write.change
    have hperform : write.perform s.settings = s.settings.apply write.change := by
      cases write <;> rfl
    rw [StoredSession.perform, stored, happly, Session.attempt, MarkedSettings.write, hperform,
      Settings.depth_stored]
    cases s.settings.apply write.change <;> rfl
  | keep => rfl
  | restore place =>
    -- Only marks that can be restored leave the same in place as they do otherwise.
    cases hplace : s.kept[place]? with
    | none => simp only [StoredSession.perform, stored, Session.attempt, hplace]
    | some marks =>
      have hmem : marks ∈ s.kept := List.mem_of_getElem? hplace
      rcases (h.fit marks (List.mem_cons_of_mem _ hmem)).restore with ⟨settings, hrestore⟩
      have hstored : s.settings.stored.restore marks = (.ok (), settings.stored) := by
        rw [Store.restore, Settings.cutBack_stored, ← Marks.restore, hrestore]
      simp only [StoredSession.perform, stored, Session.attempt, hplace, hrestore, hstored]
      rfl

/-- Any operations on the stored form do what the operations do. -/
theorem Sound.run_stored {s : Session} (h : s.Sound) (operations : List Operation) :
    s.stored.run operations = (s.run operations).stored := by
  induction operations generalizing s with
  | nil => rfl
  | cons operation rest ih =>
    rw [StoredSession.run, h.perform_stored, ih (h.perform operation)]
    rfl

end Session

/-! ## What holds of the lists -/

namespace StoredSession

/-- What holds of stored settings that started as `start`, after operations on them. -/
structure Holds (start : Settings) (operations : List Session.Operation) (s : StoredSession) :
    Prop where
  /-- Every list has an oldest value, which the setting was created or first declared with. -/
  oldest : ∀ name entry, s.store.entries.get? name = some entry → ∃ default,
    entry.values.head? = some default ∧
      Session.origin? start operations name = some (entry.kind, default)
  /-- All values of a setting are of its kind. -/
  accepted : ∀ name entry, s.store.entries.get? name = some entry →
    ∀ value ∈ entry.values, entry.kind.accepts value = true
  /-- An operation that is refused changes nothing. -/
  unchanged : ∀ operation error, (s.perform operation).1 = .error error →
    (s.perform operation).2 = s
  /-- Marks that were kept are never refused. -/
  restores : ∀ place, (s.perform (.restore place)).1 = .ok ()

/-- What holds of the stored form of well formed settings, after any operations on it. -/
theorem run_holds {start : Settings} (hstart : start.WellFormed)
    (operations : List Session.Operation) :
    Holds start operations (run { store := start.stored } operations) := by
  have hsound : Session.Sound { settings := start } := by
    refine ⟨hstart, fun marks hmarks => ?_⟩
    rw [List.mem_singleton.1 hmarks]
    exact Marks.fit_empty start
  have horigin := Session.origin?_run { settings := start } operations
  have hlast := hsound.run operations
  have hstored : run { store := start.stored } operations = _ := hsound.run_stored operations
  rw [hstored]
  generalize Session.run { settings := start } operations = s at horigin hlast
  have hentry : ∀ name entry, s.stored.store.entries.get? name = some entry →
      ∃ setting, s.settings.entries.get? name = some setting ∧ setting.stored = entry := by
    intro name entry hget
    exact Option.map_eq_some_iff.1 ((Table.get?_map ..).symm.trans hget)
  refine ⟨?_, ?_, ?_, ?_⟩
  · intro name entry hget
    rcases hentry name entry hget with ⟨setting, hsetting, rfl⟩
    refine ⟨setting.default, setting.head?_stored, ?_⟩
    rw [← horigin name, Settings.origin?, hsetting]
    rfl
  · intro name entry hget value hvalue
    rcases hentry name entry hget with ⟨setting, hsetting, rfl⟩
    exact hlast.wellFormed.accepted name setting hsetting value (List.mem_reverse.1 hvalue)
  · intro operation error herror
    rw [hlast.perform_stored] at herror ⊢
    exact congrArg Session.stored (Session.perform_of_error herror)
  · intro place
    rw [hlast.perform_stored]
    exact hlast.perform_restore place

end StoredSession

end PlainPage
