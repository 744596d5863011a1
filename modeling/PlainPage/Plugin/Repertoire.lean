import PlainPage.Directive
import PlainPage.Filter.Standard
import PlainPage.Plugin.Basic

/-!
# Loading plugins

A repertoire holds the filters and commands that a document can name and the plugins it
has loaded.  A plugin is checked as a whole before anything of it is entered.

Main results:

- Theorem `Repertoire.checkNames_eq_ok_iff` says which lists of names may be entered.
- Theorem `Repertoire.load_of_check_error` says that what the check refuses is refused
  for the same reason.
- Theorem `Repertoire.loaded_enter` says that an entered plugin is loaded.
-/

namespace PlainPage

/-- What a document can name, and the plugins behind it. -/
structure Repertoire where
  filters : Table Filter := Filter.standard
  commands : Table Command := Command.standard
  /-- The loaded plugins and their versions. -/
  loaded : Table Version := {}
  /-- The plugins that may be neither loaded nor needed. -/
  disabled : List Text := []

namespace Repertoire

/-! ## Checking -/

/-- What is wrong with the name of a command or a filter, if anything is. -/
def nameFault? (name : Text) : Option NameFault :=
  if name = [] then some .empty
  else if name.any isWhite then some .whiteSpace
  else if name.any isUppercase then some .uppercase
  else if Directive.reservedWords.contains name then some .reserved
  else none

/-- Check names one after the other; each may be entered if it can be written and is
neither taken nor repeated. -/
def checkNames (kind : EntryKind) (taken : Text → Bool) : List Text → Except Rejection Unit
  | [] => .ok ()
  | name :: rest =>
    match nameFault? name with
    | some problem => .error (.badName kind name problem)
    | none =>
      if taken name then .error (.nameTaken kind name)
      else checkNames kind (fun other => other == name || taken other) rest

/-- Check declarations one after the other; each may be made if its name is neither
taken nor repeated and its default is of its kind. -/
def checkSettings (taken : Text → Bool) : List SettingDeclaration → Except Rejection Unit
  | [] => .ok ()
  | d :: rest =>
    if taken d.name then .error (.settingTaken d.name)
    else if d.kind.accepts d.default then
      checkSettings (fun other => other == d.name || taken other) rest
    else .error (.badDefault d.name d.kind)

/-- Whether a plugin may be neither loaded nor needed. -/
def isDisabled (r : Repertoire) (id : Text) : Bool :=
  r.disabled.contains id

/-- Check one plugin that is needed. -/
def checkDependency (r : Repertoire) (d : Dependency) : Except Rejection Unit :=
  if r.isDisabled d.id then .error (.dependencyDisabled d.id)
  else
    match r.loaded.get? d.id with
    | none => .error (.dependencyMissing d.id)
    | some found =>
      match d.minimum with
      | none => .ok ()
      | some needed =>
        if found.isBefore needed then .error (.dependencyTooOld d.id found needed) else .ok ()

/-- Check the plugins that are needed, one after the other. -/
def checkDependencies (r : Repertoire) : List Dependency → Except Rejection Unit
  | [] => .ok ()
  | d :: rest => do
    r.checkDependency d
    r.checkDependencies rest

/-- Check a plugin as a whole. -/
def check (r : Repertoire) (settings : Settings) (p : Plugin) : Except Rejection Unit := do
  if Text.isBlank p.id then throw .blankId
  if r.loaded.contains p.id then throw .alreadyLoaded
  if r.isDisabled p.id then throw .disabled
  r.checkDependencies p.depends
  checkNames .command r.commands.contains (p.commands.map (·.1))
  checkNames .filter r.filters.contains (p.filters.map (·.1))
  checkSettings settings.isDeclared p.settings

/-! ## Entering -/

/-- Declare settings one after the other. -/
def declareAll : List SettingDeclaration → Settings → Except DocumentError Settings
  | [], s => .ok s
  | d :: rest, s => do declareAll rest (← s.declare d.name d.kind d.default)

/-- Enter the commands and filters of a plugin, and the plugin itself. -/
def enter (r : Repertoire) (p : Plugin) : Repertoire :=
  { r with
    commands := r.commands.insertAll p.commands
    filters := r.filters.insertAll p.filters
    loaded := r.loaded.insert p.id p.version }

/-- Load a plugin, or refuse it as a whole. -/
def load (r : Repertoire) (settings : Settings) (p : Plugin) :
    Except DocumentError (Repertoire × Settings) :=
  match r.check settings p with
  | .error rejection => .error (.pluginRefused p.id rejection)
  | .ok () => do
    let settings ← declareAll p.settings settings
    return (r.enter p, settings)

/-! ## What loading does -/

/-- The lists of names that may be entered. -/
theorem checkNames_eq_ok_iff {kind : EntryKind} {taken : Text → Bool} {names : List Text} :
    checkNames kind taken names = .ok () ↔
      names.Nodup ∧ ∀ name ∈ names, nameFault? name = none ∧ taken name = false := by
  induction names generalizing taken with
  | nil => simp [checkNames]
  | cons name rest ih =>
    unfold checkNames
    cases hproblem : nameFault? name with
    | some problem => simp [hproblem]
    | none =>
      cases htaken : taken name with
      | true => simp [htaken]
      | false =>
        simp only [Bool.false_eq_true, if_false, ih, List.nodup_cons, List.mem_cons,
          forall_eq_or_imp, hproblem, htaken, Bool.or_eq_false_iff, beq_eq_false_iff_ne, ne_eq,
          true_and]
        constructor
        · rintro ⟨hnodup, hall⟩
          exact ⟨⟨fun hmem => (hall name hmem).2.1 rfl, hnodup⟩,
            fun other hother => ⟨(hall other hother).1, (hall other hother).2.2⟩⟩
        · rintro ⟨⟨hfresh, hnodup⟩, hall⟩
          refine ⟨hnodup, fun other hother => ⟨(hall other hother).1, ?_, (hall other hother).2⟩⟩
          rintro rfl
          exact hfresh hother

/-- An entered plugin is loaded, in its version. -/
@[simp] theorem loaded_enter (r : Repertoire) (p : Plugin) :
    (r.enter p).loaded.get? p.id = some p.version := by
  simp [enter]

/-- A plugin that the check refuses is refused for the same reason. -/
theorem load_of_check_error {r : Repertoire} {settings : Settings} {p : Plugin}
    {rejection : Rejection} (h : r.check settings p = .error rejection) :
    r.load settings p = .error (.pluginRefused p.id rejection) := by
  simp [load, h]

end Repertoire

end PlainPage
