import PlainPage.DocumentError
import PlainPage.Settings.Kind
import PlainPage.Table

/-!
# Stacked settings

Every declared setting holds a default and the values pushed above it.  The
newest value is the one in force; the default stays for good.

Main results:

- Theorem `Setting.values_ne_nil` says that a setting always has a value.
- Theorems `Settings.depth_of_push` and `Settings.depth_of_unset` say by how much the
  writers change the number of values.
- Theorem `Settings.get?_of_truncate` says that cutting back one setting leaves the
  others alone.
-/

namespace PlainPage

/-- The widest page, and the largest count or padding, a document can ask for. -/
def maxWidth : Nat := 1000

/-- The page width when nothing asks for another. -/
def defaultWidth : Nat := 80

/-- A declared setting. -/
structure Setting where
  kind : Kind
  /-- The value beneath all others. -/
  default : Value
  /-- The values above the default, newest first. -/
  pushed : List Value := []
  deriving DecidableEq, Repr

namespace Setting

/-- All values of a setting, newest first. -/
def values (s : Setting) : List Value :=
  s.pushed ++ [s.default]

/-- The value in force. -/
def current (s : Setting) : Value :=
  s.pushed.head?.getD s.default

/-- The number of values. -/
def depth (s : Setting) : Nat :=
  s.pushed.length + 1

/-- Put a value on top. -/
def push (s : Setting) (value : Value) : Setting :=
  { s with pushed := value :: s.pushed }

/-- Drop the values above `depth`; the default stays. -/
def truncate (s : Setting) (depth : Nat) : Setting :=
  { s with pushed := s.pushed.drop (s.depth - max depth 1) }

/-- A setting always has a value. -/
theorem values_ne_nil (s : Setting) : s.values ≠ [] := by
  simp [values]

@[simp] theorem length_values (s : Setting) : s.values.length = s.depth := by
  simp [values, depth]

theorem head?_values (s : Setting) : s.values.head? = some s.current := by
  cases h : s.pushed <;> simp [values, current, h]

@[simp] theorem current_push (s : Setting) (value : Value) : (s.push value).current = value := rfl

@[simp] theorem depth_push (s : Setting) (value : Value) : (s.push value).depth = s.depth + 1 := rfl

theorem one_le_depth (s : Setting) : 1 ≤ s.depth := by
  simp [depth]

/-- Cutting back leaves no more values than asked for, and at least the default. -/
theorem depth_truncate (s : Setting) (depth : Nat) :
    (s.truncate depth).depth = min s.depth (max depth 1) := by
  have h := s.one_le_depth
  simp only [truncate, Setting.depth, List.length_drop] at *
  omega

/-- Cutting back to the depth before a push undoes the push. -/
@[simp] theorem truncate_push (s : Setting) (value : Value) :
    (s.push value).truncate s.depth = s := by
  cases s
  simp [truncate, push, depth]

end Setting

/-- The declared settings of a document. -/
structure Settings where
  entries : Table Setting := {}

namespace Settings

/-! ## The settings of every document -/

/-- The setting of the page width. -/
def widthName : Text := "width".toList

/-- The setting of the side at which lines stand. -/
def alignName : Text := "align".toList

/-- The setting that opens paragraphs with an indent. -/
def indentName : Text := "indent".toList

/-- The setting that takes lines as they are. -/
def preName : Text := "pre".toList

/-- The settings of every document, with the given defaults. -/
def start (width : Nat) (align : Alignment) (indent : Bool) : Settings :=
  { entries := Table.empty.insertAll
      [(widthName, { kind := .integer, default := .integer width }),
       (alignName, { kind := .alignment, default := .alignment align }),
       (indentName, { kind := .switch, default := .switch indent }),
       (preName, { kind := .switch, default := .switch false })] }

/-- The settings of a document for which nothing is configured. -/
def standard : Settings :=
  start defaultWidth .left false

/-! ## Reading -/

/-- Whether a setting is declared. -/
def isDeclared (s : Settings) (name : Text) : Bool :=
  s.entries.contains name

/-- The value in force. -/
def get (s : Settings) (name : Text) : Except DocumentError Value :=
  match s.entries.get? name with
  | some setting => .ok setting.current
  | none => .error (.unknownSetting name)

/-- The number of values of a setting, zero if it is not declared. -/
def depth (s : Settings) (name : Text) : Nat :=
  ((s.entries.get? name).map Setting.depth).getD 0

/-- The value in force, if the setting is declared. -/
def current? (s : Settings) (name : Text) : Option Value :=
  (s.entries.get? name).map Setting.current

/-- The page width in force; a negative one counts as zero. -/
def width (s : Settings) : Nat :=
  (((s.current? widthName).bind Value.integer?).map Int.toNat).getD 0

/-- The alignment in force. -/
def alignment (s : Settings) : Alignment :=
  ((s.current? alignName).bind Value.alignment?).getD .left

/-- Whether paragraphs open with an indent. -/
def indent (s : Settings) : Bool :=
  ((s.current? indentName).bind Value.switch?).getD false

/-- Whether lines are taken as they are. -/
def pre (s : Settings) : Bool :=
  ((s.current? preName).bind Value.switch?).getD false

/-! ## Writing -/

/-- The declared setting of this name. -/
def lookup (s : Settings) (name : Text) : Except DocumentError Setting :=
  match s.entries.get? name with
  | some setting => .ok setting
  | none => .error (.unknownSetting name)

/-- Refuse a page wider than the widest one. -/
def limitWidth (name : Text) (value : Value) : Except DocumentError Unit :=
  match value with
  | .integer n =>
    if name = widthName ∧ (maxWidth : Int) < n then
      .error (.unsuitableValue name value.toText "a width of at most 1000".toList)
    else .ok ()
  | _ => .ok ()

/-- Put a checked value on top of a setting. -/
def push (s : Settings) (name : Text) (value : Value) : Settings :=
  { s with entries := s.entries.modify name (·.push value) }

/-- Declare a new setting. -/
def declare (s : Settings) (name : Text) (kind : Kind) (default : Value) :
    Except DocumentError Settings :=
  if s.isDeclared name then .error (.redeclaredSetting name)
  else if kind.accepts default then
    .ok { s with entries := s.entries.insert name { kind, default } }
  else .error (.unsuitableValue name default.toText kind.expected)

/-- Read words as a value of the setting and put it on top. -/
def set (s : Settings) (name raw : Text) : Except DocumentError Settings := do
  let setting ← s.lookup name
  match setting.kind.parse? raw with
  | none => .error (.unsuitableValue name raw setting.kind.expected)
  | some value =>
    limitWidth name value
    return s.push name value

/-- Put a value on top of a setting that takes it. -/
def assign (s : Settings) (name : Text) (value : Value) : Except DocumentError Settings := do
  let setting ← s.lookup name
  if setting.kind.accepts value then
    limitWidth name value
    return s.push name value
  else .error (.unsuitableValue name value.toText setting.kind.expected)

/-- Take the newest value off a setting; the default cannot be taken. -/
def unset (s : Settings) (name : Text) : Except DocumentError (Value × Settings) := do
  let setting ← s.lookup name
  match setting.pushed with
  | [] => .error (.nothingToUnset name)
  | value :: rest =>
    return (value, { s with entries := s.entries.modify name ({ · with pushed := rest }) })

/-- Drop the values of a setting above `depth`; the default stays. -/
def truncate (s : Settings) (name : Text) (depth : Nat) : Except DocumentError Settings := do
  let _ ← s.lookup name
  return { s with entries := s.entries.modify name (·.truncate depth) }

/-! ## Any write as a value

These are the writes that check what they are given.  Whoever holds the settings may also put
other ones in their place, which a command can do (`Action.replace`) and an opening cannot. -/

/-- One write to the settings. -/
inductive Change where
  | declare (name : Text) (kind : Kind) (default : Value)
  | set (name raw : Text)
  | assign (name : Text) (value : Value)
  | unset (name : Text)
  | truncate (name : Text) (depth : Nat)
  deriving DecidableEq, Repr

/-- Perform a write. -/
def apply (s : Settings) : Change → Except DocumentError Settings
  | .declare name kind default => s.declare name kind default
  | .set name raw => s.set name raw
  | .assign name value => s.assign name value
  | .unset name => (s.unset name).map (·.2)
  | .truncate name depth => s.truncate name depth

/-! ## What the writers do -/

@[simp] theorem get?_push_self (s : Settings) (name : Text) (value : Value) :
    (s.push name value).entries.get? name = (s.entries.get? name).map (·.push value) :=
  Table.get?_modify_self ..

theorem get?_push_of_ne {name other : Text} (s : Settings) (value : Value) (h : other ≠ name) :
    (s.push name value).entries.get? other = s.entries.get? other :=
  Table.get?_modify_of_ne _ _ h

/-- A push adds one value to its setting. -/
theorem depth_of_push {s : Settings} {name : Text} (value : Value)
    (h : s.isDeclared name = true) : (s.push name value).depth name = s.depth name + 1 := by
  obtain ⟨setting, h⟩ := Table.contains_iff.1 h
  simp [depth, h]

/-- Taking the newest value removes one value from its setting. -/
theorem depth_of_unset {s t : Settings} {name : Text} {value : Value}
    (h : s.unset name = .ok (value, t)) : t.depth name + 1 = s.depth name := by
  unfold unset lookup at h
  cases hget : s.entries.get? name with
  | none => simp [hget, bind, Except.bind] at h
  | some setting =>
    cases hpushed : setting.pushed with
    | nil => simp [hget, hpushed, bind, Except.bind] at h
    | cons top rest =>
      simp only [hget, hpushed, bind, Except.bind, pure, Except.pure] at h
      cases h
      simp [depth, Table.get?_modify_self, hget, Setting.depth, hpushed]

/-- Cutting back one setting leaves the others alone. -/
theorem get?_of_truncate {s t : Settings} {name other : Text} {depth : Nat}
    (h : s.truncate name depth = .ok t) (hne : other ≠ name) :
    t.entries.get? other = s.entries.get? other := by
  unfold truncate lookup at h
  cases hget : s.entries.get? name with
  | none => simp [hget, bind, Except.bind] at h
  | some setting =>
    simp only [hget, bind, Except.bind, pure, Except.pure] at h
    cases h
    exact Table.get?_modify_of_ne _ _ hne

end Settings

end PlainPage
