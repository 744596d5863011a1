import PlainPage.Settings.Marked

/-!
# Settings as they are stored

A stored setting is a kind and a plain list of values, the oldest one first.  Its type allows
a setting without a value; that there is none, and that the oldest value is never taken, is
up to two guards, in `Entry.unset` and in `Entry.truncate`.  All writes are made in place: what
one has done before it fails stays.

The rest of the development keeps a default apart from the values above it, so that neither
can be lost.  `PlainPage.Proofs.Settings.Stored` shows that both forms do the same.

Definitions `Entry.unset` and `Entry.truncate` hold the guards; definition `Store.apply` is any
write, and definition `Store.cutBack` cuts several settings back.
-/

namespace PlainPage

/-! ## One setting -/

/-- A stored setting. -/
structure Entry where
  kind : Kind
  /-- The values, oldest first. -/
  values : List Value
  deriving DecidableEq, Repr

namespace Entry

/-- Put a value on top, unless it makes the page too wide. -/
def push (e : Entry) (name : Text) (value : Value) : Except DocumentError Unit × Entry :=
  match Settings.limitWidth name value with
  | .ok _ => (.ok (), { e with values := e.values ++ [value] })
  | .error error => (.error error, e)

/-- Read words as a value and put it on top. -/
def set (e : Entry) (name raw : Text) : Except DocumentError Unit × Entry :=
  match e.kind.parse? raw with
  | none => (.error (.unsuitableValue name raw e.kind.expected), e)
  | some value => e.push name value

/-- Put a value on top that the kind accepts. -/
def assign (e : Entry) (name : Text) (value : Value) : Except DocumentError Unit × Entry :=
  if e.kind.accepts value then e.push name value
  else (.error (.unsuitableValue name value.toText e.kind.expected), e)

/-- Take the newest value off, unless it is the only one. -/
def unset (e : Entry) (name : Text) : Except DocumentError Value × Entry :=
  if e.values.length ≤ 1 then (.error (.nothingToUnset name), e)
  else
    match e.values.getLast? with
    | none => (.error (.nothingToUnset name), e)
    | some value => (.ok value, { e with values := e.values.dropLast })

/-- Drop the values above `depth`; the oldest one always stays. -/
def truncate (e : Entry) (depth : Nat) : Entry :=
  if depth < e.values.length then { e with values := e.values.take (max depth 1) } else e

end Entry

/-! ## All settings -/

/-- The stored settings of a document. -/
structure Store where
  entries : Table Entry := {}

namespace Store

/-- The stored settings of every document, with the given defaults. -/
def start (width : Nat) (align : Alignment) (indent : Bool) : Store :=
  { entries := Table.empty.insertAll
      [(Settings.widthName, { kind := .integer, values := [.integer width] }),
       (Settings.alignName, { kind := .alignment, values := [.alignment align] }),
       (Settings.indentName, { kind := .switch, values := [.switch indent] }),
       (Settings.preName, { kind := .switch, values := [.switch false] })] }

/-- The number of values of a setting, zero if it is not declared. -/
def depth (s : Store) (name : Text) : Nat :=
  ((s.entries.get? name).map (·.values.length)).getD 0

/-- Declare a new setting. -/
def declare (s : Store) (name : Text) (kind : Kind) (default : Value) :
    Except DocumentError Unit × Store :=
  if s.entries.contains name then (.error (.redeclaredSetting name), s)
  else if kind.accepts default then
    (.ok (), { s with entries := s.entries.insert name { kind, values := [default] } })
  else (.error (.unsuitableValue name default.toText kind.expected), s)

/-- Work on a declared setting in place. -/
def on {α : Type} (s : Store) (name : Text) (f : Entry → Except DocumentError α × Entry) :
    Except DocumentError α × Store :=
  match s.entries.get? name with
  | none => (.error (.unknownSetting name), s)
  | some entry =>
    let (answer, entry) := f entry
    (answer, { s with entries := s.entries.insert name entry })

/-- Perform a write. -/
def apply (s : Store) : Settings.Change → Except DocumentError Unit × Store
  | .declare name kind default => s.declare name kind default
  | .set name raw => s.on name (·.set name raw)
  | .assign name value => s.on name (·.assign name value)
  | .unset name =>
    s.on name fun entry =>
      let (answer, entry) := entry.unset name
      (answer.map fun _ => (), entry)
  | .truncate name depth => s.on name fun entry => (.ok (), entry.truncate depth)

/-- Cut settings back one after the other, as far as they are declared. -/
def cutBack : List (Text × Nat) → Store → Except DocumentError Unit × Store
  | [], s => (.ok (), s)
  | (name, depth) :: rest, s =>
    match s.apply (.truncate name depth) with
    | (.ok _, after) => cutBack rest after
    | (.error error, after) => (.error error, after)

/-- Cut every touched setting back to its mark, the last touched one first. -/
def restore (s : Store) (marks : Marks) : Except DocumentError Unit × Store :=
  cutBack marks.depths.reverse s

end Store

end PlainPage
