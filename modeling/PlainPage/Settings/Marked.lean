import PlainPage.Settings.Basic

/-!
# Writes that a block takes back

What opening a block pushes on the settings is marked: for every setting it touches,
the depth just before the first push is kept.  Closing the block cuts those settings
back to their marks.

Main results:

- Theorem `Marks.depth?_note` says that only the first depth of a setting is kept.
- Theorem `MarkedSettings.marks_of_write` says what a write marks.
-/

namespace PlainPage

/-- The depths to which settings return, in the order in which they were touched. -/
structure Marks where
  depths : List (Text × Nat) := []
  deriving DecidableEq, Repr

namespace Marks

/-- The touched settings, in order. -/
def names (marks : Marks) : List Text :=
  marks.depths.map (·.1)

/-- The depth kept for a setting. -/
def depth? (marks : Marks) (name : Text) : Option Nat :=
  Table.find? name marks.depths

/-- Keep the depth of a setting, unless one is kept already. -/
def note (marks : Marks) (name : Text) (depth : Nat) : Marks :=
  if marks.names.contains name then marks else ⟨marks.depths ++ [(name, depth)]⟩

/-- Cut settings back in place, one after the other.  Those before one that is not declared
are cut back although the answer is an error. -/
def cutBack : List (Text × Nat) → Settings → Except DocumentError Unit × Settings
  | [], s => (.ok (), s)
  | (name, depth) :: rest, s =>
    match s.truncate name depth with
    | .ok after => cutBack rest after
    | .error error => (.error error, s)

/-- Cut every touched setting back to its mark, the last touched one first. -/
def restore (marks : Marks) (s : Settings) : Except DocumentError Unit × Settings :=
  cutBack marks.depths.reverse s

theorem find?_append_of_not_mem {name : Text} {rows : List (Text × Nat)}
    (h : name ∉ rows.map (·.1)) (depth : Nat) :
    Table.find? name (rows ++ [(name, depth)]) = some depth := by
  induction rows with
  | nil => simp [Table.find?]
  | cons row rest ih =>
    obtain ⟨key, old⟩ := row
    simp only [List.map_cons, List.mem_cons, not_or] at h
    have hkey : key ≠ name := fun heq => h.1 heq.symm
    simp [Table.find?, hkey, ih h.2]

/-- Only the first depth of a setting is kept. -/
theorem depth?_note (marks : Marks) (name : Text) (depth : Nat) :
    (marks.note name depth).depth? name =
      if name ∈ marks.names then marks.depth? name else some depth := by
  by_cases h : name ∈ marks.names
  · simp [note, h]
  · have hfind := find?_append_of_not_mem h depth
    simp [note, h, depth?, hfind]

end Marks

/-- Settings together with the marks of what was pushed on them. -/
structure MarkedSettings where
  settings : Settings
  marks : Marks := {}

/-- One write while a block opens. -/
inductive SettingWrite where
  /-- Push a value read from words. -/
  | raw (name words : Text)
  /-- Push a value. -/
  | typed (name : Text) (value : Value)
  deriving DecidableEq, Repr

namespace SettingWrite

/-- The setting that a write touches. -/
def name : SettingWrite → Text
  | raw name _ => name
  | typed name _ => name

/-- The write of a page width, no larger than an integer can be. -/
def width (n : Nat) : SettingWrite :=
  typed Settings.widthName (.integer (min n maxInteger : Nat))

/-- Perform a write without marking it. -/
def perform (s : Settings) : SettingWrite → Except DocumentError Settings
  | raw name words => s.set name words
  | typed name value => s.assign name value

end SettingWrite

namespace MarkedSettings

/-- Perform a write and mark the depth before it. -/
def write (s : MarkedSettings) (w : SettingWrite) : Except DocumentError MarkedSettings := do
  let settings ← w.perform s.settings
  return { settings, marks := s.marks.note w.name (s.settings.depth w.name) }

/-- A write that succeeds marks the depth that its setting had before it. -/
theorem marks_of_write {s after : MarkedSettings} {w : SettingWrite}
    (h : s.write w = .ok after) :
    after.marks = s.marks.note w.name (s.settings.depth w.name) := by
  unfold write at h
  cases hw : w.perform s.settings with
  | error e => simp [hw, bind, Except.bind] at h
  | ok settings =>
    simp only [hw, bind, Except.bind, pure, Except.pure] at h
    cases h
    rfl

end MarkedSettings

end PlainPage
