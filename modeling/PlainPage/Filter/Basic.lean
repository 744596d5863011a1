import PlainPage.Settings.Marked

/-!
# Filters

A filter transforms the lines of a block when the block closes.  When the block
opens, it may write to the settings; what it writes is noted, so that closing can
take it back before the lines are transformed.

The opening is a script of writes rather than a function on the settings.  So it can
read the width and the alignment and make marked writes, and do nothing else.

Main results:

- Definition `Opening.run` performs a script.
- Theorem `Opening.run_write` says that a write that fails ends a script of plain
  writes.
-/

namespace PlainPage

/-- What a filter does to the settings when its block opens. -/
inductive Opening where
  /-- Nothing more. -/
  | done
  /-- Refuse to open. -/
  | fail (error : DocumentError)
  /-- Look at the page width and the alignment in force. -/
  | inspect (next : Nat → Alignment → Opening)
  /-- Write to the settings, and go on according to whether that succeeded. -/
  | attempt (write : SettingWrite) (next : Except DocumentError Unit → Opening)

namespace Opening

/-- Write to the settings, refuse to open if that fails, and go on otherwise. -/
def write (w : SettingWrite) (next : Opening) : Opening :=
  attempt w fun
    | .ok _ => next
    | .error error => fail error

/-- Perform a script on noted settings.  The settings come back also when the script
refuses to open. -/
def run : Opening → MarkedSettings → Except DocumentError Unit × MarkedSettings
  | done, s => (.ok (), s)
  | fail error, s => (.error error, s)
  | inspect next, s => (next s.settings.width s.settings.alignment).run s
  | attempt w next, s =>
    match s.write w with
    | .ok after => (next (.ok ())).run after
    | .error error => (next (.error error)).run s

@[simp] theorem run_done (s : MarkedSettings) : done.run s = (.ok (), s) := rfl

@[simp] theorem run_fail (error : DocumentError) (s : MarkedSettings) :
    (fail error).run s = (.error error, s) := rfl

@[simp] theorem run_inspect (next : Nat → Alignment → Opening) (s : MarkedSettings) :
    (inspect next).run s = (next s.settings.width s.settings.alignment).run s := rfl

/-- A plain write that fails ends the script; one that succeeds goes on after it. -/
theorem run_write (w : SettingWrite) (next : Opening) (s : MarkedSettings) :
    (write w next).run s =
      match s.write w with
      | .ok after => next.run after
      | .error error => (.error error, s) := by
  unfold write
  rw [run]
  cases s.write w <;> rfl

end Opening

/-- A named transformation of the lines of a block. -/
structure Filter where
  /-- What opening a block with the given words does to the settings. -/
  opening : List Text → Opening := fun _ => .done
  /-- The lines that a block with the given lines and words leaves behind, under the
  settings around it. -/
  close : (lines args : List Text) → Settings → Except DocumentError (List Text)

end PlainPage
