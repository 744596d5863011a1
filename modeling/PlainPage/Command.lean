import PlainPage.Argument
import PlainPage.Layout.Alignment
import PlainPage.Settings.WellFormed

/-!
# Commands

A command writes lines into the innermost block and may change the settings.  Like
the opening of a filter it is a script: it sees the settings and the answers to its
own writes, and never the lines that are already there.

Unlike an opening, which only makes marked writes, a command holds the settings
themselves.  So it may make any write, and it may also put other settings in the place
of all that are there: new ones, or a copy that it has kept.

Main results:

- Definition `Action.run` performs a script; its effect does not depend on any line.
- Definition `Command.standard` is the table of the commands of every document.
-/

namespace PlainPage

/-- What a command does. -/
inductive Action where
  /-- Nothing more. -/
  | done
  /-- Stop with an error. -/
  | fail (error : DocumentError)
  /-- Look at the settings. -/
  | inspect (next : Settings → Action)
  /-- Write lines into the innermost block. -/
  | feed (lines : List Text) (next : Action)
  /-- Change the settings, and go on according to whether that succeeded. -/
  | attempt (change : Settings.Change) (next : Except DocumentError Unit → Action)
  /-- Put other settings in the place of all that are there. -/
  | replace (settings : Settings) (h : settings.WellFormed) (next : Action)

/-- What a command leaves behind. -/
structure Effect where
  /-- The lines it wrote. -/
  lines : List Text
  settings : Settings
  result : Except DocumentError Unit

namespace Action

/-- Change the settings, stop if that fails, and go on otherwise. -/
def change (c : Settings.Change) (next : Action) : Action :=
  attempt c fun
    | .ok _ => next
    | .error error => fail error

/-- Write a line, padded to the page under the alignment in force. -/
def feedAligned (line : Text) (next : Action) : Action :=
  inspect fun settings => feed [settings.alignment.pad settings.width line] next

/-- Perform a script. -/
def run : Action → Settings → Effect
  | done, s => ⟨[], s, .ok ()⟩
  | fail error, s => ⟨[], s, .error error⟩
  | inspect next, s => (next s).run s
  | feed lines next, s =>
    let effect := next.run s
    { effect with lines := lines ++ effect.lines }
  | attempt c next, s =>
    match s.apply c with
    | .ok after => (next (.ok ())).run after
    | .error error => (next (.error error)).run s
  | replace settings _ next, _ => next.run settings

@[simp] theorem run_done (s : Settings) : done.run s = ⟨[], s, .ok ()⟩ := rfl

@[simp] theorem run_fail (error : DocumentError) (s : Settings) :
    (fail error).run s = ⟨[], s, .error error⟩ := rfl

@[simp] theorem run_inspect (next : Settings → Action) (s : Settings) :
    (inspect next).run s = (next s).run s := rfl

@[simp] theorem run_feed (lines : List Text) (next : Action) (s : Settings) :
    (feed lines next).run s =
      ⟨lines ++ (next.run s).lines, (next.run s).settings, (next.run s).result⟩ := rfl

@[simp] theorem run_replace (settings : Settings) (h : settings.WellFormed) (next : Action)
    (s : Settings) : (replace settings h next).run s = next.run settings := rfl

end Action

/-- A named directive; it gets the words after its name. -/
abbrev Command := List Text → Action

/-- The name of the command that writes blank lines. -/
def verticalSpaceName : Text := "vspace".toList

/-- Write blank lines as wide as the page, one unless told otherwise. -/
def Command.verticalSpace : Command := fun args =>
  match args with
  | [] => blank 1
  | raw :: _ =>
    match readCount verticalSpaceName raw "expected a line count" with
    | .error error => .fail error
    | .ok count => blank count
where
  /-- Write `count` blank lines. -/
  blank (count : Nat) : Action :=
    .inspect fun settings => .feed (List.replicate count (Text.spaces settings.width)) .done

/-- The commands of every document. -/
def Command.standard : Table Command :=
  Table.empty.insert verticalSpaceName Command.verticalSpace

end PlainPage
