import PlainPage.CommandLine.Options

/-!
# Reading the command line

Arguments are read one after the other.  A value is stored only when the next argument
settles it, so that of two faults the earlier one is reported, save that an unknown
argument is reported before a fault of the value in front of it.

Main results:

- Definition `Options.ofArguments` reads a command line.
- Theorem `CommandLineDraft.readArgument_of_trailing` says that after two dashes every
  argument is the document.
-/

namespace PlainPage

/-- A way to read a command line, without the name of the program. -/
abbrev Options.Reader := List Text → Except Refusal Options

/-- What a name on the command line stands for. -/
inductive Named where
  | parameter (p : Parameter)
  | flag (f : Flag)
  deriving DecidableEq, Repr

/-- The names behind two dashes. -/
def longNames : List (Text × Named) :=
  [("output".toList, .parameter .output), ("config".toList, .parameter .config),
   ("width".toList, .parameter .width), ("align".toList, .parameter .align),
   ("indent".toList, .flag .indent), ("no-indent".toList, .flag .noIndent),
   ("plugin".toList, .parameter .plugin), ("debug".toList, .flag .debug),
   ("version".toList, .flag .version), ("help".toList, .flag .help)]

/-- The letters behind one dash. -/
def shortNames : List (Char × Named) :=
  [('o', .parameter .output), ('c', .parameter .config), ('w', .parameter .width),
   ('p', .parameter .plugin), ('D', .flag .debug), ('v', .flag .version), ('h', .flag .help)]

/-- A command line as far as it is read. -/
structure CommandLineDraft where
  options : Options := {}
  /-- The parameter that was named last and its value, if it has one yet. -/
  pending : Option (Parameter × Option Text) := none
  /-- Whether the next argument can be the value of the pending parameter. -/
  awaiting : Bool := false
  /-- Whether two dashes were read, after which nothing is a name. -/
  trailing : Bool := false
  /-- Whether the document was named. -/
  hasInput : Bool := false
  deriving DecidableEq, Repr

namespace CommandLineDraft

/-- Store the pending value. -/
def settle (d : CommandLineDraft) : Except Refusal CommandLineDraft :=
  match d.pending with
  | none => .ok { d with awaiting := false }
  | some (p, value) => do
    return { d with options := ← d.options.give p value, pending := none, awaiting := false }

/-- Read a flag. -/
def readFlag (d : CommandLineDraft) (f : Flag) : Except Refusal CommandLineDraft := do
  let d ← d.settle
  return { d with options := ← d.options.raise f }

/-- Read a parameter together with its value, or alone. -/
def readParameter (d : CommandLineDraft) (p : Parameter) (value : Option Text) :
    Except Refusal CommandLineDraft := do
  let d ← d.settle
  match value with
  | some value => return { d with options := ← d.options.give p (some value) }
  | none => return { d with pending := some (p, none), awaiting := true }

/-- Read a name behind two dashes, with the text after its equals sign if there is one. -/
def readLong (d : CommandLineDraft) (name : Text) (value : Option Text) :
    Except Refusal CommandLineDraft :=
  match longNames.lookup name with
  | none => .error .unknownArgument
  | some (.parameter p) => d.readParameter p value
  | some (.flag f) => if value.isSome then .error .tooManyValues else d.readFlag f

/-- Read letters behind one dash.  A letter that takes a value takes the rest, less an
equals sign in front of it. -/
def readShort (d : CommandLineDraft) : Text → Except Refusal CommandLineDraft
  | [] => .ok d
  | letter :: rest =>
    match shortNames.lookup letter with
    | none => .error .unknownArgument
    | some (.flag f) => do readShort (← d.readFlag f) rest
    | some (.parameter p) =>
      match rest with
      | [] => d.readParameter p none
      | '=' :: value => d.readParameter p (some value)
      | value => d.readParameter p (some value)

/-- Read an argument that is no name. -/
def readPlain (d : CommandLineDraft) (argument : Text) : Except Refusal CommandLineDraft :=
  if d.hasInput then .error .unknownArgument
  else do
    let d ← d.settle
    return { d with pending := some (.input, some argument), hasInput := true }

/-- A name behind two dashes: the text before the first equals sign, and the text after
it. -/
def splitLong (name : Text) : Text × Option Text :=
  match name.dropWhile (· != '=') with
  | [] => (name, none)
  | _ :: value => (name.takeWhile (· != '='), some value)

/-- Read an argument that is no name as the awaited value, or else as the document. -/
def readValue (d : CommandLineDraft) (argument : Text) : Except Refusal CommandLineDraft :=
  match d.awaiting, d.pending with
  | true, some (p, _) => .ok { d with pending := some (p, some argument), awaiting := false }
  | _, _ => d.readPlain argument

/-- Read one argument. -/
def readArgument (d : CommandLineDraft) (argument : Text) : Except Refusal CommandLineDraft :=
  if d.trailing then d.readPlain argument
  else
    match argument with
    | ['-', '-'] => .ok { d with trailing := true }
    | '-' :: '-' :: name => d.readLong (splitLong name).1 (splitLong name).2
    | '-' :: letter :: rest => d.readShort (letter :: rest)
    | argument => d.readValue argument

/-- After two dashes every argument is the document. -/
theorem readArgument_of_trailing {d : CommandLineDraft} (h : d.trailing = true)
    (argument : Text) : d.readArgument argument = d.readPlain argument := by
  simp [readArgument, h]

end CommandLineDraft

/-- Read a command line, without the name of the program. -/
def Options.ofArguments (arguments : List Text) : Except Refusal Options := do
  let d ← arguments.foldlM CommandLineDraft.readArgument {}
  let d ← d.settle
  if d.options.indent && d.options.noIndent then throw .argumentConflict
  return d.options

end PlainPage
