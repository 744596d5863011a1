import PlainPage.Config.Basic
import PlainPage.File.Path

/-!
# What the command line can say

The options of the program, what they take, and what they make of a configuration.

Main results:

- Definition `Options.layer` lays the command line over the configuration files.
- Theorem `Options.takesStdin_iff` says when the document comes from standard input.
-/

namespace PlainPage

/-- What a command line asks for. -/
structure Options where
  /-- The document; a dash, or nothing, stands for standard input. -/
  input : Option Path := none
  /-- The file for the page; nothing stands for standard output. -/
  output : Option Path := none
  /-- The one configuration file to use. -/
  config : Option Path := none
  width : Option Nat := none
  align : Option Alignment := none
  indent : Bool := false
  noIndent : Bool := false
  plugins : List Text := []
  debug : Bool := false
  deriving DecidableEq, Repr

namespace Options

/-- Whether paragraphs open with an indent, if the command line says so. -/
def indentation (o : Options) : Option Bool :=
  if o.indent then some true else if o.noIndent then some false else none

/-- What the command line says about the configuration. -/
def layer (o : Options) : Layer where
  width := o.width
  align := o.align
  indent := o.indentation
  plugins := o.plugins

/-- The configuration with the command line over it. -/
def overlay (o : Options) (c : Config) : Config :=
  c.overlay o.layer

/-- The path of the document, if it comes from a file. -/
def inputFile? (o : Options) : Option Path :=
  o.input.filter (· != ['-'])

/-- Whether the document comes from standard input. -/
def takesStdin (o : Options) : Bool :=
  o.inputFile?.isNone

/-- The document comes from standard input when no file, or a dash, is named. -/
theorem takesStdin_iff {o : Options} :
    o.takesStdin = true ↔ o.input = none ∨ o.input = some ['-'] := by
  unfold takesStdin inputFile?
  cases o.input with
  | none => simp
  | some path => by_cases h : path = ['-'] <;> simp [Option.filter, h]

end Options

/-- What a value on the command line is for. -/
inductive Parameter where
  | input
  | output
  | config
  | width
  | align
  | plugin
  deriving DecidableEq, Repr

/-- What stands on the command line without a value. -/
inductive Flag where
  | indent
  | noIndent
  | debug
  | version
  | help
  deriving DecidableEq, Repr

/-- Why a command line is not carried out. -/
inductive Refusal where
  | unknownArgument
  | invalidValue
  | valueValidation
  | argumentConflict
  | tooManyValues
  /-- The command line asks for the help page. -/
  | showHelp
  /-- The command line asks for the version. -/
  | showVersion
  deriving DecidableEq, Repr

/-- The wording of a refusal. -/
def Refusal.message : Refusal → Text
  | unknownArgument => "unexpected argument".toList
  | invalidValue => "a value is missing or not among the possible ones".toList
  | valueValidation => "a value is not a number".toList
  | argumentConflict => "arguments exclude each other".toList
  | tooManyValues => "an argument takes no value".toList
  | showHelp => []
  | showVersion => []

namespace Options

/-- Whether a parameter that takes one value has one. -/
def has (o : Options) : Parameter → Bool
  | .input => o.input.isSome
  | .output => o.output.isSome
  | .config => o.config.isSome
  | .width => o.width.isSome
  | .align => o.align.isSome
  | .plugin => false

/-- Read a path. -/
def path? (value : Text) : Except Refusal (Option Path) :=
  if value = [] then .error .invalidValue else .ok (some value)

/-- Give a parameter its value.  Only plugins can be given more than once. -/
def give (o : Options) (p : Parameter) (value : Option Text) : Except Refusal Options :=
  match value with
  | none => .error .invalidValue
  | some value =>
    if o.has p then .error .argumentConflict
    else
      match p with
      | .input => do return { o with input := ← path? value }
      | .output => do return { o with output := ← path? value }
      | .config => do return { o with config := ← path? value }
      | .width =>
        match count? value with
        | some width => .ok { o with width := some width }
        | none => .error .valueValidation
      | .align =>
        match Alignment.ofText? value with
        | some align => .ok { o with align := some align }
        | none => .error .invalidValue
      | .plugin => .ok { o with plugins := o.plugins ++ [value] }

/-- Raise a flag.  No flag can be raised twice. -/
def raise (o : Options) : Flag → Except Refusal Options
  | .indent => if o.indent then .error .argumentConflict else .ok { o with indent := true }
  | .noIndent => if o.noIndent then .error .argumentConflict else .ok { o with noIndent := true }
  | .debug => if o.debug then .error .argumentConflict else .ok { o with debug := true }
  | .version => .error .showVersion
  | .help => .error .showHelp

end Options

end PlainPage
