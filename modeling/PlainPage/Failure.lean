import PlainPage.Config.Basic
import PlainPage.DocumentError
import PlainPage.File.Tree

/-!
# Failures and their reports

A failure is a cause together with what was being done when it arose.  A report shows
the outermost of these and lists the rest beneath it.

Main results:

- Definition `Failure.report` words a failure.
- Theorem `Failure.messages_within` says that more context goes in front.
-/

namespace PlainPage

/-- Why something failed. -/
inductive Cause where
  /-- A line of a document was refused, or the document ended too early. -/
  | document (error : DocumentError)
  /-- A file could not be used. -/
  | file (error : FileError)
  /-- Bytes stand for no text. -/
  | notText
  /-- A configuration file makes no sense. -/
  | badToml
  /-- The configuration as a whole makes no sense. -/
  | badConfig (problem : ConfigProblem)
  deriving DecidableEq, Repr

/-- The wordings of a cause and of those beneath it, outermost first. -/
def Cause.messages : Cause → List Text
  | document error => error.messages
  | file error => [error.message]
  | notText => ["stream did not contain valid UTF-8".toList]
  | badToml => ["TOML parse error".toList]
  | badConfig problem => ["Invalid configuration: ".toList ++ problem.message]

/-- A cause and what was being done, outermost first. -/
structure Failure where
  contexts : List Text := []
  cause : Cause
  deriving DecidableEq, Repr

namespace Failure

/-- A failure within something larger that was being done. -/
def within (context : Text) (f : Failure) : Failure :=
  { f with contexts := context :: f.contexts }

/-- All wordings of a failure, outermost first. -/
def messages (f : Failure) : List Text :=
  f.contexts ++ f.cause.messages

/-- A text with `margin` after each of its line breaks. -/
def hanging (margin : Text) (t : Text) : Text :=
  t.flatMap fun c => if c = '\n' then '\n' :: margin else [c]

/-- The lines of a report for the causes beneath its first line, counted from `n`. -/
def numbered (n : Nat) : List Text → List Text
  | [] => []
  | message :: rest =>
    let number := decimal n
    (Text.spaces (5 - number.length) ++ number ++ ": ".toList
      ++ hanging (Text.spaces 7) message) :: numbered (n + 1) rest

/-- The lines of a report beneath its first one.  A single cause has no number. -/
def causeLines : List Text → List Text
  | [] => []
  | [message] => [[], "Caused by:".toList, Text.spaces 4 ++ hanging (Text.spaces 4) message]
  | causes => [[], "Caused by:".toList] ++ numbered 0 causes

/-- The report of a failure. -/
def report (f : Failure) : Text :=
  match f.messages with
  | [] => []
  | first :: causes =>
    List.intercalate ['\n'] (("Error: ".toList ++ first) :: causeLines causes) ++ ['\n']

/-- More context goes in front. -/
@[simp] theorem messages_within (context : Text) (f : Failure) :
    (f.within context).messages = context :: f.messages := rfl

end Failure

/-- Do something within something larger. -/
def within (context : Text) {α : Type} (result : Except Failure α) : Except Failure α :=
  result.mapError (·.within context)

end PlainPage
