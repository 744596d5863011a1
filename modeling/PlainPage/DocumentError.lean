import PlainPage.Plugin.Rejection
import PlainPage.Text.Quoted

/-!
# What can go wrong in a document

One constructor per cause, and one function with all the wordings.

Main results:

- Definition `DocumentError.message` words an error.
- Definition `DocumentError.innermostCause` is the error beneath failed filters and commands.
-/

namespace PlainPage

/-- The side of a block on which a filter failed. -/
inductive BlockEdge where
  | opening
  | closing
  deriving DecidableEq, Repr

/-- The directive that stands on that side of a block. -/
def BlockEdge.directive : BlockEdge → Text
  | .opening => "begin".toList
  | .closing => "end".toList

/-- Why a line of a document was refused. -/
inductive DocumentError where
  /-- No filter has this name. -/
  | unknownFilter (name : Text)
  /-- No command has this name. -/
  | unknownCommand (name : Text)
  /-- No setting has this name. -/
  | unknownSetting (name : Text)
  /-- A block was closed while none was open. -/
  | nothingToClose
  /-- A block was closed under another name than that of the innermost open one. -/
  | mismatchedClose (expected found : Text)
  /-- The document ended inside a block. -/
  | unclosedBlock (name : Text)
  /-- The default value of a setting cannot be taken away. -/
  | nothingToUnset (name : Text)
  /-- A value does not suit the setting it was meant for. -/
  | unsuitableValue (name value expected : Text)
  /-- A setting was declared twice. -/
  | redeclaredSetting (name : Text)
  /-- A directive lacks a word. -/
  | missingWord (directive expected : Text)
  /-- A filter, a command or a reader cannot use a word. -/
  | unusableWord (name value reason : Text)
  /-- A filter failed on one side of its block. -/
  | filterFailed (filter : Text) (edge : BlockEdge) (cause : DocumentError)
  /-- A command failed. -/
  | commandFailed (command : Text) (cause : DocumentError)
  /-- A plugin was refused as a whole. -/
  | pluginRefused (id : Text) (rejection : Rejection)
  /-- A plugin failed in words of its own. -/
  | custom (reason : Text)
  deriving DecidableEq, Repr

namespace DocumentError

/-- The wording of an error. -/
def message : DocumentError → Text
  | unknownFilter name => "unknown filter: ".toList ++ name
  | unknownCommand name => "unknown command: ".toList ++ name
  | unknownSetting name => "unknown setting: ".toList ++ name
  | nothingToClose => "@end without a matching @begin".toList
  | mismatchedClose expected found =>
    "@end ".toList ++ found ++ " does not close the innermost scope (".toList ++ expected ++ [')']
  | unclosedBlock name =>
    "scope ".toList ++ accented name ++ " is still open at end of input".toList
  | nothingToUnset name =>
    "cannot unset ".toList ++ accented name ++ ": no value left to restore".toList
  | unsuitableValue name value expected =>
    "invalid value ".toList ++ value.quoted ++ " for setting ".toList ++ accented name
      ++ ": expected ".toList ++ expected
  | redeclaredSetting name => "setting ".toList ++ accented name ++ " is already declared".toList
  | missingWord directive expected =>
    '@' :: directive ++ " expects ".toList ++ expected
  | unusableWord name value reason =>
    "invalid argument ".toList ++ value.quoted ++ " for ".toList ++ accented name
      ++ ": ".toList ++ reason
  | filterFailed filter edge _ =>
    "filter ".toList ++ accented filter ++ " failed on @".toList ++ edge.directive
  | commandFailed command _ => "command ".toList ++ accented command ++ " failed".toList
  | pluginRefused id rejection =>
    "plugin ".toList ++ accented id ++ " rejected: ".toList ++ rejection.reason
  | custom reason => reason

/-- The error directly beneath a failed filter or command. -/
def cause? : DocumentError → Option DocumentError
  | filterFailed _ _ cause => some cause
  | commandFailed _ cause => some cause
  | _ => none

/-- The error beneath all failed filters and commands. -/
def innermostCause : DocumentError → DocumentError
  | filterFailed _ _ cause => cause.innermostCause
  | commandFailed _ cause => cause.innermostCause
  | error => error

/-- The wordings of an error and of all the errors beneath it, outermost first. -/
def messages : DocumentError → List Text
  | filterFailed filter edge cause => (filterFailed filter edge cause).message :: cause.messages
  | commandFailed command cause => (commandFailed command cause).message :: cause.messages
  | error => [error.message]

end DocumentError

end PlainPage
