import PlainPage.DocumentError
import PlainPage.Text.Case

/-!
# Directive lines

A line whose first visible character is `@` is a directive.  What follows the `@` is
lowered and cut into words; the first word says what to do.

Main results:

- Definitions `afterMarker?` and `Directive.ofLine?` find and read a directive line.
- Theorem `afterMarker?_eq_some_iff` says which lines are directives.
-/

namespace PlainPage

/-- What a directive line asks for. -/
inductive Directive where
  /-- Open a block under a filter. -/
  | openBlock (filter : Text) (args : List Text)
  /-- Close the innermost block, which has the given name if there is one. -/
  | closeBlock (filter : Option Text)
  /-- Push a value on a setting. -/
  | set (name value : Text)
  /-- Take the newest value off a setting. -/
  | unset (name : Text)
  /-- Enable a plugin. -/
  | enable (plugin : Text)
  /-- Run a command. -/
  | run (command : Text) (args : List Text)
  deriving DecidableEq, Repr

namespace Directive

/-- The words that open a block. -/
def openWords : List Text := ["begin".toList, "!".toList]

/-- The words that close a block. -/
def closeWords : List Text := ["end".toList, "/".toList]

/-- The word that pushes a value on a setting. -/
def setWord : Text := "set".toList

/-- The word that takes a value off a setting. -/
def unsetWord : Text := "unset".toList

/-- The word that enables a plugin. -/
def pluginWord : Text := "plugin".toList

/-- The words that neither a command nor a filter can have for a name. -/
def reservedWords : List Text :=
  openWords ++ closeWords ++ [setWord, unsetWord, pluginWord]

/-- The first of the words, or the complaint that the directive lacks it. -/
def takeWord (directive expected : String) : List Text → Except DocumentError (Text × List Text)
  | [] => .error (.missingWord directive.toList expected.toList)
  | word :: rest => .ok (word, rest)

/-- Read a directive from its words. -/
def ofWords : List Text → Except DocumentError Directive
  | [] => .error (.unknownCommand [])
  | head :: words =>
    if head ∈ openWords then do
      let (filter, args) ← takeWord "begin" "a filter name" words
      return openBlock filter args
    else if head ∈ closeWords then
      .ok (closeBlock words.head?)
    else if head = setWord then do
      let (name, values) ← takeWord "set" "a setting name" words
      let (first, rest) ← takeWord "set" "a value" values
      return set name (List.intercalate [' '] (first :: rest))
    else if head = unsetWord then do
      let (name, _) ← takeWord "unset" "a setting name" words
      return unset name
    else if head = pluginWord then do
      let (id, _) ← takeWord "plugin" "a plugin id" words
      return enable id
    else .ok (run head words)

/-- Read a directive from the text after the `@`. -/
def ofBody (body : Text) : Except DocumentError Directive :=
  ofWords (Text.words (Text.lower body))

end Directive

/-- The text after the `@` of a directive line. -/
def afterMarker? (line : Text) : Option Text :=
  match line.dropWhile isWhite with
  | '@' :: body => if '\n' ∈ body then none else some body
  | _ => none

/-- Whether the first visible character of a line is `#`. -/
def isComment (line : Text) : Bool :=
  (line.dropWhile isWhite).head? == some '#'

/-- Read a line; the answer is `none` for a line that is no directive. -/
def Directive.ofLine? (line : Text) : Option (Except DocumentError Directive) :=
  (afterMarker? line).map ofBody

/-- A line without inner line breaks is a directive when its first visible
character is `@`. -/
theorem afterMarker?_eq_some_iff {line body : Text} (h : '\n' ∉ line) :
    afterMarker? line = some body ↔ line.dropWhile isWhite = '@' :: body := by
  have hsub : ∀ c ∈ line.dropWhile isWhite, c ∈ line := fun c hc =>
    (List.dropWhile_suffix isWhite).subset hc
  unfold afterMarker?
  split
  · rename_i b hb
    have hfree : '\n' ∉ b := fun hmem => h (hsub _ (by simp [hb, hmem]))
    simp [hfree, hb]
  · rename_i hno
    simp only [reduceCtorEq, false_iff]
    exact hno body

end PlainPage
