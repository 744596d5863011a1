import PlainPage.Layout.Emphasis

/-!
# Filling lines with words

A paragraph keeps the line that is being filled.  The next word joins it as long as
the line stays strictly shorter than the page; otherwise the line is complete and
the word starts the next one.  A word is never split.

Main results:

- Theorem `Paragraph.measured_addWord` says that the kept length stays the length
  of the kept text.
- Theorem `Paragraph.addWords_append` says that adding two runs of words is adding
  them together.
-/

namespace PlainPage

/-- The number of spaces in front of an indented paragraph. -/
def indentWidth : Nat := 3

/-- The line of a paragraph that is being filled. -/
structure Paragraph where
  text : Text := []
  /-- The number of characters of `text`. -/
  length : Nat := 0
  /-- Whether the line holds a word yet. -/
  hasWords : Bool := false
  deriving DecidableEq, Repr

namespace Paragraph

/-- A paragraph without words. -/
def start (indent : Bool) : Paragraph :=
  if indent then { text := Text.spaces indentWidth, length := indentWidth } else {}

/-- The length of the line with one more word of the given length. -/
def lengthWith (p : Paragraph) (wordLength : Nat) : Nat :=
  p.length + (if p.hasWords then 1 else 0) + wordLength

/-- Put a word at the end of the line, after a space if there is a word before it. -/
def appendWord (p : Paragraph) (word : Text) : Paragraph where
  text := p.text ++ (if p.hasWords then [' '] else []) ++ word
  length := p.lengthWith word.length
  hasWords := true

/-- Add a word under a page width; the first component is the line that the word
completes, if any. -/
def addWord (p : Paragraph) (width : Nat) (word : Text) : List Text × Paragraph :=
  if p.hasWords ∧ width ≤ p.lengthWith word.length then
    ([p.text], ({} : Paragraph).appendWord word)
  else ([], p.appendWord word)

/-- Add words one after the other; the first component is the lines they complete. -/
def addWords (p : Paragraph) (width : Nat) : List Text → List Text × Paragraph
  | [] => ([], p)
  | word :: rest =>
    let (line, p) := p.addWord width word
    let (lines, p) := addWords p width rest
    (line ++ lines, p)

/-- Add the words of a line of prose, with its emphasis applied. -/
def addLine (p : Paragraph) (width : Nat) (line : Text) : List Text × Paragraph :=
  p.addWords width (Text.words (emphasize line))

/-- Whether the kept length is the length of the kept text. -/
def Measured (p : Paragraph) : Prop :=
  p.length = p.text.length

theorem measured_start (indent : Bool) : (start indent).Measured := by
  cases indent <;> simp [Measured, start]

theorem measured_appendWord {p : Paragraph} (h : p.Measured) (word : Text) :
    (p.appendWord word).Measured := by
  have hlength : p.length = p.text.length := h
  unfold Measured
  cases hw : p.hasWords with
  | false => simp [appendWord, lengthWith, hw, hlength]
  | true =>
    simp only [appendWord, lengthWith, hw, hlength, if_true, List.length_append,
      List.length_cons, List.length_nil]

/-- The kept length stays the length of the kept text. -/
theorem measured_addWord {p : Paragraph} (h : p.Measured) (width : Nat) (word : Text) :
    (p.addWord width word).2.Measured := by
  unfold addWord
  split
  · exact measured_appendWord (p := {}) rfl word
  · exact measured_appendWord h word

/-- Adding two runs of words is adding them together. -/
theorem addWords_append (p : Paragraph) (width : Nat) (first second : List Text) :
    p.addWords width (first ++ second) =
      ((p.addWords width first).1 ++ ((p.addWords width first).2.addWords width second).1,
        ((p.addWords width first).2.addWords width second).2) := by
  induction first generalizing p with
  | nil => simp [addWords]
  | cons word rest ih => simp [addWords, ih]

end Paragraph

end PlainPage
