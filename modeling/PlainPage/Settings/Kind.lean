import PlainPage.Text.Decimal

/-!
# Setting values

The values a setting can hold, the kinds that say which of them it takes, and the
way both are read from the words of a document.

Main results:

- Definitions `Value.text` and `Kind.parse?` write and read values.
- Theorem `Kind.accepts_of_parse?` says that what a kind reads it also takes.
-/

namespace PlainPage

/-- The side at which a finished line stands, or its middle. -/
inductive Alignment where
  | left
  | right
  | center
  deriving DecidableEq, Repr, Inhabited

namespace Alignment

/-- The word for an alignment. -/
def text : Alignment → Text
  | left => "left".toList
  | right => "right".toList
  | center => "center".toList

/-- The alignment that a word names. -/
def ofText? (t : Text) : Option Alignment :=
  if t = "left".toList then some left
  else if t = "right".toList then some right
  else if t = "center".toList then some center
  else none

@[simp] theorem ofText?_text (a : Alignment) : ofText? a.text = some a := by
  cases a <;> decide

end Alignment

/-- A value of a setting. -/
inductive Value where
  | integer (n : Int)
  | switch (on : Bool)
  | alignment (a : Alignment)
  | text (t : Text)
  deriving DecidableEq, Repr

/-- What a setting takes. -/
inductive Kind where
  | integer
  | switch
  | alignment
  /-- Anything; a word is taken for an integer or a switch where it reads as one. -/
  | inferred
  deriving DecidableEq, Repr

/-- The word for the state of a switch. -/
def switchText : Bool → Text
  | true => "on".toList
  | false => "off".toList

/-- The state of a switch that a word names. -/
def switch? (t : Text) : Option Bool :=
  if t = "on".toList then some true
  else if t = "off".toList then some false
  else none

@[simp] theorem switch?_switchText (on : Bool) : switch? (switchText on) = some on := by
  cases on <;> decide

namespace Value

/-- The words of a document that stand for a value. -/
def toText : Value → Text
  | integer n => integerText n
  | switch on => switchText on
  | alignment a => a.text
  | text t => t

/-- Take words for an integer, else for a switch, else for themselves. -/
def infer (t : Text) : Value :=
  match PlainPage.integer? t with
  | some n => integer n
  | none =>
    match PlainPage.switch? t with
    | some on => switch on
    | none => text t

/-- The integer that a value is. -/
def integer? : Value → Option Int
  | integer n => some n
  | _ => none

/-- The state of the switch that a value is. -/
def switch? : Value → Option Bool
  | switch on => some on
  | _ => none

/-- The alignment that a value is. -/
def alignment? : Value → Option Alignment
  | alignment a => some a
  | _ => none

/-- The free words that a value is. -/
def text? : Value → Option Text
  | text t => some t
  | _ => none

end Value

namespace Kind

/-- The wording of what a kind takes. -/
def expected : Kind → Text
  | integer => "an integer".toList
  | switch => "\x60on\x60 or \x60off\x60".toList
  | alignment => "\x60left\x60, \x60right\x60 or \x60center\x60".toList
  | inferred => "any value".toList

/-- Whether a setting of this kind takes the value. -/
def accepts : Kind → Value → Bool
  | inferred, _ => true
  | integer, .integer _ => true
  | switch, .switch _ => true
  | alignment, .alignment _ => true
  | _, _ => false

/-- Read words as a value of this kind. -/
def parse? (kind : Kind) (t : Text) : Option Value :=
  match kind with
  | integer => (PlainPage.integer? t).map .integer
  | switch => (PlainPage.switch? t).map .switch
  | alignment => (Alignment.ofText? t).map .alignment
  | inferred => some (Value.infer t)

/-- What a kind reads it also takes. -/
theorem accepts_of_parse? {kind : Kind} {t : Text} {value : Value}
    (h : kind.parse? t = some value) : kind.accepts value = true := by
  cases kind <;> simp only [parse?, Option.map_eq_some_iff] at h
  case inferred => rfl
  all_goals
    obtain ⟨x, -, rfl⟩ := h
    rfl

end Kind

end PlainPage
