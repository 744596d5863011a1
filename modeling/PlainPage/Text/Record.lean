import PlainPage.Text.Quoted
import PlainPage.Text.Decimal

/-!
# Records and lists as texts

How a summary shows structured data: a record as its name and its fields between
braces, a list between brackets.

Main results:

- Definitions `Text.recorded` and `Text.bracketed` write records and lists.
-/

namespace PlainPage.Text

/-- The items of a list, with commas between them. -/
def listed (items : List Text) : Text :=
  List.intercalate ", ".toList items

/-- A list between brackets. -/
def bracketed (items : List Text) : Text :=
  '[' :: listed items ++ [']']

/-- A field of a record. -/
def field (name : String) (value : Text) : Text :=
  name.toList ++ ": ".toList ++ value

/-- A record with its fields between braces. -/
def recorded (name : String) (fields : List Text) : Text :=
  name.toList ++ " \x7b ".toList ++ listed fields ++ " \x7d".toList

/-- A value behind the name of its case. -/
def tagged (name : String) (value : Text) : Text :=
  name.toList ++ ['('] ++ value ++ [')']

end PlainPage.Text
