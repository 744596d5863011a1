import PlainPage.Text.Basic
import PlainPage.Text.PrintTable

/-!
# Quoted texts

A text between quotes, as messages show it: quotes and backslashes carry a
backslash, the common controls have a letter of their own, and every other
character that cannot be seen stands as its code point in braces.

Main results:

- Definition `Text.quoted` writes a text between quotes.
-/

namespace PlainPage

/-- A digit of base sixteen, in lower case. -/
def hexDigit (n : Nat) : Char :=
  if n < 10 then Char.ofNat (48 + n) else Char.ofNat (87 + n)

/-- The fewest digits of base sixteen that write `n`, found within `fuel` digits. -/
def hexDigits : Nat → Nat → Text
  | 0, _ => []
  | fuel + 1, n => (if n < 16 then [] else hexDigits fuel (n / 16)) ++ [hexDigit (n % 16)]

/-- Whether a character can be seen, and seen apart from the one before it. -/
def isPlain (c : Char) : Bool :=
  !PrintTable.combining.has c && !PrintTable.unprintable.has c

/-- The form of a character between quotes. -/
def escape (c : Char) : Text :=
  match c with
  | '\x00' => "\\0".toList
  | '\t' => "\\t".toList
  | '\r' => "\\r".toList
  | '\n' => "\\n".toList
  | '\\' => "\\\\".toList
  | '"' => "\\\"".toList
  | c => if isPlain c then [c] else "\\u\x7b".toList ++ hexDigits 6 c.toNat ++ "\x7d".toList

/-- A text between quotes. -/
def Text.quoted (t : Text) : Text :=
  '"' :: t.flatMap escape ++ ['"']

/-- A name between grave accents. -/
def accented (name : Text) : Text :=
  '\x60' :: name ++ ['\x60']

end PlainPage
