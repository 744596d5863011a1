import PlainPage.Text.Decimal

/-!
# The small parts of a configuration file

Configuration files are written in TOML.  This module reads blanks, comments, line
ends, keys, integers and the four forms of strings.  A reader gives what it read and
the rest of the text, or `none` where the text does not fit.

Main results:

- Definitions `Toml.endLine?`, `Toml.skipSpace?`, `Toml.readKey?`, `Toml.readString?`
  and `Toml.readInteger?` are the readers that the rest builds on.
-/

namespace PlainPage.Toml

/-! ## Blanks, comments and line ends -/

/-- A space or a tab. -/
def isBlankChar (c : Char) : Bool :=
  c == ' ' || c == '\t'

/-- A character that can stand in a comment: a tab, or one that is no control. -/
def isVisible (c : Char) : Bool :=
  c == '\t' || (0x20 ≤ c.toNat && c.toNat != 0x7F)

/-- The text without the spaces and tabs in front. -/
def dropBlanks (t : Text) : Text :=
  t.dropWhile isBlankChar

/-- The text after a line break at its front. -/
def lineBreak? : Text → Option Text
  | '\n' :: rest => some rest
  | '\r' :: '\n' :: rest => some rest
  | _ => none

/-- The text without a comment at its front. -/
def dropComment : Text → Text
  | '#' :: rest => rest.dropWhile isVisible
  | t => t

/-- The text after the end of a line, before which only blanks and a comment stand. -/
def endLine? (t : Text) : Option Text :=
  match dropComment (dropBlanks t) with
  | [] => some []
  | rest => lineBreak? rest

/-- The text without the blanks, line breaks and comments in front.  A comment must end
with its line. -/
def skipSpace? (inComment : Bool) : Text → Option Text
  | [] => if inComment then none else some []
  | '\n' :: rest => skipSpace? false rest
  | '\r' :: '\n' :: rest => skipSpace? false rest
  | c :: rest =>
    if inComment then (if isVisible c then skipSpace? true rest else none)
    else if isBlankChar c then skipSpace? false rest
    else if c = '#' then skipSpace? true rest
    else some (c :: rest)

/-! ## Strings -/

/-- The value of a digit of base sixteen. -/
def hexValue? (c : Char) : Option Nat :=
  if '0' ≤ c ∧ c ≤ '9' then some (c.toNat - 48)
  else if 'a' ≤ c ∧ c ≤ 'f' then some (c.toNat - 87)
  else if 'A' ≤ c ∧ c ≤ 'F' then some (c.toNat - 55)
  else none

/-- The character whose code point is written with the given digits of base sixteen. -/
def codePoint? (digits : Text) : Option Char := do
  let values ← digits.mapM hexValue?
  let n := values.foldl (fun n value => 16 * n + value) 0
  if n.isValidChar then some (Char.ofNat n) else none

/-- The character that a letter after a backslash stands for. -/
def escaped? : Char → Option Char
  | 'b' => some '\x08'
  | 't' => some '\t'
  | 'n' => some '\n'
  | 'f' => some '\x0c'
  | 'r' => some '\r'
  | '"' => some '"'
  | '\\' => some '\\'
  | _ => none

/-- Put a character in front of what a reader read. -/
def consRead (c : Char) : Option (Text × Text) → Option (Text × Text) :=
  Option.map fun (read, rest) => (c :: read, rest)

/-- Read a string between double quotes, after the first of them. -/
def readBasic? : Text → Option (Text × Text)
  | [] => none
  | '"' :: rest => some ([], rest)
  | '\\' :: 'u' :: a :: b :: c :: d :: rest => do
    consRead (← codePoint? [a, b, c, d]) (readBasic? rest)
  | '\\' :: 'U' :: a :: b :: c :: d :: e :: f :: g :: h :: rest => do
    consRead (← codePoint? [a, b, c, d, e, f, g, h]) (readBasic? rest)
  | '\\' :: c :: rest => do consRead (← escaped? c) (readBasic? rest)
  | c :: rest => if isVisible c && c != '\\' then consRead c (readBasic? rest) else none

/-- Read a string between single quotes, after the first of them. -/
def readLiteral? : Text → Option (Text × Text)
  | [] => none
  | '\'' :: rest => some ([], rest)
  | c :: rest => if isVisible c then consRead c (readLiteral? rest) else none

/-- Read a string of several lines between single quotes, after the three that open it.
Up to two quotes may stand before the three that close it. -/
def readLongLiteral? : Text → Option (Text × Text)
  | [] => none
  | '\'' :: '\'' :: '\'' :: '\'' :: '\'' :: rest => some (['\'', '\''], rest)
  | '\'' :: '\'' :: '\'' :: '\'' :: rest => some (['\''], rest)
  | '\'' :: '\'' :: '\'' :: rest => some ([], rest)
  | '\n' :: rest => consRead '\n' (readLongLiteral? rest)
  | '\r' :: '\n' :: rest => consRead '\n' (readLongLiteral? rest)
  | c :: rest => if isVisible c then consRead c (readLongLiteral? rest) else none

/-- Read a string of several lines between double quotes, after the three that open it.
Up to two quotes may stand before the three that close it.  A backslash at the end of a
line joins it to the next line; `joining` tells that blanks and line breaks are being
dropped for that reason. -/
def readLongBasic? (joining : Bool) : Text → Option (Text × Text)
  | [] => none
  | '"' :: '"' :: '"' :: '"' :: '"' :: rest => some (['"', '"'], rest)
  | '"' :: '"' :: '"' :: '"' :: rest => some (['"'], rest)
  | '"' :: '"' :: '"' :: rest => some ([], rest)
  | '\n' :: rest =>
    if joining then readLongBasic? true rest else consRead '\n' (readLongBasic? false rest)
  | '\r' :: '\n' :: rest =>
    if joining then readLongBasic? true rest else consRead '\n' (readLongBasic? false rest)
  | '\\' :: 'u' :: a :: b :: c :: d :: rest => do
    consRead (← codePoint? [a, b, c, d]) (readLongBasic? false rest)
  | '\\' :: 'U' :: a :: b :: c :: d :: e :: f :: g :: h :: rest => do
    consRead (← codePoint? [a, b, c, d, e, f, g, h]) (readLongBasic? false rest)
  | '\\' :: c :: rest =>
    match escaped? c with
    | some character => consRead character (readLongBasic? false rest)
    | none =>
      if (lineBreak? (dropBlanks (c :: rest))).isSome then
        readLongBasic? true (c :: rest)
      else none
  | c :: rest =>
    if joining && isBlankChar c then readLongBasic? true rest
    else if isVisible c && c != '\\' then consRead c (readLongBasic? false rest)
    else none

/-- The text without one line break at its front. -/
def dropLineBreak (t : Text) : Text :=
  (lineBreak? t).getD t

/-- Read a string of any form. -/
def readString? : Text → Option (Text × Text)
  | '"' :: '"' :: '"' :: rest => readLongBasic? false (dropLineBreak rest)
  | '"' :: rest => readBasic? rest
  | '\'' :: '\'' :: '\'' :: rest => readLongLiteral? (dropLineBreak rest)
  | '\'' :: rest => readLiteral? rest
  | _ => none

/-! ## Keys -/

/-- A character that can stand in a key without quotes. -/
def isBareKey (c : Char) : Bool :=
  ('a' ≤ c && c ≤ 'z') || ('A' ≤ c && c ≤ 'Z') || c.isDigit || c == '_' || c == '-'

/-- Read one part of a key. -/
def readKeyPart? (t : Text) : Option (Text × Text) :=
  match t with
  | '"' :: rest => readBasic? rest
  | '\'' :: rest => readLiteral? rest
  | t =>
    match t.takeWhile isBareKey with
    | [] => none
    | part => some (part, t.dropWhile isBareKey)

/-- Read a key of at most `fuel` parts, with points between them and blanks around them. -/
def readKeyParts? : Nat → Text → Option (List Text × Text)
  | 0, _ => none
  | fuel + 1, t => do
    let (part, t) ← readKeyPart? (dropBlanks t)
    match dropBlanks t with
    | '.' :: rest => do
      let (parts, rest) ← readKeyParts? fuel rest
      return (part :: parts, rest)
    | rest => some ([part], rest)

/-- Read a key. -/
def readKey? (t : Text) : Option (List Text × Text) :=
  readKeyParts? (t.length + 1) t

/-! ## Integers -/

/-- Read digits, with single underscores between them: the digits and the rest. -/
def readDigits? (isDigit : Char → Bool) : Text → Option (Text × Text)
  | [] => none
  | c :: rest =>
    if isDigit c then
      match rest with
      | '_' :: more => consRead c (readDigits? isDigit more)
      | next :: more =>
        if isDigit next then consRead c (readDigits? isDigit (next :: more))
        else some ([c], rest)
      | [] => some ([c], [])
    else none

/-- The value of digits in a base. -/
def valueIn (base : Nat) (digits : Text) : Nat :=
  digits.foldl (fun n c => base * n + (hexValue? c).getD 0) 0

/-- Read a number in a base other than ten. -/
def readBased? (base : Nat) (t : Text) : Option (Int × Text) := do
  let isDigit := fun c => ((hexValue? c).map (decide <| · < base)).getD false
  let (digits, rest) ← readDigits? isDigit t
  let n := valueIn base digits
  if n ≤ maxInteger then some (n, rest) else none

/-- Read a number in base ten, without its sign; it has no zeros in front. -/
def readDecimal? (t : Text) : Option (Nat × Text) :=
  match t with
  | '0' :: rest => some (0, rest)
  | t => (readDigits? Char.isDigit t).map fun (digits, rest) => (valueIn 10 digits, rest)

/-- Read an integer within 64 bits. -/
def readInteger? : Text → Option (Int × Text)
  | '0' :: 'x' :: rest => readBased? 16 rest
  | '0' :: 'o' :: rest => readBased? 8 rest
  | '0' :: 'b' :: rest => readBased? 2 rest
  | '-' :: rest => do
    let (n, rest) ← readDecimal? rest
    if n ≤ maxInteger + 1 then some (-(n : Int), rest) else none
  | t => do
    let (n, rest) ← readDecimal? (dropPlus t)
    if n ≤ maxInteger then some ((n : Int), rest) else none

end PlainPage.Toml
