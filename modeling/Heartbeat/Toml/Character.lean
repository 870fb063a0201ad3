/-!
# Characters of a TOML document

The classes of characters that the grammar of TOML 1.1 tells apart, and the readers that skip what
carries no meaning: blanks within a line, comments, and ends of lines.  Everything here works on the
characters that are still to be read, and what a reader leaves is the rest of them.
-/

set_option autoImplicit false

namespace Heartbeat.Toml

/-- A reader takes something off the front of the text, or finds the text malformed. -/
abbrev Reader (α : Type) := List Char → Option (α × List Char)

/-- A space or a tab. -/
def isBlank (c : Char) : Bool := c = ' ' || c = '\t'

/-- A character that may stand in a comment or a text: any but a control, the tab excepted. -/
def isVisible (c : Char) : Bool := c = '\t' || (0x20 ≤ c.toNat && c.toNat ≠ 0x7F)

/-- A character of a key without quotes. -/
def isBareKey (c : Char) : Bool := c.isAlphanum || c = '_' || c = '-'

/-- A character of a number, a date or a word without quotes. -/
def isScalar (c : Char) : Bool := isBareKey c || c = '+' || c = '.' || c = ':'

/-- The value of a digit to the base sixteen, in either case. -/
def digitValue (c : Char) : Nat :=
  if c.isDigit then c.toNat - '0'.toNat
  else if c.isLower then c.toNat - 'a'.toNat + 10
  else c.toNat - 'A'.toNat + 10

/-- A digit to the base sixteen, in either case. -/
def isHexDigit (c : Char) : Bool :=
  c.isDigit || ('a' ≤ c && c ≤ 'f') || ('A' ≤ c && c ≤ 'F')

/-- The number that digits spell to a base. -/
def digitsValue (base : Nat) (digits : List Char) : Nat :=
  digits.foldl (fun value digit => base * value + digitValue digit) 0

/-- The text after its leading blanks. -/
def skipBlanks (text : List Char) : List Char := text.dropWhile isBlank

/-- The text after a comment, if it starts with one. -/
def skipComment : List Char → List Char
  | '#' :: rest => rest.dropWhile isVisible
  | text => text

/-- The text after an end of line, which is a line feed with or without a carriage return. -/
def newline? : List Char → Option (List Char)
  | '\n' :: rest => some rest
  | '\r' :: '\n' :: rest => some rest
  | _ => none

/-- The text after blanks and a comment, and the end of line after them unless the text is over. -/
def endOfLine (text : List Char) : Option (List Char) :=
  match skipComment (skipBlanks text) with
  | [] => some []
  | rest => newline? rest

/-- The text after blanks, comments and ends of lines, in any number. -/
def skipFiller (inComment : Bool) : List Char → Option (List Char)
  | [] => some []
  | '\n' :: rest => skipFiller false rest
  | '\r' :: '\n' :: rest => skipFiller false rest
  | c :: rest =>
    if inComment then if isVisible c then skipFiller true rest else none
    else if c = '#' then skipFiller true rest
    else if isBlank c then skipFiller false rest
    else some (c :: rest)

end Heartbeat.Toml
