import Heartbeat.Toml.Character

/-!
# Texts between quotes

TOML has four kinds of text: with escapes or without, and on one line or on several.  In a text with
escapes a backslash starts a letter for a control, a code of two, four or eight digits, or, on
several lines, swallows the white space up to the next word.  A text on several lines ends with
three quotes and may have one or two more just before them; an end of line right after its first
three quotes does not count, and all others stay as they are written.
-/

set_option autoImplicit false

namespace Heartbeat.Toml

/-- Puts a character, if there is one, before what is read after it. -/
def push (c : Option Char) (later : Option (List Char × List Char)) :
    Option (List Char × List Char) :=
  match c, later with
  | some c, some (text, rest) => some (c :: text, rest)
  | _, _ => none

/-- The control or the quote that a letter after a backslash stands for. -/
def escapeLetter? (c : Char) : Option Char :=
  if c = 'b' then some '\x08'
  else if c = 't' then some '\t'
  else if c = 'n' then some '\n'
  else if c = 'f' then some '\x0c'
  else if c = 'r' then some '\r'
  else if c = 'e' then some '\x1b'
  else if c = '\x22' then some '\x22'
  else if c = '\\' then some '\\'
  else none

/-- The character with a code that is written with digits to the base sixteen. -/
def charOfCode? (digits : List Char) : Option Char :=
  if digits.all isHexDigit then
    let code := digitsValue 16 digits
    if code.isValidChar then some (Char.ofNat code) else none
  else none

/-- A character that stands for itself in a text with escapes. -/
def isPlain (c : Char) : Bool := isVisible c && c ≠ '\x22' && c ≠ '\\'

/-- The rest of a text with escapes on one line, after its first quote. -/
def basicRest : Reader (List Char)
  | [] => none
  | '\\' :: 'x' :: a :: b :: rest => push (charOfCode? [a, b]) (basicRest rest)
  | '\\' :: 'u' :: a :: b :: c :: d :: rest => push (charOfCode? [a, b, c, d]) (basicRest rest)
  | '\\' :: 'U' :: a :: b :: c :: d :: e :: f :: g :: h :: rest =>
    push (charOfCode? [a, b, c, d, e, f, g, h]) (basicRest rest)
  | '\\' :: c :: rest => push (escapeLetter? c) (basicRest rest)
  | c :: rest =>
    if c = '\x22' then some ([], rest)
    else if isPlain c then push (some c) (basicRest rest)
    else none

/-- The rest of a text without escapes on one line, after its first quote. -/
def literalRest : Reader (List Char)
  | [] => none
  | c :: rest =>
    if c = '\x27' then some ([], rest)
    else if isVisible c then push (some c) (literalRest rest)
    else none

/-- The quotes that belong to a text on several lines, and what follows it, at its end. -/
def closingQuotes (quote : Char) : List Char → Option (List Char × List Char)
  | a :: b :: c :: rest =>
    if a = quote && b = quote && c = quote then
      match rest with
      | d :: e :: others =>
        if d = quote && e = quote then some ([quote, quote], others)
        else if d = quote then some ([quote], e :: others)
        else some ([], rest)
      | [d] => if d = quote then some ([quote], []) else some ([], rest)
      | [] => some ([], [])
    else none
  | _ => none

/-- The text after the white space that a backslash at the end of a line swallows. -/
def foldedLines? (text : List Char) : Option (List Char) :=
  match newline? (skipBlanks text) with
  | none => none
  | some rest => some (rest.dropWhile fun c => isBlank c || c = '\n' || c = '\r')

/-- The rest of a text with escapes on several lines, after its first three quotes. -/
def multilineBasicRest : (steps : Nat) → Reader (List Char)
  | 0, _ => none
  | steps + 1, text =>
    match closingQuotes '\x22' text with
    | some closed => some closed
    | none =>
      match text with
      | [] => none
      | '\\' :: 'x' :: a :: b :: rest =>
        push (charOfCode? [a, b]) (multilineBasicRest steps rest)
      | '\\' :: 'u' :: a :: b :: c :: d :: rest =>
        push (charOfCode? [a, b, c, d]) (multilineBasicRest steps rest)
      | '\\' :: 'U' :: a :: b :: c :: d :: e :: f :: g :: h :: rest =>
        push (charOfCode? [a, b, c, d, e, f, g, h]) (multilineBasicRest steps rest)
      | '\\' :: rest =>
        match foldedLines? rest, rest with
        | some folded, _ => multilineBasicRest steps folded
        | none, c :: others => push (escapeLetter? c) (multilineBasicRest steps others)
        | none, [] => none
      | '\r' :: '\n' :: rest =>
        push (some '\r') (push (some '\n') (multilineBasicRest steps rest))
      | c :: rest =>
        if isVisible c || c = '\n' then push (some c) (multilineBasicRest steps rest) else none

/-- The rest of a text without escapes on several lines, after its first three quotes. -/
def multilineLiteralRest : (steps : Nat) → Reader (List Char)
  | 0, _ => none
  | steps + 1, text =>
    match closingQuotes '\x27' text with
    | some closed => some closed
    | none =>
      match text with
      | [] => none
      | '\r' :: '\n' :: rest =>
        push (some '\r') (push (some '\n') (multilineLiteralRest steps rest))
      | c :: rest =>
        if isVisible c || c = '\n' then push (some c) (multilineLiteralRest steps rest)
        else none

/-- The text without an end of line at its very start. -/
def dropFirstNewline (text : List Char) : List Char := (newline? text).getD text

/-- Reads a text on one line, with escapes or without. -/
def lineText : Reader String := fun text =>
  let body :=
    match text with
    | c :: rest =>
      if c = '\x22' then basicRest rest else if c = '\x27' then literalRest rest else none
    | [] => none
  body.map fun (chars, rest) => (String.ofList chars, rest)

/-- Reads a text of any kind. -/
def quotedText : Reader String := fun text =>
  let body := text.drop 3
  if text.take 3 = ['\x22', '\x22', '\x22'] then
    (multilineBasicRest (text.length + 1) (dropFirstNewline body)).map fun (chars, rest) =>
      (String.ofList chars, rest)
  else if text.take 3 = ['\x27', '\x27', '\x27'] then
    (multilineLiteralRest (text.length + 1) (dropFirstNewline body)).map fun (chars, rest) =>
      (String.ofList chars, rest)
  else lineText text

end Heartbeat.Toml
