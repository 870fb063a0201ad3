import Heartbeat.Text.Unseen

/-!
# Quoted text

A quoted text stands between double quotes.  Quotes and backslashes get a backslash, the common
controls a letter, and a character that shows nothing or extends the one before it is written by its
number; an apostrophe needs nothing.
-/

set_option autoImplicit false

namespace Heartbeat.Text

/-- The digits of a number to the base sixteen, in lower case. -/
def hexadecimal (number : Nat) : List Char := Nat.toDigits 16 number

/-- What stands for a character between quotes. -/
def quotedChar (c : Char) : List Char :=
  if c = '\x00' then ['\\', '0']
  else if c = '\t' then ['\\', 't']
  else if c = '\r' then ['\\', 'r']
  else if c = '\n' then ['\\', 'n']
  else if c = '\x22' || c = '\\' then ['\\', c]
  else if isExtending c || isUnseen c then
    ['\\', 'u', '\x7b'] ++ hexadecimal c.toNat ++ ['\x7d']
  else [c]

/-- A text between double quotes. -/
def quoted (text : String) : String :=
  String.ofList (['\x22'] ++ text.toList.flatMap quotedChar ++ ['\x22'])

/-- A text that may be absent, as a diagnostic shows it. -/
def quotedOption : Option String → String
  | none => "None"
  | some text => "Some(" ++ quoted text ++ ")"

end Heartbeat.Text
