import Heartbeat.Toml.Character

/-!
# Numbers, truth values and moments

The values that TOML writes without quotes.  An integer is decimal with an optional sign and no
leading zeros, or hexadecimal, octal or binary with a lower-case mark and no sign; single
underscores may stand between digits.  A float has a fraction, an exponent or both, or is a special
word.  A moment is a date, a time, or both with an optional offset, and the seconds may be left out.

Two limits come from what readers of such documents can hold: an integer lies from `-2¹²⁷` up to
`2¹²⁸`, and a float does not round to infinity.
-/

set_option autoImplicit false

namespace Heartbeat.Toml

/-- A value that is written without quotes. -/
inductive Scalar where
  /-- A whole number. -/
  | integer (value : Int)
  /-- A number with a fraction or an exponent, or one of the special words, as written. -/
  | float (literal : String)
  /-- A truth value. -/
  | boolean (value : Bool)
  /-- A date, a time or both, as written. -/
  | moment (literal : String)
  deriving DecidableEq, Repr

/-! ## Numbers -/

/-- The digits of a run in which single underscores may stand between digits. -/
def groupedDigits (isDigit : Char → Bool) : List Char → Option (List Char)
  | [] => none
  | [c] => if isDigit c then some [c] else none
  | c :: '_' :: rest => if isDigit c then (groupedDigits isDigit rest).map (c :: ·) else none
  | c :: rest => if isDigit c then (groupedDigits isDigit rest).map (c :: ·) else none

/-- The digits of a decimal number without leading zeros. -/
def plainDigits (text : List Char) : Option (List Char) :=
  (groupedDigits Char.isDigit text).filter fun digits =>
    digits.length = 1 || digits.head? ≠ some '0'

/-- Whether a sign was a minus, and the text after an optional sign. -/
def splitSign : List Char → Bool × List Char
  | '+' :: rest => (false, rest)
  | '-' :: rest => (true, rest)
  | text => (false, text)

/-- The magnitude or its negation. -/
def withSign (negative : Bool) (magnitude : Nat) : Int :=
  if negative then -(magnitude : Int) else magnitude

/-- The integer that a text writes to whatever base. -/
def integerLiteral? (text : List Char) : Option Int :=
  match text with
  | '0' :: 'x' :: digits =>
    (groupedDigits isHexDigit digits).map fun digits => (digitsValue 16 digits : Int)
  | '0' :: 'o' :: digits =>
    (groupedDigits (fun c => '0' ≤ c && c ≤ '7') digits).map fun digits =>
      (digitsValue 8 digits : Int)
  | '0' :: 'b' :: digits =>
    (groupedDigits (fun c => c = '0' || c = '1') digits).map fun digits =>
      (digitsValue 2 digits : Int)
  | _ =>
    let (negative, digits) := splitSign text
    (plainDigits digits).map fun digits => withSign negative (digitsValue 10 digits)

/-- Whether an integer can be held: one of 128 bits, with or without a sign. -/
def isHeld (value : Int) : Bool :=
  -((1 <<< 127 : Nat) : Int) ≤ value && value < ((1 <<< 128 : Nat) : Int)

/-- Whether `digits · 10 ^ exponent` rounds to infinity as a float of 64 bits, that is, lies at or
above the middle between the greatest such float and the next power of two. -/
def overflows (digits : Nat) (exponent : Int) : Bool :=
  let limit := (1 <<< 1024) - (1 <<< 970)
  let magnitude : Int := (Nat.repr digits).length + exponent
  if digits = 0 || magnitude ≤ 308 then false
  else if 310 ≤ magnitude then true
  else if 0 ≤ exponent then limit ≤ digits * Nat.pow 10 exponent.toNat
  else limit * Nat.pow 10 (-exponent).toNat ≤ digits

/-- The exponent that a text writes after the mark `e`.  It may have leading zeros. -/
def exponent? (text : List Char) : Option Int :=
  let (negative, digits) := splitSign text
  (groupedDigits Char.isDigit digits).map fun digits => withSign negative (digitsValue 10 digits)

/-- Splits a text before its first exponent mark. -/
def splitExponent (text : List Char) : List Char × Option (List Char) :=
  let isMark := fun c => c = 'e' || c = 'E'
  match text.dropWhile fun c => !isMark c with
  | [] => (text, none)
  | _ :: rest => (text.takeWhile fun c => !isMark c, some rest)

/-- Whether a text writes a float that does not round to infinity. -/
def isFloatLiteral (text : List Char) : Bool :=
  let unsigned := (splitSign text).2
  if unsigned = ['i', 'n', 'f'] || unsigned = ['n', 'a', 'n'] then true
  else
    let (mantissa, mark) := splitExponent unsigned
    let whole := mantissa.takeWhile (· ≠ '.')
    let fraction? :=
      match mantissa.dropWhile (· ≠ '.') with
      | [] => if mark.isSome then some [] else none
      | _ :: fraction => groupedDigits Char.isDigit fraction
    let exponentValue? :=
      match mark with
      | none => some 0
      | some text => exponent? text
    match plainDigits whole, fraction?, exponentValue? with
    | some whole, some fraction, some exponent =>
      !overflows (digitsValue 10 (whole ++ fraction)) (exponent - fraction.length)
    | _, _, _ => false

/-! ## Moments -/

/-- Two digits with their value. -/
def twoDigits : Reader Nat
  | a :: b :: rest =>
    if a.isDigit && b.isDigit then some (10 * digitValue a + digitValue b, rest) else none
  | _ => none

/-- The text after a given character. -/
def after (c : Char) : List Char → Option (List Char)
  | first :: rest => if first = c then some rest else none
  | [] => none

/-- The number of days of a month. -/
def daysInMonth (year month : Nat) : Nat :=
  if month = 2 then
    if year % 4 = 0 && (year % 100 ≠ 0 || year % 400 = 0) then 29 else 28
  else if month = 4 || month = 6 || month = 9 || month = 11 then 30
  else 31

/-- The text after a date. -/
def date? (text : List Char) : Option (List Char) := do
  let (century, text) ← twoDigits text
  let (year, text) ← twoDigits text
  let (month, text) ← twoDigits (← after '-' text)
  let (day, text) ← twoDigits (← after '-' text)
  if 1 ≤ month && month ≤ 12 && 1 ≤ day && day ≤ daysInMonth (100 * century + year) month then
    some text
  else none

/-- The text after a fraction of a second, if there is a point. -/
def secondFraction? : List Char → Option (List Char)
  | '.' :: c :: rest => if c.isDigit then some (rest.dropWhile Char.isDigit) else none
  | '.' :: [] => none
  | text => some text

/-- The text after a time of day.  The seconds may be left out, and there may be a leap second. -/
def time? (text : List Char) : Option (List Char) := do
  let (hour, text) ← twoDigits text
  let (minute, text) ← twoDigits (← after ':' text)
  if hour ≤ 23 && minute ≤ 59 then
    match text with
    | ':' :: text => do
      let (second, text) ← twoDigits text
      if second ≤ 60 then secondFraction? text else none
    | text => some text
  else none

/-- The text after an offset from universal time, if there is one. -/
def offset? : List Char → Option (List Char)
  | 'Z' :: text | 'z' :: text => some text
  | '+' :: text | '-' :: text => do
    let (hour, text) ← twoDigits text
    let (minute, text) ← twoDigits (← after ':' text)
    if hour ≤ 23 && minute ≤ 59 then some text else none
  | text => some text

/-- Whether a text writes a moment. -/
def isMomentLiteral (text : List Char) : Bool :=
  time? text = some [] ||
    match date? text with
    | none => false
    | some [] => true
    | some (separator :: text) =>
      (separator = 'T' || separator = 't' || separator = ' ') &&
        (time? text).bind offset? = some []

/-! ## Scalars -/

/-- The scalar that a text writes. -/
def Scalar.ofChars? (text : List Char) : Option Scalar :=
  if text = ['t', 'r', 'u', 'e'] then some (.boolean true)
  else if text = ['f', 'a', 'l', 's', 'e'] then some (.boolean false)
  else if isMomentLiteral text then some (.moment (String.ofList text))
  else
    match integerLiteral? text with
    | some value => if isHeld value then some (.integer value) else none
    | none => if isFloatLiteral text then some (.float (String.ofList text)) else none

/-- The characters of a scalar at the front of a text.  A date takes one space and the time after
it along. -/
def scalarChars (text : List Char) : List Char × List Char :=
  let word := text.takeWhile isScalar
  let rest := text.dropWhile isScalar
  match date? word, rest with
  | some [], ' ' :: c :: later =>
    if c.isDigit then
      (word ++ ' ' :: (c :: later).takeWhile isScalar, (c :: later).dropWhile isScalar)
    else (word, rest)
  | _, _ => (word, rest)

/-- Reads a scalar. -/
def scalar : Reader Scalar := fun text =>
  let (word, rest) := scalarChars text
  (Scalar.ofChars? word).map fun value => (value, rest)

end Heartbeat.Toml
