import Heartbeat.Toml.Quoted
import Heartbeat.Toml.Scalar
import Heartbeat.Toml.Table

/-!
# TOML documents

Reading a whole document into its entries.  A document is well-formed or it is not: a single
mistake anywhere, a key given twice included, makes it malformed, so there are no partial results.
Arrays and inline tables may be nested up to a fixed depth, by which reading them also comes to an
end.  A byte order mark at the very start is skipped.
-/

set_option autoImplicit false

namespace Heartbeat.Toml

/-- How deep arrays and inline tables may be nested. -/
def nestingLimit : Nat := 80

/-! ## Keys -/

/-- Reads one part of a key. -/
def simpleKey : Reader String := fun text =>
  match text with
  | c :: _ =>
    if c = '\x22' || c = '\x27' then lineText text
    else
      let name := text.takeWhile isBareKey
      if name.isEmpty then none else some (String.ofList name, text.dropWhile isBareKey)
  | [] => none

/-- Reads the parts of a key after the first one.  Blanks may stand around the dots. -/
def keyRest : (steps : Nat) → Reader (List String)
  | 0, _ => none
  | steps + 1, text =>
    match skipBlanks text with
    | '.' :: rest =>
      match simpleKey (skipBlanks rest) with
      | none => none
      | some (part, rest) =>
        match keyRest steps rest with
        | none => none
        | some (parts, rest) => some (part :: parts, rest)
    | rest => some ([], rest)

/-- Reads a key: the parts that lead to a table, and the last one. -/
def key : Reader (List String × String) := fun text =>
  match simpleKey text with
  | none => none
  | some (first, rest) =>
    match keyRest (rest.length + 1) rest with
    | none => none
    | some (others, rest) =>
      let parts := first :: others
      some ((parts.dropLast, parts.getLastD first), rest)

/-- Reads a key, an equals sign and a value. -/
def keyValue (value : Reader Item) : Reader ((List String × String) × Item) := fun text =>
  match key text with
  | some (name, '=' :: rest) =>
    match value (skipBlanks rest) with
    | none => none
    | some (item, rest) => some ((name, item), rest)
  | _ => none

/-! ## Values -/

/-- Reads elements with commas between them, and possibly one after the last, up to a closing
character.  Blanks, comments and ends of lines may stand around the elements. -/
def elements {α : Type} (element : Reader α) (closing : Char) : (steps : Nat) → Reader (List α)
  | 0, _ => none
  | steps + 1, text =>
    match skipFiller false text with
    | none | some [] => none
    | some (c :: rest) =>
      if c = closing then some ([], rest)
      else
        match element (c :: rest) with
        | none => none
        | some (first, rest) =>
          match skipFiller false rest with
          | none | some [] => none
          | some (c :: rest) =>
            if c = closing then some ([first], rest)
            else if c = ',' then
              (elements element closing steps rest).map fun (others, rest) =>
                (first :: others, rest)
            else none

/-- A scalar as a value of a document. -/
def Item.ofScalar : Scalar → Item
  | .integer value => .integer value
  | .float literal => .float literal
  | .boolean value => .boolean value
  | .moment literal => .moment literal

/-- Reads a text or a scalar. -/
def simpleValue : Reader Item := fun text =>
  match text with
  | [] => none
  | c :: _ =>
    if c = '\x22' || c = '\x27' then (quotedText text).map fun (value, rest) => (.text value, rest)
    else (scalar text).map fun (value, rest) => (.ofScalar value, rest)

/-- Reads a value in which arrays and inline tables are nested at most so deep. -/
def value : (depth : Nat) → Reader Item
  | 0, text => simpleValue text
  | depth + 1, text =>
    match text with
    | '[' :: rest =>
      (elements (value depth) ']' (rest.length + 1) rest).map fun (items, rest) =>
        (.array items, rest)
    | '\x7b' :: rest =>
      match elements (keyValue (value depth)) '\x7d' (rest.length + 1) rest with
      | none => none
      | some (body, rest) =>
        (Entries.assignAll [] body).map fun entries => (.table .inline entries, rest)
    | _ => simpleValue text

/-! ## Lines -/

/-- What a line of a document says. -/
inductive Line where
  /-- A key gets a value. -/
  | entry (name : List String × String) (item : Item)
  /-- A table is opened. -/
  | tableHeader (name : List String × String)
  /-- One more table of an array is opened. -/
  | arrayHeader (name : List String × String)

/-- Reads a line that is not empty, up to the blanks at its end. -/
def line : Reader Line := fun text =>
  match text with
  | '[' :: '[' :: rest =>
    match key (skipBlanks rest) with
    | some (name, ']' :: ']' :: rest) => some (.arrayHeader name, rest)
    | _ => none
  | '[' :: rest =>
    match key (skipBlanks rest) with
    | some (name, ']' :: rest) => some (.tableHeader name, rest)
    | _ => none
  | _ =>
    (keyValue (value nestingLimit) text).map fun ((name, item), rest) =>
      (.entry name item, rest)

/-- Reads all lines. -/
def lines : (steps : Nat) → List Char → Option (List Line)
  | 0, _ => none
  | steps + 1, text =>
    match skipComment (skipBlanks text) with
    | [] => some []
    | rest =>
      match newline? rest with
      | some rest => lines steps rest
      | none =>
        match line (skipBlanks text) with
        | none => none
        | some (first, rest) =>
          match endOfLine rest with
          | none => none
          | some rest => (lines steps rest).map (first :: ·)

/-! ## Documents -/

/-- The leading entries of some lines, and the lines from the first header on. -/
def takeEntries : List Line → List ((List String × String) × Item) × List Line
  | .entry name item :: rest =>
    let (body, others) := takeEntries rest
    ((name, item) :: body, others)
  | others => ([], others)

/-- Adds the tables whose headers stand in some lines. -/
def addTables : (steps : Nat) → Entries → List Line → Option Entries
  | 0, _, _ => none
  | _ + 1, entries, [] => some entries
  | steps + 1, entries, .entry _ _ :: rest => addTables steps entries rest
  | steps + 1, entries, .tableHeader (path, key) :: rest =>
    let (body, others) := takeEntries rest
    match entries.addTable path key body with
    | none => none
    | some entries => addTables steps entries others
  | steps + 1, entries, .arrayHeader (path, key) :: rest =>
    let (body, others) := takeEntries rest
    match entries.addTableToArray path key body with
    | none => none
    | some entries => addTables steps entries others

/-- The entries that the lines of a document give. -/
def Entries.ofLines (lines : List Line) : Option Entries :=
  let (body, others) := takeEntries lines
  match assignAll [] body with
  | none => none
  | some entries => addTables (others.length + 1) entries others

/-- The text after a byte order mark, if it starts with one. -/
def skipByteOrderMark : List Char → List Char
  | c :: rest => if c.toNat = 0xFEFF then rest else c :: rest
  | [] => []

/-- The entries of a document, if it is well-formed. -/
def Entries.ofDocument? (document : String) : Option Entries :=
  let text := skipByteOrderMark document.toList
  match lines (text.length + 1) text with
  | none => none
  | some lines => ofLines lines

end Heartbeat.Toml
