/-!
# Tables under construction

A TOML document is a table whose entries are given in any order, by dotted keys and under headers.
Which entries may still be added to a table depends on how the table came about, so each table
remembers its origin: written under a header, implied by the header of a table inside it, built by
dotted keys, or written inline.  A key is never given twice, a header never opens a table twice,
and what is written inline is complete.
-/

set_option autoImplicit false

namespace Heartbeat.Toml

/-- How a table came about. -/
inductive Origin where
  /-- It has a header of its own, or is the document itself. -/
  | header
  /-- A table inside it has a header. -/
  | implied
  /-- Dotted keys lead through it. -/
  | dotted
  /-- It was written inline. -/
  | inline
  deriving DecidableEq, Repr

/-- A value of a document. -/
inductive Item where
  /-- A text. -/
  | text (value : String)
  /-- A whole number. -/
  | integer (value : Int)
  /-- A number with a fraction or an exponent, as written. -/
  | float (literal : String)
  /-- A truth value. -/
  | boolean (value : Bool)
  /-- A date, a time or both, as written. -/
  | moment (literal : String)
  /-- An array that was written inline. -/
  | array (items : List Item)
  /-- An array of tables, each with a header. -/
  | tables (items : List Item)
  /-- A table. -/
  | table (origin : Origin) (entries : List (String × Item))

/-- Keys with their values, in the order of their first appearance. -/
abbrev Entries := List (String × Item)

namespace Entries

/-- The value of a key. -/
def get? : Entries → String → Option Item
  | [], _ => none
  | (name, item) :: others, key => if name = key then some item else get? others key

/-- Sets the value of a key, in its place if the key is there and at the end if not. -/
def put : Entries → String → Item → Entries
  | [], key, item => [(key, item)]
  | (name, old) :: others, key, item =>
    if name = key then (key, item) :: others else (name, old) :: put others key item

/-- Changes the entries of a table that dotted keys lead to, on a way on which missing tables are
made.  A table with a header of its own or an inline one is not entered. -/
def changeDotted (change : Origin → Entries → Option Entries) :
    (path : List String) → Origin → Entries → Option Entries
  | [], origin, entries => change origin entries
  | key :: path, _, entries =>
    match get? entries key with
    | none =>
      (changeDotted change path .dotted []).map fun inner => put entries key (.table .dotted inner)
    | some (.table origin inner) =>
      if origin = .header || origin = .inline then none
      else
        (changeDotted change path origin inner).map fun inner =>
          put entries key (.table origin inner)
    | some (.tables items) =>
      match items.getLast? with
      | some (.table origin inner) =>
        (changeDotted change path origin inner).map fun inner =>
          put entries key (.tables (items.dropLast ++ [.table origin inner]))
      | _ => none
    | some _ => none

/-- Gives a new key of a table a value.  The last table on the way has to have been built by dotted
keys exactly if there are any. -/
def assign (entries : Entries) (path : List String) (key : String) (item : Item) :
    Option Entries :=
  changeDotted
    (fun origin entries =>
      if decide (origin = .dotted) = path.isEmpty then none
      else if (get? entries key).isSome then none
      else some (put entries key item))
    path .header entries

/-- Gives new keys their values, one after the other. -/
def assignAll (entries : Entries) : List ((List String × String) × Item) → Option Entries
  | [] => some entries
  | ((path, key), item) :: others =>
    match assign entries path key item with
    | none => none
    | some entries => assignAll entries others

/-- Changes the entries of a table that a header leads to, on a way on which missing tables are
implied.  An inline table is not entered, and an array of tables at its last one. -/
def changeUnder (change : Entries → Option Entries) :
    (path : List String) → Entries → Option Entries
  | [], entries => change entries
  | key :: path, entries =>
    match get? entries key with
    | none =>
      (changeUnder change path []).map fun inner => put entries key (.table .implied inner)
    | some (.table origin inner) =>
      if origin = .inline then none
      else
        (changeUnder change path inner).map fun inner => put entries key (.table origin inner)
    | some (.tables items) =>
      match items.getLast? with
      | some (.table origin inner) =>
        (changeUnder change path inner).map fun inner =>
          put entries key (.tables (items.dropLast ++ [.table origin inner]))
      | _ => none
    | some _ => none

/-- Opens a table under a header and fills it.  The table is new or was only implied so far. -/
def addTable (entries : Entries) (path : List String) (key : String)
    (body : List ((List String × String) × Item)) : Option Entries :=
  changeUnder
    (fun entries =>
      let filled :=
        match get? entries key with
        | none => assignAll [] body
        | some (.table .implied inner) => assignAll inner body
        | some _ => none
      filled.map fun inner => put entries key (.table .header inner))
    path entries

/-- Opens one more table of an array of tables and fills it. -/
def addTableToArray (entries : Entries) (path : List String) (key : String)
    (body : List ((List String × String) × Item)) : Option Entries :=
  changeUnder
    (fun entries =>
      let older :=
        match get? entries key with
        | none => some []
        | some (.tables items) => some items
        | some _ => none
      match older, assignAll [] body with
      | some items, some inner => some (put entries key (.tables (items ++ [.table .header inner])))
      | _, _ => none)
    path entries

end Entries

end Heartbeat.Toml
