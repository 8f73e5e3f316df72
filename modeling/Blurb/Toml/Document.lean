import Blurb.Record
import Blurb.Toml.Scalar

/-! # TOML documents

A document is a table of tables. This module reads the lines of a text into it, with the rules on
which tables may be opened again, and offers its data to a reader of records. -/

namespace Blurb.Toml

open Text

/-- **A TOML value.** -/
inductive Value where
  /-- A string. -/
  | string (t : Text)
  /-- A scalar without quotes. -/
  | plain (p : Plain)
  /-- An array. -/
  | array (items : List Value)
  /-- A table. -/
  | table (entries : List (Text × Value))

/-! ## Tables under construction -/

/-- **What stands under a name** while a document is read. A table that was only named on the way to
another is implicit; one that was named by a dotted key is dotted. -/
inductive Item where
  /-- A value that is complete. -/
  | value (v : Value)
  /-- A table. -/
  | table (isImplicit dotted : Bool) (entries : List (Text × Item))
  /-- The tables of an array, the latest first. -/
  | tables (all : List (List (Text × Item)))

/-- A table whose entries are being read. -/
structure Table where
  /-- The table was only named on the way to another. -/
  isImplicit : Bool := false
  /-- The table was named by a dotted key. -/
  dotted : Bool := false
  /-- The entries. -/
  entries : List (Text × Item) := []

namespace Table

/-- What stands under a name. -/
def get? (table : Table) (name : Text) : Option Item := table.entries.lookup name

/-- Puts something under a name. -/
def set (table : Table) (name : Text) (item : Item) : Table :=
  let entries :=
    if (table.get? name).isSome then
      table.entries.map fun entry => if entry.1 == name then (name, item) else entry
    else table.entries ++ [(name, item)]
  { table with entries := entries }

/-- The table as an item. -/
def toItem (table : Table) : Item := .table table.isImplicit table.dotted table.entries

/-- **Changing the table at the end of a path of names.** Missing tables are made on the way; of an
array of tables the last is meant. A dotted key only leads through tables that no header has
named. -/
def change? (byDots : Bool) (change : Table → Option Table) : List Text → Table → Option Table
  | [], table => change table
  | name :: names, table =>
    match table.get? name with
    | none => do
      let inner ← change? byDots change names ⟨true, byDots, []⟩
      some (table.set name inner.toItem)
    | some (.value _) => none
    | some (.tables []) => none
    | some (.tables (last :: others)) => do
      let inner ← change? byDots change names ⟨false, false, last⟩
      some (table.set name (.tables (inner.entries :: others)))
    | some (.table isImplicit dotted entries) =>
      -- a header has closed this table for dotted keys
      if byDots && !isImplicit then none
      else do
        let inner ← change? byDots change names ⟨isImplicit, dotted, entries⟩
        some (table.set name inner.toItem)

/-- Splits a path into the names on the way and the last name. -/
def splitPath? (path : List Text) : Option (List Text × Text) :=
  path.getLast?.map fun last => (path.dropLast, last)

/-- **Entering a value under a key**, which may have dots. No key may be given twice. -/
def insert? (path : List Text) (value : Value) (table : Table) : Option Table := do
  let (way, name) ← splitPath? path
  change? true (fun inner =>
    -- dotted keys, and only they, fill tables that dots have made
    if inner.dotted = way.isEmpty then none
    else match inner.get? name with
      | some _ => none
      | none => some (inner.set name (.value value))) way table

/-- **Opening a table by its header.** A table that is there already must have been implicit. -/
def openTable? (path : List Text) (root : Table) : Option Table := do
  let (way, name) ← splitPath? path
  change? false (fun parent =>
    match parent.get? name with
    | none => some (parent.set name (.table false false []))
    | some (.table true false entries) => some (parent.set name (.table false false entries))
    | some _ => none) way root

/-- **Opening the next table of an array of tables.** -/
def openNext? (path : List Text) (root : Table) : Option Table := do
  let (way, name) ← splitPath? path
  change? false (fun parent =>
    match parent.get? name with
    | none => some (parent.set name (.tables [[]]))
    | some (.tables all) => some (parent.set name (.tables ([] :: all)))
    | some _ => none) way root

end Table

mutual

/-- The value of an item. -/
def Item.toValue : Item → Value
  | .value v => v
  | .table _ _ entries => .table (valueEntries entries)
  | .tables all => .array (valueTables all).reverse

/-- The values of entries. -/
def valueEntries : List (Text × Item) → List (Text × Value)
  | [] => []
  | (name, item) :: rest => (name, item.toValue) :: valueEntries rest

/-- The values of tables. -/
def valueTables : List (List (Text × Item)) → List Value
  | [] => []
  | entries :: rest => .table (valueEntries entries) :: valueTables rest

end

/-! ## Keys and values -/

/-- A character of a key without quotes. -/
def isKeyChar (c : Char) : Bool :=
  isDigit c || ('a' ≤ c && c ≤ 'z') || ('A' ≤ c && c ≤ 'Z') || c == '_' || c == '-'

/-- One part of a key, and what follows it. -/
def keyPart? (t : Text) : Option (Text × Text) :=
  match t with
  | '"' :: rest => line? '"' (rest.length + 1) rest
  | '\'' :: rest => line? '\'' (rest.length + 1) rest
  | t =>
    let run := t.takeWhile isKeyChar
    if run.isEmpty then none else some (run, t.drop run.length)

/-- **A key**: parts with dots between them. -/
def key? : Nat → Text → Option (List Text × Text)
  | 0, _ => none
  | fuel + 1, t => do
    let (part, rest) ← keyPart? (skipGap t)
    match skipGap rest with
    | '.' :: rest => (key? fuel rest).map fun (parts, rest) => (part :: parts, rest)
    | rest => some ([part], rest)

/-- The number of arrays and tables that may stand inside each other in a value. -/
def maxDepth : Nat := 80

/-- **A part of a value that is being read**, with the depth that is left and a bound on the
steps. -/
inductive Goal where
  /-- A value. -/
  | value
  /-- The items of an array behind the given ones, the latest first. -/
  | items (done : List Value)
  /-- The entries of a table in braces behind the given ones; the first needs no comma before
  it. -/
  | entries (isFirst : Bool) (done : Table)

/-- **Reading a value, an array or a table in braces**, and what follows it. -/
def read? : Nat → Nat → Goal → Text → Option (Value × Text)
  | 0, _, _, _ => none
  | fuel + 1, depth, .value, t =>
    match t, depth with
    | '"' :: rest, _ => (string? '"' rest).map fun (text, rest) => (.string text, rest)
    | '\'' :: rest, _ => (string? '\'' rest).map fun (text, rest) => (.string text, rest)
    | '[' :: rest, depth + 1 => read? fuel depth (.items []) rest
    | '\x7b' :: rest, depth + 1 => read? fuel depth (.entries true {}) rest
    | '[' :: _, 0 => none
    | '\x7b' :: _, 0 => none
    | t, _ => (plain? t).map fun (p, rest) => (.plain p, rest)
  | fuel + 1, depth, .items done, t =>
    match skipLines t.length t with
    | ']' :: rest => some (.array done.reverse, rest)
    | t => do
      let (value, rest) ← read? fuel depth .value t
      match skipLines rest.length rest with
      | ',' :: rest => read? fuel depth (.items (value :: done)) rest
      | ']' :: rest => some (.array (value :: done).reverse, rest)
      | _ => none
  | fuel + 1, depth, .entries isFirst done, t =>
    match skipGap t, isFirst with
    -- no comma may stand before the closing brace
    | '\x7d' :: rest, true => some (.table (valueEntries done.entries), rest)
    | t, _ => do
      let (path, rest) ← key? (t.length + 1) t
      let rest ← strip? ['='] (skipGap rest)
      let (value, rest) ← read? fuel depth .value (skipGap rest)
      let done ← done.insert? path value
      match skipGap rest with
      | ',' :: rest => read? fuel depth (.entries false done) rest
      | '\x7d' :: rest => some (.table (valueEntries done.entries), rest)
      | _ => none

/-! ## Lines -/

/-- **The state of reading**: all tables, and the path of the one that the last header has
opened. -/
structure Reading where
  /-- The root. -/
  root : Table := {}
  /-- The path of the current table. -/
  current : List Text := []

/-- A header behind its opening brackets: its key, and what follows the closing ones. -/
def header? (closing rest : Text) : Option (List Text × Text) := do
  let (path, rest) ← key? (rest.length + 1) rest
  some (path, ← strip? closing (skipGap rest))

/-- **The content of a line**: nothing, a header, or a key with its value. -/
def line (state : Reading) (t : Text) : Option (Reading × Text) :=
  match t with
  | '[' :: '[' :: rest => do
    let (path, rest) ← header? [']', ']'] rest
    some (⟨← state.root.openNext? path, path⟩, rest)
  | '[' :: rest => do
    let (path, rest) ← header? [']'] rest
    some (⟨← state.root.openTable? path, path⟩, rest)
  | t =>
    if t.isEmpty || t.head? == some '#' || (newline? t).isSome then some (state, t)
    else do
      let (path, rest) ← key? (t.length + 1) t
      let rest ← strip? ['='] (skipGap rest)
      let (value, rest) ← read? (2 * t.length + 2) maxDepth .value (skipGap rest)
      let root ← Table.change? false (Table.insert? path value) state.current state.root
      some ({ state with root := root }, rest)

/-- All lines of a text. -/
def lines? : Nat → Reading → Text → Option Reading
  | 0, _, _ => none
  | fuel + 1, state, t => do
    let (state, rest) ← line state (skipGap t)
    match skipComment rest with
    | [] => some state
    | rest => lines? fuel state (← newline? rest)

namespace Value

/-- **Reading a TOML text.** A byte order mark at its start does not count. -/
def parse? (t : Text) : Option Value := do
  let t := match t with
    | '\uFEFF' :: rest => rest
    | t => t
  let state ← lines? (t.length + 1) {} t
  some (.table (valueEntries state.root.entries))

/-! ## Records -/

/-- The text of a string. -/
def text? : Value → Option Text
  | string t => some t
  | _ => none

/-- A natural number below a bound. -/
def nat? (bound : Nat) : Value → Option Nat
  | plain (.integer (.ofNat n)) => if n < bound then some n else none
  | _ => none

/-- The items of an array. -/
def items? : Value → Option (List Value)
  | array items => some items
  | _ => none

/-- **A record with fields of the given names**: a table, or an array of the fields in order. Other
entries are ignored; a date or time is a record without any of the fields. -/
def record? (names : List Text) : Value → Option (Record Value)
  | table entries => some ⟨false, entries.filter fun entry => names.contains entry.1⟩
  | array items => some ⟨true, names.zip items⟩
  | plain .datetime => some ⟨false, []⟩
  | _ => none

/-- A choice: its name, or a table with its name as the only entry and nothing in that. -/
def choice? : Value → Option Text
  | string t => some t
  | table [(name, table [])] => some name
  | table [(name, array [])] => some name
  | _ => none

/-- **What TOML offers to a reader of records.** Nothing in it says that there is nothing. -/
def format : Format Value where
  record? := record?
  text? := text?
  nat? := nat?
  items? := items?
  present? := fun value => some (some value)
  choice? := choice?

end Value

end Blurb.Toml
