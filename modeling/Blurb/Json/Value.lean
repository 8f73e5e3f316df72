import Blurb.Text.Basic

/-! # JSON values and their printed form

The values that reports are made of, and how they are printed: over several lines, indented by two
blanks a level, members in the order they have. -/

namespace Blurb.Json

open Text

/-- **A JSON value of a report.** Members of objects keep their order. -/
inductive Value where
  /-- The null value. -/
  | null
  /-- A truth value. -/
  | bool (b : Bool)
  /-- A natural number. -/
  | nat (n : Nat)
  /-- A string. -/
  | str (t : Text)
  /-- An array. -/
  | arr (items : List Value)
  /-- An object. -/
  | obj (members : List (Text × Value))

namespace Value

/-- A string, or null where there is none. -/
def ofText? : Option Text → Value
  | some t => str t
  | none => null

end Value

/-- An object member with its name written as a literal. -/
def member (name : String) (value : Value) : Text × Value := (name.toList, value)

/-- A hexadecimal digit. -/
def hexDigit (n : Nat) : Char := Nat.digitChar (n % 16)

/-- **A character inside a string**: quotes, backslashes and control characters are escaped, with
the short escapes where there are any; everything else stands for itself. -/
def escapeChar (c : Char) : Text :=
  if c = '"' then ['\\', '"']
  else if c = '\\' then ['\\', '\\']
  else if c.toNat < 0x20 then
    if c = '\n' then ['\\', 'n']
    else if c = '\r' then ['\\', 'r']
    else if c = '\t' then ['\\', 't']
    else if c.toNat = 8 then ['\\', 'b']
    else if c.toNat = 12 then ['\\', 'f']
    else ['\\', 'u', '0', '0', hexDigit (c.toNat / 16), hexDigit c.toNat]
  else [c]

/-- A string in quotes. -/
def quote (t : Text) : Text := '"' :: t.flatMap escapeChar ++ ['"']

/-- A line break and the indentation of a level. -/
def newline (depth : Nat) : Text := '\n' :: List.replicate (2 * depth) ' '

/-- Parts between brackets, one a line; brackets without parts stand together. -/
def bracketed (depth : Nat) (opening closing : Char) (parts : List Text) : Text :=
  if parts.isEmpty then [opening, closing]
  else
    opening :: newline (depth + 1) ++ join (',' :: newline (depth + 1)) parts ++
      newline depth ++ [closing]

mutual

/-- **Printing a value** at a level of indentation. -/
def Value.pretty (depth : Nat) : Value → Text
  | .null => "null".toList
  | .bool true => "true".toList
  | .bool false => "false".toList
  | .nat n => ofNat n
  | .str t => quote t
  | .arr items => bracketed depth '[' ']' (prettyItems (depth + 1) items)
  | .obj members => bracketed depth '\x7b' '\x7d' (prettyMembers (depth + 1) members)

/-- The items of an array, printed one by one. -/
def prettyItems (depth : Nat) : List Value → List Text
  | [] => []
  | item :: items => item.pretty depth :: prettyItems depth items

/-- The members of an object, printed one by one. -/
def prettyMembers (depth : Nat) : List (Text × Value) → List Text
  | [] => []
  | (name, value) :: members =>
    (quote name ++ [':', ' '] ++ value.pretty depth) :: prettyMembers depth members

end

/-- **A JSON document**: a value printed from the left margin, with a final line break. -/
def Value.document (value : Value) : Text := value.pretty 0 ++ ['\n']

end Blurb.Json
