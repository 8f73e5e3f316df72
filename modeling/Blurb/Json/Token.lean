import Blurb.Text.Decimal

/-! # JSON tokens

The lexical part of JSON: punctuation, the three literal names, numbers as they are written, and
strings with their escapes resolved. -/

namespace Blurb.Json

open Text

/-- **A number as it is written.** -/
structure Numeral where
  /-- There is a minus sign. -/
  negative : Bool
  /-- The digits before the point. -/
  whole : Text
  /-- The digits behind the point, empty without one. -/
  fraction : Text
  /-- The exponent: whether it is negative, and its digits. -/
  exponent : Option (Bool × Text)
deriving Repr, DecidableEq

/-- **The natural number that a numeral writes**: there is no sign, no fraction and no exponent. -/
def Numeral.toNat? (n : Numeral) : Option Nat :=
  if n.negative || !n.fraction.isEmpty || n.exponent.isSome then none else some (decimal n.whole)

/-- The numeral is too large for a number of double precision. -/
def Numeral.isHuge (n : Numeral) : Bool :=
  let power : Int := match n.exponent with
    | none => 0
    | some (negative, digits) => if negative then -(decimal digits : Int) else decimal digits
  exceedsDouble (decimal (n.whole ++ n.fraction)) (power - n.fraction.length)

/-- **A token of a JSON text.** -/
inductive Token where
  /-- `[` -/
  | openArray
  /-- `]` -/
  | closeArray
  /-- An opening brace. -/
  | openObject
  /-- A closing brace. -/
  | closeObject
  /-- `:` -/
  | colon
  /-- `,` -/
  | comma
  /-- `null` -/
  | null
  /-- `true` or `false` -/
  | bool (b : Bool)
  /-- A number. -/
  | number (n : Numeral)
  /-- A string; nothing if an escape in it names half of a surrogate pair without the other. -/
  | string (t : Option Text)
deriving Repr, DecidableEq

/-- A character of a string, or the code unit of an escape. -/
inductive StringPart where
  /-- A character that stands for itself or has a short escape. -/
  | char (c : Char)
  /-- A code unit written as four hexadecimal digits. -/
  | unit (n : Nat)
deriving Repr, DecidableEq

/-- The character of a short escape. -/
def shortEscape? : Char → Option Char
  | '"' => some '"'
  | '\\' => some '\\'
  | '/' => some '/'
  | 'b' => some (Char.ofNat 8)
  | 'f' => some (Char.ofNat 12)
  | 'n' => some '\n'
  | 'r' => some '\r'
  | 't' => some '\t'
  | _ => none

/-- **The inside of a string** up to its closing quote, and what follows that. Control characters
have to be escaped. -/
def stringParts? : Text → Option (List StringPart × Text)
  | [] => none
  | '"' :: rest => some ([], rest)
  | '\\' :: 'u' :: a :: b :: c :: d :: rest => do
    let unit ← number? 16 [a, b, c, d]
    let (parts, rest) ← stringParts? rest
    some (.unit unit :: parts, rest)
  | '\\' :: c :: rest => do
    let escaped ← shortEscape? c
    let (parts, rest) ← stringParts? rest
    some (.char escaped :: parts, rest)
  | c :: rest =>
    if c.toNat < 0x20 || c = '\\' then none
    else do
      let (parts, rest) ← stringParts? rest
      some (.char c :: parts, rest)

/-- **The text of a string**: two code units of a surrogate pair make one character, and none of
them may stand alone. -/
def textOfParts? : List StringPart → Option Text
  | [] => some []
  | .char c :: rest => (textOfParts? rest).map (c :: ·)
  | .unit high :: .unit low :: rest =>
    if 0xD800 ≤ high ∧ high < 0xDC00 then
      if 0xDC00 ≤ low ∧ low < 0xE000 then
        (textOfParts? rest).map
          (Char.ofNat (0x10000 + (high - 0xD800) * 0x400 + (low - 0xDC00)) :: ·)
      else none
    else if 0xDC00 ≤ high ∧ high < 0xE000 then none
    else (textOfParts? (.unit low :: rest)).map (Char.ofNat high :: ·)
  | .unit n :: rest =>
    if 0xD800 ≤ n ∧ n < 0xE000 then none else (textOfParts? rest).map (Char.ofNat n :: ·)

/-- The digits behind a point, if there is a point; there must be one digit at least. -/
def fraction? : Text → Option (Text × Text)
  | '.' :: rest =>
    let (run, rest) := digits rest
    if run.isEmpty then none else some (run, rest)
  | t => some ([], t)

/-- The exponent, if there is one; it must have one digit at least. -/
def exponent? : Text → Option (Option (Bool × Text) × Text)
  | c :: rest =>
    if c = 'e' ∨ c = 'E' then
      let (negative, rest) := match rest with
        | '-' :: rest => (true, rest)
        | '+' :: rest => (false, rest)
        | rest => (false, rest)
      let (run, rest) := digits rest
      if run.isEmpty then none else some (some (negative, run), rest)
    else some (none, c :: rest)
  | [] => some (none, [])

/-- **A numeral** at the start of a text: digits without a leading zero, then a fraction and an
exponent where they are given. -/
def numeral? (t : Text) : Option (Numeral × Text) := do
  let (negative, t) := match t with
    | '-' :: rest => (true, rest)
    | t => (false, t)
  let (run, rest) := digits t
  let (whole, rest) ← match run with
    | [] => none
    | '0' :: more => some (['0'], more ++ rest)
    | run => some (run, rest)
  let (fraction, rest) ← fraction? rest
  let (exponent, rest) ← exponent? rest
  some (⟨negative, whole, fraction, exponent⟩, rest)

/-- **One token** at the start of a text that starts with the character `c`. -/
def token? (c : Char) (rest : Text) : Option (Token × Text) :=
  match c with
  | '[' => some (.openArray, rest)
  | ']' => some (.closeArray, rest)
  | '\x7b' => some (.openObject, rest)
  | '\x7d' => some (.closeObject, rest)
  | ':' => some (.colon, rest)
  | ',' => some (.comma, rest)
  | 'n' => (strip? ['u', 'l', 'l'] rest).map (.null, ·)
  | 't' => (strip? ['r', 'u', 'e'] rest).map (.bool true, ·)
  | 'f' => (strip? ['a', 'l', 's', 'e'] rest).map (.bool false, ·)
  | '"' => (stringParts? rest).map fun (parts, rest) => (.string (textOfParts? parts), rest)
  | c => (numeral? (c :: rest)).map fun (n, rest) => (.number n, rest)

/-- The characters that may stand between tokens. -/
def isSpace (c : Char) : Bool := c = ' ' || c = '\n' || c = '\t' || c = '\r'

/-- **The tokens of a text**, nothing if some part of it is no token. -/
def tokens? : Text → Option (List Token)
  | [] => some []
  | c :: rest =>
    if isSpace c then tokens? rest
    else
      match token? c rest with
      | none => none
      | some (token, after) =>
        if after.length ≤ rest.length then (tokens? after).map (token :: ·)
        else none   -- unreachable: a token takes a character at least
termination_by t => t.length

end Blurb.Json
