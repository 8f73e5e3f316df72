import Blurb.Shell.Word

/-! # Arithmetic of shell scripts

The value of an arithmetic expression over 64-bit integers, with the operators in their order of
binding. Truth is one and falsehood zero. -/

namespace Blurb.Shell.Arithmetic

/-- The binary operators, from those that bind least to those that bind most. -/
def levels : List (List Text) :=
  [["||"], ["&&"], ["|"], ["^"], ["&"], ["==", "!="], ["<=", ">=", "<", ">"], ["<<", ">>"],
    ["+", "-"], ["*", "/", "%"]].map fun level => level.map String.toList

/-- The text without the blanks that it starts with. -/
def skipBlanks (t : Text) : Text := t.dropWhile fun c => c == ' ' || c == '\t' || c == '\n'

/-- The binary operator that a text starts with: the longest there is. -/
def operator? (t : Text) : Option Text :=
  let found := levels.flatten.filter (Text.startsWith · t)
  (found.find? fun op => op.length == 2).or found.head?

/-- An integer cut down to 64 bits. -/
def wrap (n : Int) : Int := Int.bmod n (Text.bitBound 64)

/-- A truth value as an integer. -/
def ofBool (b : Bool) : Int := if b then 1 else 0

/-- **The value of a binary operator**; there is none for a division by zero. -/
def apply (op : Text) (a b : Int) : Option Int :=
  match String.ofList op with
  | "||" => some (ofBool (a != 0 || b != 0))
  | "&&" => some (ofBool (a != 0 && b != 0))
  | "|" => some (Int.ofNat ((BitVec.ofInt 64 a) ||| (BitVec.ofInt 64 b)).toNat)
  | "^" => some (Int.ofNat ((BitVec.ofInt 64 a) ^^^ (BitVec.ofInt 64 b)).toNat)
  | "&" => some (Int.ofNat ((BitVec.ofInt 64 a) &&& (BitVec.ofInt 64 b)).toNat)
  | "==" => some (ofBool (a == b))
  | "!=" => some (ofBool (a != b))
  | "<=" => some (ofBool (a ≤ b))
  | ">=" => some (ofBool (b ≤ a))
  | "<" => some (ofBool (a < b))
  | ">" => some (ofBool (b < a))
  | "<<" => some (a * Text.bitBound (b % 64).toNat)
  | ">>" => some (a / Text.bitBound (b % 64).toNat)
  | "+" => some (a + b)
  | "-" => some (a - b)
  | "*" => some (a * b)
  | "/" => if b = 0 then none else some (Int.tdiv a b)
  | "%" => if b = 0 then none else some (Int.tmod a b)
  | _ => none

/-- **The number that a text writes**: decimal, octal behind a zero, hexadecimal behind `0x`. -/
def numeral? : Text → Option Nat
  | '0' :: 'x' :: digits => Text.number? 16 digits
  | '0' :: 'X' :: digits => Text.number? 16 digits
  | '0' :: digits => if digits.isEmpty then some 0 else Text.number? 8 digits
  | digits => Text.number? 10 digits

/-- The integer that a text writes, with a sign if it likes. -/
def integer? (t : Text) : Option Int :=
  match t with
  | '-' :: digits => (numeral? digits).map fun n => -(n : Int)
  | '+' :: digits => (numeral? digits).map Int.ofNat
  | digits => (numeral? digits).map Int.ofNat

section

variable (lookup : Text → Option Text)

mutual

/-- The value of an operand, and the text behind it. A variable without a value counts as zero. -/
def operand : Nat → Text → Option (Int × Text)
  | 0, _ => none
  | fuel + 1, t =>
    match skipBlanks t with
    | '-' :: rest => (operand fuel rest).map fun (n, rest) => (wrap (-n), rest)
    | '+' :: rest => operand fuel rest
    | '!' :: rest => (operand fuel rest).map fun (n, rest) => (ofBool (n == 0), rest)
    | '~' :: rest => (operand fuel rest).map fun (n, rest) => (-n - 1, rest)
    | '(' :: rest => do
      let (n, rest) ← expression fuel levels rest
      some (n, ← Text.strip? [')'] (skipBlanks rest))
    | t => do
      let name := t.takeWhile isNameChar
      let value ←
        if isName name then
          match lookup name with
          | some value => if value.isEmpty then some 0 else integer? value
          | none => some 0
        else (numeral? name).map Int.ofNat
      some (wrap value, t.drop name.length)

/-- The value of an expression with operators of the given levels, and the text behind it. -/
def expression : Nat → List (List Text) → Text → Option (Int × Text)
  | 0, _, _ => none
  | fuel + 1, [], t => operand fuel t
  | fuel + 1, level :: levels, t => do
    let (left, rest) ← expression fuel levels t
    expressionFrom fuel level levels left rest

/-- The value of an expression that goes on behind its left operand. -/
def expressionFrom : Nat → List Text → List (List Text) → Int → Text → Option (Int × Text)
  | 0, _, _, _, _ => none
  | fuel + 1, level, levels, left, t =>
    let rest := skipBlanks t
    match operator? rest with
    | none => some (left, t)
    | some op =>
      if level.contains op then do
        let (right, rest) ← expression fuel levels (rest.drop op.length)
        expressionFrom fuel level levels (wrap (← apply op left right)) rest
      else some (left, t)

end

/-- **The value of an arithmetic expression** where variables have the given values. Each character
opens less than a dozen levels. -/
def value? (source : Text) : Option Int := do
  let source := if (skipBlanks source).isEmpty then ['0'] else source
  let (n, rest) ← expression lookup (16 * (source.length + 1)) levels source
  if (skipBlanks rest).isEmpty then some n else none

end

end Blurb.Shell.Arithmetic
