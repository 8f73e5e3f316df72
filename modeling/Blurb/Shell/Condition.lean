import Blurb.Files.Program
import Blurb.Shell.Arithmetic
import Blurb.Text.Raw

/-! # Conditions

What `test` decides: comparisons of texts and integers, questions on files, and their
combinations. -/

namespace Blurb.Shell.Condition

/-- **A test of one operand**, if there is one of that name. -/
def unary? (host : Host) (operator : Text) : Option (Text → Bool) :=
  let onFile (ask : Path → Bool) : Option (Text → Bool) := some fun t => ask (Text.ofRaw t)
  match String.ofList operator with
  | "-n" => some fun t => !t.isEmpty
  | "-z" => some fun t => t.isEmpty
  | "-e" => onFile host.holds
  | "-f" => onFile host.isFile
  | "-d" => onFile host.isDir
  | "-r" => onFile host.holds
  | "-w" => onFile host.holds
  | "-x" => onFile fun path => host.isDir path || host.isExecutable path
  | "-s" => onFile fun path =>
    host.isDir path || (host.tree.read? host.cwd path).any fun content => !content.isEmpty
  | "-h" => some fun _ => false
  | "-L" => some fun _ => false
  | "-t" => some fun _ => false
  | _ => none

/-- Two texts written by bytes, in ascending order. -/
def isBefore (a b : Text) : Bool := List.compareLex Ord.compare a b == .lt

/-- **A comparison**, if there is one of that name; it may ask for integers. -/
def binary? (operator : Text) : Option (Text → Text → Except Text Bool) :=
  let integer (t : Text) : Except Text Int :=
    let trimmed := (Arithmetic.skipBlanks (Arithmetic.skipBlanks t).reverse).reverse
    let digits := if trimmed.head? == some '-' then trimmed.drop 1 else trimmed
    match Text.number? 10 digits with
    | some n => .ok (if trimmed.head? == some '-' then -n else n)
    | none => .error ("Illegal number: ".toList ++ t)
  let onIntegers (ask : Int → Int → Bool) : Option (Text → Text → Except Text Bool) :=
    some fun a b => do .ok (ask (← integer a) (← integer b))
  match String.ofList operator with
  | "=" => some fun a b => .ok (a == b)
  | "!=" => some fun a b => .ok (a != b)
  | "<" => some fun a b => .ok (isBefore a b)
  | ">" => some fun a b => .ok (isBefore b a)
  | "-eq" => onIntegers fun a b => a == b
  | "-ne" => onIntegers fun a b => a != b
  | "-gt" => onIntegers fun a b => b < a
  | "-ge" => onIntegers fun a b => b ≤ a
  | "-lt" => onIntegers fun a b => a < b
  | "-le" => onIntegers fun a b => a ≤ b
  | _ => none

section

variable (host : Host)

mutual

/-- Conditions of which one must hold. -/
def disjunction : Nat → List Text → Except Text (Bool × List Text)
  | 0, _ => .error "argument expected".toList
  | fuel + 1, words => do
    let (left, rest) ← conjunction fuel words
    match rest with
    | ['-', 'o'] :: rest =>
      let (right, rest) ← disjunction fuel rest
      .ok (left || right, rest)
    | rest => .ok (left, rest)

/-- Conditions that must all hold. -/
def conjunction : Nat → List Text → Except Text (Bool × List Text)
  | 0, _ => .error "argument expected".toList
  | fuel + 1, words => do
    let (left, rest) ← primary fuel words
    match rest with
    | ['-', 'a'] :: rest =>
      let (right, rest) ← conjunction fuel rest
      .ok (left && right, rest)
    | rest => .ok (left, rest)

/-- A condition without `-a` and `-o`. A word in front of a comparison is an operand, whatever it
looks like. -/
def primary : Nat → List Text → Except Text (Bool × List Text)
  | 0, _ => .error "argument expected".toList
  | fuel + 1, words =>
    match words with
    | [] => .error "argument expected".toList
    | [word] => .ok (!word.isEmpty, [])
    | first :: second :: rest =>
      match binary? second, rest with
      | some compare, right :: rest => do .ok (← compare first right, rest)
      | _, _ =>
        if first == ['!'] then do
          let (holds, rest) ← primary fuel (second :: rest)
          .ok (!holds, rest)
        else if first == ['('] then do
          let (holds, rest) ← disjunction fuel (second :: rest)
          match rest with
          | [')'] :: rest => .ok (holds, rest)
          | _ => .error "closing paren expected".toList
        else match unary? host first with
          | some ask => .ok (ask second, rest)
          | none => .ok (!first.isEmpty, second :: rest)

end

/-- **The truth of a condition**, or why it has none; a complaint names the last word that was
understood. Each word opens less than four levels. -/
def holds (words : List Text) : Except Text Bool :=
  if words.isEmpty then .ok false
  else do
    let (truth, rest) ← disjunction host (4 * (words.length + 1)) words
    if rest.isEmpty then .ok truth
    else
      let understood := words.take (words.length - rest.length)
      .error (understood.getLast?.getD [] ++ ": unexpected operator".toList)

end

end Blurb.Shell.Condition
