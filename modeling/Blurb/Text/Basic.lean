/-! # Texts

A text is a list of characters. This module holds the general operations on texts that the rest
of the library is written with: cutting at a separator, replacing a part, decimal numerals. -/

namespace Blurb

/-- **A text**: the list of its characters (Unicode scalar values). -/
abbrev Text := List Char

namespace Text

/-- The text `t` begins with `start`. -/
def startsWith (start t : Text) : Bool := start.isPrefixOf t

/-- The text `t` ends with `ending`. -/
def endsWith (ending t : Text) : Bool := ending.isSuffixOf t

/-- **What follows a given start**, if the text has that start. -/
def strip? : Text → Text → Option Text
  | [], t => some t
  | _ :: _, [] => none
  | p :: ps, c :: cs => if p = c then strip? ps cs else none

/-- **Cutting at every separator**: one more piece than there are separators, so that joining the
pieces with the separator gives the text back. -/
def splitOn (separator : Char) : Text → List Text
  | [] => [[]]
  | c :: rest =>
    if c = separator then [] :: splitOn separator rest
    else match splitOn separator rest with
      | [] => [[c]]
      | piece :: pieces => (c :: piece) :: pieces

theorem splitOn_ne_nil (separator : Char) (t : Text) : splitOn separator t ≠ [] := by
  cases t with
  | nil => simp [splitOn]
  | cons c rest =>
    simp only [splitOn]
    split
    · simp
    · split <;> simp

/-- Joining texts with a separator between them. -/
def join (separator : Text) : List Text → Text
  | [] => []
  | [t] => t
  | t :: u :: rest => t ++ separator ++ join separator (u :: rest)

@[simp] theorem join_nil (separator : Text) : join separator [] = [] := rfl

@[simp] theorem join_singleton (separator t : Text) : join separator [t] = t := rfl

/-- Cutting at a separator loses nothing. -/
theorem join_splitOn (separator : Char) (t : Text) :
    join [separator] (splitOn separator t) = t := by
  induction t with
  | nil => rfl
  | cons c rest ih =>
    obtain ⟨piece, pieces, h⟩ : ∃ piece pieces, splitOn separator rest = piece :: pieces := by
      cases hs : splitOn separator rest with
      | nil => exact absurd hs (splitOn_ne_nil _ _)
      | cons piece pieces => exact ⟨piece, pieces, rfl⟩
    rw [h] at ih
    by_cases hc : c = separator
    · subst hc
      simp [splitOn, h, join, ih]
    · cases pieces with
      | nil => simp_all [splitOn, join]
      | cons p ps => simp_all [splitOn, join]

/-- **Replacing every part equal to `pattern`**, from left to right and without overlap. An empty
pattern is found nowhere. -/
def replaceAll (pattern replacement : Text) : Text → Text
  | [] => []
  | c :: rest =>
    match pattern with
    | [] => c :: replaceAll pattern replacement rest
    | p :: ps =>
      if p = c ∧ ps.isPrefixOf rest = true then
        replacement ++ replaceAll pattern replacement (rest.drop ps.length)
      else c :: replaceAll pattern replacement rest
termination_by t => t.length
decreasing_by all_goals simp only [List.length_cons, List.length_drop]; omega

/-- The decimal numeral of a number. -/
def ofNat (n : Nat) : Text := Nat.toDigits 10 n

/-- The text holds the character `c`. -/
def has (c : Char) (t : Text) : Bool := t.contains c

/-- Cutting at the last `separator`: what stands before it and what stands after it. -/
def splitLast? (separator : Char) : Text → Option (Text × Text)
  | [] => none
  | c :: rest =>
    match splitLast? separator rest with
    | some (before, after) => some (c :: before, after)
    | none => if c = separator then some ([], rest) else none

/-- Cutting at the first `separator`: what stands before it and what stands after it. -/
def splitFirst? (separator : Char) : Text → Option (Text × Text)
  | [] => none
  | c :: rest =>
    if c = separator then some ([], rest)
    else (splitFirst? separator rest).map fun (before, after) => (c :: before, after)

/-- **The number of values that so many bits hold**, which bounds the numbers of that size. -/
def bitBound (bits : Nat) : Nat := Nat.pow 2 bits

/-- The value of a digit in a base up to sixteen. -/
def digit? (base : Nat) (c : Char) : Option Nat :=
  let value :=
    if '0' ≤ c ∧ c ≤ '9' then c.toNat - '0'.toNat
    else if 'a' ≤ c ∧ c ≤ 'f' then c.toNat - 'a'.toNat + 10
    else if 'A' ≤ c ∧ c ≤ 'F' then c.toNat - 'A'.toNat + 10
    else base
  if value < base then some value else none

/-- **The number that a non-empty text of digits writes** in a base up to sixteen. -/
def number? (base : Nat) (t : Text) : Option Nat :=
  match t with
  | [] => none
  | _ => t.foldl (fun n c => do some ((← n) * base + (← digit? base c))) (some 0)

end Text

end Blurb
