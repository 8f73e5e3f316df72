import Blurb.Text.Decimal

/-! # TOML scalars

Strings in their four forms, and the scalars that are written without quotes: truth values,
integers, numbers with a fraction, dates and times. -/

namespace Blurb.Toml

open Text

/-! ## Characters -/

/-- A space or a tab. -/
def isGap (c : Char) : Bool := c == ' ' || c == '\t'

/-- A character that may stand in a comment or a string: no control character but the tab. -/
def isVisible (c : Char) : Bool := c == '\t' || (0x20 ≤ c.toNat && c.toNat != 0x7F)

/-- Moves over spaces and tabs. -/
def skipGap (t : Text) : Text := t.dropWhile isGap

/-- What follows a line break, if one starts here. -/
def newline? : Text → Option Text
  | '\n' :: rest => some rest
  | '\r' :: '\n' :: rest => some rest
  | _ => none

/-- Moves over spaces, tabs, and a comment that is well-formed as far as its line goes. -/
def skipComment (t : Text) : Text :=
  match skipGap t with
  | '#' :: rest => rest.dropWhile isVisible
  | rest => rest

/-- Moves over spaces, tabs, comments and line breaks. -/
def skipLines : Nat → Text → Text
  | 0, t => t
  | fuel + 1, t =>
    let rest := skipComment t
    match newline? rest with
    | some rest => skipLines fuel rest
    | none => rest

/-! ## Strings -/

/-- A character by its code, unless that names half of a surrogate pair or nothing at all. -/
def scalar? (digits : Text) : Option Char := do
  let n ← number? 16 digits
  if (0xD800 ≤ n ∧ n ≤ 0xDFFF) ∨ 0x10FFFF < n then none else some (Char.ofNat n)

/-- **An escape** behind its backslash, and what follows it. -/
def escape? : Text → Option (Char × Text)
  | 'b' :: rest => some ('\x08', rest)
  | 't' :: rest => some ('\t', rest)
  | 'n' :: rest => some ('\n', rest)
  | 'f' :: rest => some ('\x0c', rest)
  | 'r' :: rest => some ('\r', rest)
  | '"' :: rest => some ('"', rest)
  | '\\' :: rest => some ('\\', rest)
  | 'u' :: rest =>
    if (rest.take 4).length = 4 then (scalar? (rest.take 4)).map (·, rest.drop 4) else none
  | 'U' :: rest =>
    if (rest.take 8).length = 8 then (scalar? (rest.take 8)).map (·, rest.drop 8) else none
  | _ => none

/-- **A string on one line** behind its opening quote: its text and what follows its closing quote.
Only in double quotes a backslash starts an escape. -/
def line? (quote : Char) : Nat → Text → Option (Text × Text)
  | 0, _ => none
  | _ + 1, [] => none
  | fuel + 1, c :: rest =>
    if c = quote then some ([], rest)
    else if c = '\\' ∧ quote = '"' then do
      let (escaped, rest) ← escape? rest
      let (text, rest) ← line? quote fuel rest
      some (escaped :: text, rest)
    else if isVisible c then do
      let (text, rest) ← line? quote fuel rest
      some (c :: text, rest)
    else none

/-- Moves over all blanks and line breaks. -/
def skipBlank : Nat → Text → Text
  | 0, t => t
  | fuel + 1, t =>
    let rest := skipGap t
    match newline? rest with
    | some rest => skipBlank fuel rest
    | none => rest

/-- **A string of several lines** behind its opening quotes. Its last two characters may be quotes
themselves; a backslash at the end of a line joins the next text to it; every line break is a line
feed. -/
def block? (quote : Char) : Nat → Text → Option (Text × Text)
  | 0, _ => none
  | _ + 1, [] => none
  | fuel + 1, c :: rest =>
    if c = quote then
      let quotes := 1 + (rest.takeWhile (· == quote)).length
      -- one or two quotes are text; three to five close the string
      if quotes < 3 then (block? quote fuel rest).map fun (text, rest) => (c :: text, rest)
      else if 5 < quotes then none
      else some (List.replicate (quotes - 3) quote, rest.drop (quotes - 1))
    else
      match newline? (c :: rest) with
      | some rest => (block? quote fuel rest).map fun (text, rest) => ('\n' :: text, rest)
      | none =>
        if c = '\\' ∧ quote = '"' then
          if (newline? (skipGap rest)).isSome then block? quote fuel (skipBlank rest.length rest)
          else do
            let (escaped, rest) ← escape? rest
            let (text, rest) ← block? quote fuel rest
            some (escaped :: text, rest)
        else if isVisible c then
          (block? quote fuel rest).map fun (text, rest) => (c :: text, rest)
        else none

/-- **A string** that starts with the given quote character, which is not part of `rest`. -/
def string? (quote : Char) (rest : Text) : Option (Text × Text) :=
  match rest with
  | second :: third :: more =>
    if second = quote ∧ third = quote then
      block? quote (more.length + 1) ((newline? more).getD more)
    else line? quote (rest.length + 1) rest
  | _ => line? quote (rest.length + 1) rest

/-! ## Scalars without quotes -/

/-- **A scalar that is written without quotes.** -/
inductive Plain where
  /-- A truth value. -/
  | bool (b : Bool)
  /-- An integer. -/
  | integer (n : Int)
  /-- A number with a fraction. -/
  | float
  /-- A date, a time or both. -/
  | datetime
deriving Repr, DecidableEq

/-- A character of a scalar without quotes. -/
def isPlainChar (c : Char) : Bool :=
  isDigit c || ('a' ≤ c && c ≤ 'z') || ('A' ≤ c && c ≤ 'Z') || "+-._:".toList.contains c

/-- Digits of a base with single underscores between them, without the underscores. -/
def grouped? (base : Nat) (t : Text) : Option Text :=
  let groups := splitOn '_' t
  if groups.all fun group => !group.isEmpty && group.all fun c => (digit? base c).isSome then
    some groups.flatten
  else none

/-- A sign taken off, and whether it is a minus sign. -/
def stripSign : Text → Bool × Text
  | '+' :: rest => (false, rest)
  | '-' :: rest => (true, rest)
  | t => (false, t)

/-- The digits of a whole number without a leading zero. -/
def whole? (t : Text) : Option Text := do
  let digits ← grouped? 10 t
  if 1 < digits.length && digits.head? == some '0' then none else some digits

/-- **An integer**: decimal with a sign or none, or in base 16, 8 or 2 behind its mark. -/
def integer? (t : Text) : Option Int :=
  let natural (base : Nat) (digits : Text) : Option Int :=
    ((grouped? base digits).bind (number? base)).map Int.ofNat
  match t with
  | '0' :: 'x' :: rest => natural 16 rest
  | '0' :: 'o' :: rest => natural 8 rest
  | '0' :: 'b' :: rest => natural 2 rest
  | t =>
    let (negative, rest) := stripSign t
    (whole? rest).map fun digits =>
      if negative then -(decimal digits : Int) else decimal digits

/-- The integers that can be held: they have 128 bits. -/
def isHeld (n : Int) : Bool := -(bitBound 127 : Int) ≤ n && n < bitBound 128

/-- The exponent of a number: a sign or none, and digits. -/
def exponent? (t : Text) : Option Int :=
  let (negative, rest) := stripSign t
  (grouped? 10 rest).map fun digits =>
    if negative then -(decimal digits : Int) else decimal digits

/-- **A number with a fraction or an exponent** that is within double precision, or one of the
special numbers. -/
def isFloat (t : Text) : Bool :=
  let (_, body) := stripSign t
  if body == "inf".toList || body == "nan".toList then true
  else
    let run := body.takeWhile fun c => c != '.' && c != 'e' && c != 'E'
    let rest := body.drop run.length
    let (fraction, rest) : Option Text × Text := match rest with
      | '.' :: rest =>
        let digits := rest.takeWhile fun c => c != 'e' && c != 'E'
        (grouped? 10 digits, rest.drop digits.length)
      | rest => (some [], rest)
    let exponent : Option Int := match rest with
      -- without a fraction and an exponent it would be an integer
      | [] => if body.length = run.length then none else some 0
      | _ :: rest => exponent? rest
    match whole? run, fraction, exponent with
    | some whole, some fraction, some exponent =>
      !exceedsDouble (decimal (whole ++ fraction)) (exponent - fraction.length)
    | _, _, _ => false

/-- A number of exactly `n` digits at the start, and what follows. -/
def fixed? (n : Nat) (t : Text) : Option (Nat × Text) :=
  let digits := t.take n
  if digits.length = n && digits.all isDigit then some (decimal digits, t.drop n) else none

/-- The number of days of a month. -/
def daysIn (year month : Nat) : Nat :=
  if month = 2 then
    if year % 4 = 0 && (year % 100 != 0 || year % 400 = 0) then 29 else 28
  else if [4, 6, 9, 11].contains month then 30
  else 31

/-- A date, and what follows it. -/
def date? (t : Text) : Option Text := do
  let (year, t) ← fixed? 4 t
  let (month, t) ← fixed? 2 (← strip? ['-'] t)
  let (day, t) ← fixed? 2 (← strip? ['-'] t)
  if 1 ≤ month && month ≤ 12 && 1 ≤ day && day ≤ daysIn year month then some t else none

/-- A time, and what follows it. -/
def time? (t : Text) : Option Text := do
  let (hour, t) ← fixed? 2 t
  let (minute, t) ← fixed? 2 (← strip? [':'] t)
  let (second, t) ← fixed? 2 (← strip? [':'] t)
  if hour ≤ 23 && minute ≤ 59 && second ≤ 60 then
    match t with
    | '.' :: rest => if (digits rest).1.isEmpty then none else some (digits rest).2
    | t => some t
  else none

/-- The offset of a time: nothing, the letter of universal time, or hours and minutes. -/
def isOffset : Text → Bool
  | [] => true
  | ['Z'] | ['z'] => true
  | c :: rest =>
    (c == '+' || c == '-') &&
      match (do
        let (hour, t) ← fixed? 2 rest
        let (minute, t) ← fixed? 2 (← strip? [':'] t)
        some (hour ≤ 23 && minute ≤ 59 && t.isEmpty)) with
      | some valid => valid
      | none => false

/-- **A date, a time, or a date with a time** and perhaps its offset. -/
def isDatetime (t : Text) : Bool :=
  match date? t with
  | some [] => true
  | some (c :: rest) =>
    (c == 'T' || c == 't' || c == ' ') && (time? rest).any isOffset
  | none => time? t == some []

/-- A date behind which a space and a time follow. -/
def spacedTime? (run rest : Text) : Option (Text × Text) :=
  match date? run, rest with
  | some [], ' ' :: a :: b :: ':' :: _ =>
    if isDigit a && isDigit b then
      let time := (rest.drop 1).takeWhile isPlainChar
      some (run ++ ' ' :: time, rest.drop (1 + time.length))
    else none
  | _, _ => none

/-- **A scalar without quotes**, and what follows it. -/
def plain? (t : Text) : Option (Plain × Text) :=
  let run := t.takeWhile isPlainChar
  let (run, rest) := (spacedTime? run (t.drop run.length)).getD (run, t.drop run.length)
  if run == "true".toList then some (.bool true, rest)
  else if run == "false".toList then some (.bool false, rest)
  else match integer? run with
    | some n => if isHeld n then some (.integer n, rest) else none
    | none =>
      if isFloat run then some (.float, rest)
      else if isDatetime run then some (.datetime, rest)
      else none

end Blurb.Toml
