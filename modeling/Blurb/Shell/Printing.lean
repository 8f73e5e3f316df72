import Blurb.Shell.Arithmetic

/-! # Escapes and formats

What `echo` and `printf` print: escape sequences, and formats that are used again as long as there
are arguments. -/

namespace Blurb.Shell

/-- The character that an escape letter stands for. -/
def escapeLetter? (c : Char) : Option Char :=
  match c with
  | 'a' => some '\x07'
  | 'b' => some '\x08'
  | 'e' => some '\x1b'
  | 'f' => some '\x0c'
  | 'n' => some '\n'
  | 'r' => some '\x0d'
  | 't' => some '\t'
  | 'v' => some '\x0b'
  | '\\' => some '\\'
  | _ => none

/-- The octal digits that a text starts with, at most a number of them. -/
def octalDigits (count : Nat) (t : Text) : Text :=
  (t.take count).takeWhile fun c => '0' ≤ c && c ≤ '7'

/-- The character whose code is written by octal digits; it is cut down to a byte. -/
def octalChar (digits : Text) : Char := Char.ofNat ((Text.number? 8 digits).getD 0 % 256)

/-- **An escape sequence** behind its backslash: the character it stands for, and how many
characters it takes. What is no escape sequence stands for the backslash. -/
def escape (t : Text) : Char × Nat :=
  let digits := octalDigits 3 t
  if !digits.isEmpty then (octalChar digits, digits.length)
  else match t.head?.bind escapeLetter? with
    | some c => (c, 1)
    | none => ('\\', 0)

/-- **A text with escape sequences**, and whether one of them ends all printing. Here octal codes
stand behind a zero of their own. -/
def unescape : Text → Text × Bool
  | [] => ([], false)
  | c :: rest =>
    let more (c : Char) (size : Nat) : Text × Bool :=
      let (text, stopped) := unescape (rest.drop size)
      (c :: text, stopped)
    if c ≠ '\\' then more c 0
    else match rest with
      | 'c' :: _ => ([], true)
      | '0' :: digits =>
        let digits := octalDigits 3 digits
        more (octalChar digits) (digits.length + 1)
      | rest =>
        let (c, size) := escape rest
        more c size
termination_by t => t.length
decreasing_by simp only [List.length_cons, List.length_drop]; omega

/-- **What `echo` prints**: its words separated by blanks, and a line break unless the first word
asks for none. -/
def echoText (words : List Text) : Text :=
  let (words, ending) : List Text × Text :=
    match words with
    | ['-', 'n'] :: words => (words, [])
    | words => (words, ['\n'])
  let (text, stopped) := unescape (Text.join [' '] words)
  if stopped then text else text ++ ending

/-! ## Formats -/

/-- **A conversion** in a format. -/
structure Conversion where
  /-- The text stands at the left of its width. -/
  left : Bool := false
  /-- Numbers are filled up with zeros. -/
  zeros : Bool := false
  /-- Numbers have a sign in any case. -/
  plus : Bool := false
  /-- Positive numbers have a blank for a sign. -/
  blank : Bool := false
  /-- Numbers tell their base. -/
  alternate : Bool := false
  /-- The least width. -/
  width : Nat := 0
  /-- The most characters of a text, or the fewest digits of a number. -/
  precision : Option Nat := none
  /-- What kind of conversion it is. -/
  letter : Char
deriving Repr, DecidableEq

/-- A text filled up to a width. -/
def Conversion.pad (conversion : Conversion) (t : Text) : Text :=
  let fill := List.replicate (conversion.width - t.length) ' '
  if conversion.left then t ++ fill else fill ++ t

/-- A text cut down to the precision and filled up. -/
def Conversion.text (conversion : Conversion) (t : Text) : Text :=
  conversion.pad (match conversion.precision with
    | some n => t.take n
    | none => t)

/-- A number in a base, cut down to 64 bits if it is negative. -/
def Conversion.unsigned (base : Nat) (n : Int) : Text :=
  Nat.toDigits base (n % Text.bitBound 64).toNat

/-- The sign of a number, its digits, and what tells the base. -/
def Conversion.signAndDigits (conversion : Conversion) (n : Int) : Text × Text :=
  let mark (text : String) : Text := if conversion.alternate && n != 0 then text.toList else []
  match conversion.letter with
  | 'o' => (mark "0", unsigned 8 n)
  | 'u' => ([], unsigned 10 n)
  | 'x' => (mark "0x", unsigned 16 n)
  | 'X' => (mark "0X", (unsigned 16 n).map Char.toUpper)
  | _ =>
    (if n < 0 then ['-'] else if conversion.plus then ['+'] else if conversion.blank then [' ']
      else [], Text.ofNat n.natAbs)

/-- A number with its sign, filled up with zeros or blanks. -/
def Conversion.number (conversion : Conversion) (n : Int) : Text :=
  let (sign, digits) := conversion.signAndDigits n
  let least :=
    match conversion.precision with
    | some least => least
    | none => if conversion.zeros && !conversion.left then conversion.width - sign.length else 0
  conversion.pad (sign ++ List.replicate (least - digits.length) '0' ++ digits)

/-- **A part of a format.** -/
inductive Format.Part where
  /-- A character as it is. -/
  | char (c : Char)
  /-- A conversion of the next argument. -/
  | conversion (conversion : Conversion)
deriving Repr, DecidableEq

/-- The flags of a conversion, and what follows them. -/
def Conversion.flags (conversion : Conversion) : Text → Conversion × Text
  | '-' :: rest => flags { conversion with left := true } rest
  | '0' :: rest => flags { conversion with zeros := true } rest
  | '+' :: rest => flags { conversion with plus := true } rest
  | ' ' :: rest => flags { conversion with blank := true } rest
  | '#' :: rest => flags { conversion with alternate := true } rest
  | rest => (conversion, rest)

/-- A conversion behind its percent sign, and what follows it. -/
def Conversion.ofText? (t : Text) : Option (Conversion × Text) :=
  let (conversion, rest) := flags { letter := 's' } t
  let width := rest.takeWhile isDigit
  let rest := rest.drop width.length
  let (precision, rest) :=
    match rest with
    | '.' :: rest =>
      let digits := rest.takeWhile isDigit
      (some ((Text.number? 10 digits).getD 0), rest.drop digits.length)
    | rest => (none, rest)
  match rest with
  | letter :: rest =>
    if "sbcdiouxX".toList.contains letter then
      some ({ conversion with
        width := (Text.number? 10 width).getD 0, precision := precision, letter := letter }, rest)
    else none
  | [] => none

/-- **The parts of a format** as far as it is well-formed. -/
def formatParts : Nat → Text → List Format.Part
  | 0, _ => []
  | _ + 1, [] => []
  | fuel + 1, c :: rest =>
    if c = '\\' then
      let (c, size) := escape rest
      .char c :: formatParts fuel (rest.drop size)
    else if c = '%' then
      match rest with
      | '%' :: rest => .char '%' :: formatParts fuel rest
      | rest =>
        match Conversion.ofText? rest with
        | some (conversion, rest) => .conversion conversion :: formatParts fuel rest
        | none => []
    else .char c :: formatParts fuel rest

/-- **What has been printed** by a format. -/
structure Printing where
  /-- The text. -/
  text : Text := []
  /-- The arguments that are left. -/
  arguments : List Text := []
  /-- Complaints, in order. -/
  complaints : List Text := []
  /-- All printing has ended. -/
  stopped : Bool := false
deriving Repr, DecidableEq

/-- The longest start of a text that writes an integer. -/
def integerStart (t : Text) : Option (Int × Text) :=
  ((List.range (t.length + 1)).reverse.filterMap fun size =>
    (Arithmetic.integer? (t.take size)).map fun n => (n, t.drop size)).head?

/-- **The integer that an argument writes**: a number, or the code of the character behind a quote.
The complaint tells that there is none or that something is left. -/
def argumentInteger (t : Text) : Int × Option String :=
  match t with
  | [] => (0, none)
  | '\'' :: c :: _ => (c.toNat, none)
  | '"' :: c :: _ => (c.toNat, none)
  | t =>
    match integerStart (Arithmetic.skipBlanks t) with
    | none => (0, some ": expected numeric value")
    | some (n, rest) => (n, if rest.isEmpty then none else some ": not completely converted")

/-- Printing a conversion of an argument. -/
def Printing.convert (state : Printing) (conversion : Conversion) : Printing :=
  let argument := state.arguments.headD []
  let state := { state with arguments := state.arguments.drop 1 }
  match conversion.letter with
  | 's' => { state with text := state.text ++ conversion.text argument }
  | 'c' => { state with text := state.text ++ conversion.text (argument.take 1) }
  | 'b' =>
    let (text, stopped) := unescape argument
    { state with text := state.text ++ conversion.text text, stopped := stopped }
  | _ =>
    let (n, complaint) := argumentInteger argument
    { state with
      text := state.text ++ conversion.number n
      complaints := state.complaints ++ (complaint.map fun text => argument ++ text.toList).toList }

/-- Printing a part of a format. -/
def Printing.part (state : Printing) (part : Format.Part) : Printing :=
  if state.stopped then state
  else match part with
    | .char c => { state with text := state.text ++ [c] }
    | .conversion conversion => state.convert conversion

/-- Printing a format, again as long as it uses up arguments. -/
def Printing.all (parts : List Format.Part) : Nat → Printing → Printing
  | 0, state => state
  | fuel + 1, state =>
    let next := parts.foldl Printing.part state
    let isIdle := next.arguments.length == state.arguments.length
    if next.stopped || next.arguments.isEmpty || isIdle then next else all parts fuel next

/-- **What `printf` prints** for a format and arguments. Every use of the format but the last takes
an argument at least. -/
def printfText (format : Text) (arguments : List Text) : Printing :=
  Printing.all (formatParts (format.length + 1) format) (arguments.length + 1)
    { arguments := arguments }

end Blurb.Shell
