import Blurb.Yaml.Token

/-! # YAML scalars

Reading the text of a scalar: plain, quoted, or as a block. Line breaks inside are folded into
spaces, except in blocks that keep them. -/

namespace Blurb.Yaml

/-! ## Folding -/

/-- **The gap before the next characters of a scalar**: the blanks on a line, or the line breaks
that were met since the last character. -/
structure Gap where
  /-- Spaces and tabs that were met on the line. -/
  blanks : Text := []
  /-- A line break was met. -/
  broken : Bool := false
  /-- The first line break. -/
  first : Text := []
  /-- The line breaks after the first. -/
  later : Text := []
deriving Repr, DecidableEq

namespace Gap

/-- **What a gap stands for**: its blanks on a line; a single line break stands for a space, several
for all but the first. -/
def fold (gap : Gap) : Text :=
  if gap.broken then
    if gap.first == ['\n'] then (if gap.later.isEmpty then [' '] else gap.later)
    else gap.first ++ gap.later
  else gap.blanks

/-- Adds a space or a tab; behind a line break it is indentation. -/
def addBlank (gap : Gap) (c : Char) : Gap :=
  if gap.broken then gap else { gap with blanks := gap.blanks ++ [c] }

/-- Adds a line break. -/
def addBreak (gap : Gap) (text : Text) : Gap :=
  if gap.broken then { gap with later := gap.later ++ text }
  else { gap with blanks := [], broken := true, first := text }

end Gap

/-- **Moves over spaces, tabs and line breaks.** Where `minColumn` is given, no tab may stand to the
left of that column behind a line break. -/
def readGap? (minColumn : Option Nat) : Nat → Gap → Cursor → Option (Gap × Cursor)
  | 0, gap, cursor => some (gap, cursor)
  | fuel + 1, gap, cursor =>
    match cursor.peek? with
    | none => some (gap, cursor)
    | some c =>
      if isGap c then
        -- a tab must not stand for indentation
        if gap.broken && c == '\t' && minColumn.any (cursor.column < ·) then none
        else readGap? minColumn fuel (gap.addBlank c) (cursor.skip 1)
      else if isBreak c then
        let (text, cursor) := cursor.readBreak
        readGap? minColumn fuel (gap.addBreak text) cursor
      else some (gap, cursor)

/-! ## Plain scalars -/

/-- A run of characters of a plain scalar without gaps. Inside of brackets, a colon before another
indicator is an error. -/
def plainRun? (inFlow : Bool) : Text → Option Text
  | [] => some []
  | c :: rest =>
    if isGap c || isBreak c then some []
    else
      let next := rest.head?
      if inFlow && c == ':' && next.any (",?[]\x7b\x7d".toList.contains ·) then none
      else if c == ':' && (next.isNone || next.any fun d => isGap d || isBreak d) then some []
      else if inFlow && ",[]\x7b\x7d".toList.contains c then some []
      else (plainRun? inFlow rest).map (c :: ·)

/-- **A plain scalar**: its text, whether a line break follows it, and the place behind it. Outside
of brackets it ends at the first line that is indented less than `minColumn`. -/
def readPlain? (inFlow : Bool) (minColumn : Nat) : Nat → Text → Gap → Cursor →
    Option (Text × Bool × Cursor)
  | 0, text, gap, cursor => some (text, gap.broken, cursor)
  | fuel + 1, text, gap, cursor =>
    if cursor.isDocumentMark '-' || cursor.isDocumentMark '.' || cursor.isAt '#' then
      some (text, gap.broken, cursor)
    else do
      let run ← plainRun? inFlow cursor.rest
      let (text, gap) := if run.isEmpty then (text, gap) else (text ++ gap.fold ++ run, {})
      let cursor := cursor.skip run.length
      if cursor.satisfies 0 fun c => isGap c || isBreak c then
        let (gap, cursor) ← readGap? (some minColumn) cursor.rest.length gap cursor
        if !inFlow && cursor.column < minColumn then some (text, gap.broken, cursor)
        else readPlain? inFlow minColumn fuel text gap cursor
      else some (text, gap.broken, cursor)

/-! ## Quoted scalars -/

/-- The character of an escape with a single letter. -/
def letterEscape? (c : Char) : Option Char :=
  match c with
  | '0' => some '\x00'
  | 'a' => some '\x07'
  | 'b' => some '\x08'
  | 't' | '\t' => some '\t'
  | 'n' => some '\n'
  | 'v' => some '\x0b'
  | 'f' => some '\x0c'
  | 'r' => some '\r'
  | 'e' => some '\x1b'
  | ' ' => some ' '
  | '"' => some '"'
  | '/' => some '/'
  | '\\' => some '\\'
  | 'N' => some '\u0085'
  | '_' => some '\u00a0'
  | 'L' => some '\u2028'
  | 'P' => some '\u2029'
  | _ => none

/-- The number of hexadecimal digits behind the letter of an escape. -/
def escapeDigits? (c : Char) : Option Nat :=
  match c with
  | 'x' => some 2
  | 'u' => some 4
  | 'U' => some 8
  | _ => none

/-- **An escape** behind its backslash: the character and the length of the escape. -/
def escape? : Text → Option (Char × Nat)
  | [] => none
  | c :: rest =>
    match escapeDigits? c with
    | none => (letterEscape? c).map (·, 1)
    | some count => do
      let digits := rest.take count
      if digits.length < count then none
      else
        let n ← Text.number? 16 digits
        if (0xD800 ≤ n ∧ n ≤ 0xDFFF) ∨ 0x10FFFF < n then none else some (Char.ofNat n, 1 + count)

/-- A run of characters of a quoted scalar without gaps, up to its closing quote: the characters,
whether an escaped line break ended the run, and the place behind it. -/
def quotedRun? (isSingle : Bool) : Nat → Cursor → Option (Text × Bool × Cursor)
  | 0, cursor => some ([], false, cursor)
  | fuel + 1, cursor =>
    match cursor.rest with
    | [] => some ([], false, cursor)
    | c :: rest =>
      let more (c : Char) (n : Nat) : Option (Text × Bool × Cursor) :=
        (quotedRun? isSingle fuel (cursor.skip n)).map fun (run, rest) => (c :: run, rest)
      if isGap c || isBreak c then some ([], false, cursor)
      else if isSingle then
        if c == '\'' then
          if rest.head? == some '\'' then more '\'' 2 else some ([], false, cursor)
        else more c 1
      else if c == '"' then some ([], false, cursor)
      else if c == '\\' then
        if rest.head?.any isBreak then some ([], true, ((cursor.skip 1).readBreak).2)
        else do
          let (escaped, length) ← escape? rest
          more escaped (1 + length)
      else more c 1

/-- **A quoted scalar** behind its opening quote: its text and the place behind its closing
quote. -/
def readQuoted? (isSingle : Bool) : Nat → Text → Cursor → Option (Text × Cursor)
  | 0, _, _ => none
  | fuel + 1, text, cursor =>
    if cursor.isDocumentMark '-' || cursor.isDocumentMark '.' || cursor.endsAt 0 then none
    else do
      let (run, escapedBreak, cursor) ← quotedRun? isSingle cursor.rest.length cursor
      let text := text ++ run
      if cursor.isAt (if isSingle then '\'' else '"') then some (text, cursor.skip 1)
      else
        let (gap, cursor) ← readGap? none cursor.rest.length { broken := escapedBreak } cursor
        readQuoted? isSingle fuel (text ++ gap.fold) cursor

/-! ## Block scalars -/

/-- What happens to the line breaks at the end of a block. -/
inductive Chomping where
  /-- One of them stays. -/
  | clip
  /-- None of them stays. -/
  | strip
  /-- All of them stay. -/
  | keep
deriving Repr, DecidableEq

/-- The sign of a block header that tells the chomping. -/
def chomping? (cursor : Cursor) : Option (Chomping × Cursor) :=
  if cursor.isAt '+' then some (.keep, cursor.skip 1)
  else if cursor.isAt '-' then some (.strip, cursor.skip 1)
  else none

/-- The digit of a block header that tells the indentation, zero if there is none; the digit itself
must not be zero. -/
def indentDigit? (cursor : Cursor) : Option (Nat × Cursor) :=
  match cursor.peek?.bind (Text.digit? 10) with
  | none => some (0, cursor)
  | some 0 => none
  | some n => some (n, cursor.skip 1)

/-- **The header of a block** behind its indicator: chomping and indentation in either order. -/
def blockHeader? (cursor : Cursor) : Option (Chomping × Nat × Cursor) :=
  match chomping? cursor with
  | some (chomping, cursor) => do
    let (indent, cursor) ← indentDigit? cursor
    some (chomping, indent, cursor)
  | none => do
    let (indent, cursor) ← indentDigit? cursor
    if indent = 0 then some (.clip, 0, cursor)
    else
      match chomping? cursor with
      | some (chomping, cursor) => some (chomping, indent, cursor)
      | none => some (.clip, indent, cursor)

/-- **The empty lines before a line of a block**: their line breaks, the widest indentation met, and
the place where the next line starts. An indentation of zero is not yet known. -/
def blockBreaks? (indent : Nat) : Nat → Text → Nat → Cursor → Option (Text × Nat × Cursor)
  | 0, breaks, widest, cursor => some (breaks, widest, cursor)
  | fuel + 1, breaks, widest, cursor =>
    let spaces := (cursor.rest.takeWhile (· == ' ')).length
    let cursor := cursor.skip (if indent = 0 then spaces else min spaces (indent - cursor.column))
    let widest := max widest cursor.column
    if (indent = 0 || cursor.column < indent) && cursor.isAt '\t' then none
    else if cursor.satisfies 0 isBreak then
      let (text, cursor) := cursor.readBreak
      blockBreaks? indent fuel (breaks ++ text) widest cursor
    else some (breaks, widest, cursor)

/-- The lines of a block: its text so far, the line break behind the last line, the breaks of the
empty lines after it, and the place where the block ends. -/
def blockLines? (isLiteral : Bool) (indent : Nat) : Nat → Text → Text → Text → Bool → Cursor →
    Option (Text × Text × Text × Cursor)
  | 0, text, last, breaks, _, cursor => some (text, last, breaks, cursor)
  | fuel + 1, text, last, breaks, wasIndented, cursor =>
    if cursor.column = indent && !cursor.endsAt 0 then do
      let isIndented := cursor.satisfies 0 isGap
      -- lines that start with a blank keep the breaks around them
      let folded :=
        if !isLiteral && last == ['\n'] && !wasIndented && !isIndented then
          (if breaks.isEmpty then [' '] else [])
        else last
      let (line, cursor) := cursor.span fun c => !isBreak c
      let (last, cursor) := cursor.readBreak
      let text := text ++ folded ++ breaks ++ line
      let (breaks, _, cursor) ← blockBreaks? indent (cursor.rest.length + 1) [] 0 cursor
      blockLines? isLiteral indent fuel text last breaks isIndented cursor
    else some (text, last, breaks, cursor)

/-- **A block scalar** behind its indicator: its text and the place behind it. `parent` is the
indentation around it, nothing at the top. -/
def readBlock? (isLiteral : Bool) (parent : Option Nat) (cursor : Cursor) :
    Option (Text × Cursor) := do
  let (chomping, increment, cursor) ← blockHeader? cursor
  let cursor := cursor.skipComment
  if !cursor.isLineEnd then none
  else
    let cursor := (cursor.readBreak).2
    let given := if increment = 0 then 0 else parent.getD 0 + increment
    let (breaks, widest, cursor) ← blockBreaks? given (cursor.rest.length + 1) [] 0 cursor
    let least := match parent with
      | some column => column + 1
      | none => 1
    -- without a digit the first line that is not empty decides
    let indent := if given = 0 then max widest least else given
    let (text, last, breaks, cursor) ←
      blockLines? isLiteral indent (cursor.rest.length + 1) [] [] breaks false cursor
    match chomping with
    | .strip => some (text, cursor)
    | .clip => some (text ++ last, cursor)
    | .keep => some (text ++ last ++ breaks, cursor)

end Blurb.Yaml
