import Blurb.Text.Basic

/-! # YAML tokens

The tokens that a YAML text is made of, and the cursor that moves over the text while they are
read: it knows the line, the column and the number of characters behind it. -/

namespace Blurb.Yaml

/-- **How a scalar is written.** -/
inductive Style where
  /-- Without quotes. -/
  | plain
  /-- In single quotes. -/
  | single
  /-- In double quotes. -/
  | double
  /-- As a block that keeps its line breaks. -/
  | literal
  /-- As a block that folds its line breaks. -/
  | folded
deriving Repr, DecidableEq

/-- **A YAML token.** -/
inductive Token where
  /-- A version directive. -/
  | version (major minor : Nat)
  /-- A directive that names a tag handle. -/
  | tagHandle (handle uri : Text)
  /-- `---` -/
  | documentStart
  /-- `...` -/
  | documentEnd
  /-- The end of the text. -/
  | streamEnd
  /-- A sequence starts with deeper indentation. -/
  | blockSequence
  /-- A mapping starts with deeper indentation. -/
  | blockMapping
  /-- The indentation ends. -/
  | blockEnd
  /-- `[` -/
  | flowSequence
  /-- `]` -/
  | flowSequenceEnd
  /-- An opening brace. -/
  | flowMapping
  /-- A closing brace. -/
  | flowMappingEnd
  /-- `-` before an item. -/
  | blockEntry
  /-- `,` between items. -/
  | flowEntry
  /-- A key follows. -/
  | key
  /-- A value follows. -/
  | value
  /-- A reference to an anchor. -/
  | alias (name : Text)
  /-- An anchor. -/
  | anchor (name : Text)
  /-- A tag: its handle and what follows that. -/
  | tag (handle suffix : Text)
  /-- A scalar. -/
  | scalar (style : Style) (text : Text)
deriving Repr, DecidableEq

/-! ## Characters -/

/-- A character that a YAML text may hold. -/
def isAllowed (c : Char) : Bool :=
  let n := c.toNat
  n == 9 || n == 10 || n == 13 || (0x20 ≤ n && n ≤ 0x7E) || n == 0x85 || (0xA0 ≤ n && n ≤ 0xD7FF) ||
    (0xE000 ≤ n && n ≤ 0xFFFD) || 0x10000 ≤ n

/-- A line break. -/
def isBreak (c : Char) : Bool :=
  c == '\n' || c == '\r' || c == '\u0085' || c == '\u2028' || c == '\u2029'

/-- A space or a tab. -/
def isGap (c : Char) : Bool := c == ' ' || c == '\t'

/-- A character of a name: a letter, a digit, a hyphen or an underscore. -/
def isNameChar (c : Char) : Bool :=
  ('0' ≤ c && c ≤ '9') || ('A' ≤ c && c ≤ 'Z') || ('a' ≤ c && c ≤ 'z') || c == '_' || c == '-'

/-- A character that stands for itself in a tag outside of brackets, or starts an escape there. -/
def isUriChar (c : Char) : Bool := isNameChar c || ";/?:@&=+$.%!~*'()".toList.contains c

/-! ## The cursor -/

/-- **A place in a text**: what follows it, and where it is. -/
structure Cursor where
  /-- What follows. -/
  rest : Text
  /-- The number of characters before. -/
  index : Nat := 0
  /-- The number of lines before. -/
  line : Nat := 0
  /-- The number of characters before on the line. -/
  column : Nat := 0
deriving Repr, DecidableEq

namespace Cursor

/-- The next character. -/
def peek? (cursor : Cursor) : Option Char := cursor.rest.head?

/-- The next character is `c`. -/
def isAt (cursor : Cursor) (c : Char) : Bool := cursor.peek? == some c

/-- The character after `n` others satisfies a condition. -/
def satisfies (cursor : Cursor) (n : Nat) (p : Char → Bool) : Bool := (cursor.rest[n]?).any p

/-- The text ends after `n` characters. -/
def endsAt (cursor : Cursor) (n : Nat) : Bool := (cursor.rest[n]?).isNone

/-- A space, a tab, a line break or the end follows after `n` characters. -/
def isGapAt (cursor : Cursor) (n : Nat) : Bool :=
  cursor.endsAt n || cursor.satisfies n fun c => isGap c || isBreak c

/-- A line break or the end follows. -/
def isLineEnd (cursor : Cursor) : Bool := cursor.endsAt 0 || cursor.satisfies 0 isBreak

/-- Moves over `n` characters of a line. -/
def skip (cursor : Cursor) (n : Nat) : Cursor :=
  { cursor with rest := cursor.rest.drop n, index := cursor.index + n, column := cursor.column + n }

/-- The characters of the line that satisfy a condition, and the place behind them. -/
def span (cursor : Cursor) (p : Char → Bool) : Text × Cursor :=
  let run := cursor.rest.takeWhile p
  (run, cursor.skip run.length)

/-- **Moves over a line break** and gives what it stands for: a line feed, or the separator itself
where it is one. -/
def readBreak (cursor : Cursor) : Text × Cursor :=
  let next (n : Nat) : Cursor :=
    { rest := cursor.rest.drop n, index := cursor.index + n, line := cursor.line + 1, column := 0 }
  match cursor.rest with
  | '\r' :: '\n' :: _ => (['\n'], next 2)
  | c :: _ =>
    if c == '\u2028' || c == '\u2029' then ([c], next 1)
    else if isBreak c then (['\n'], next 1)
    else ([], cursor)
  | [] => ([], cursor)

/-- Moves over spaces and tabs, and over a comment behind them. -/
def skipComment (cursor : Cursor) : Cursor :=
  let cursor := (cursor.span isGap).2
  if cursor.isAt '#' then (cursor.span fun c => !isBreak c).2 else cursor

/-- The line starts with `mark` three times, and nothing stands right behind it. -/
def isDocumentMark (cursor : Cursor) (mark : Char) : Bool :=
  cursor.column == 0 && cursor.rest.take 3 == [mark, mark, mark] && cursor.isGapAt 3

end Cursor

end Blurb.Yaml
