import Blurb.Yaml.Scalar

/-! # Reading YAML tokens

The tokens of a whole text. Indentation is turned into tokens for where a collection starts and
ends; a key that is only known as one by the colon behind it gets its token afterwards. -/

namespace Blurb.Yaml

/-- **Something that may turn out to be a key**: it has to end on its line, after not too many
characters, with a colon. -/
structure Candidate where
  /-- Without a colon behind it the text is malformed. -/
  required : Bool
  /-- The number of tokens before it. -/
  position : Nat
  /-- Where it starts. -/
  index : Nat
  /-- The line on which it starts. -/
  line : Nat
  /-- The column in which it starts. -/
  column : Nat
deriving Repr, DecidableEq

/-- **The state of reading.** Tokens are only appended; those that belong further up are kept with
the number of tokens before them. -/
structure Lexer where
  /-- The place in the text. -/
  cursor : Cursor
  /-- The tokens so far, the latest first. -/
  tokens : List Token := []
  /-- The number of tokens so far. -/
  count : Nat := 0
  /-- Tokens to be put before the token with the given number, the latest first. -/
  belated : List (Nat × List Token) := []
  /-- The indentation; nothing outside of block collections. -/
  indent : Option Nat := none
  /-- The indentations around it. -/
  outer : List (Option Nat) := []
  /-- The candidate inside of each open bracket, the innermost first. -/
  flow : List (Option Candidate) := []
  /-- The candidate outside of brackets. -/
  candidate : Option Candidate := none
  /-- A candidate may start here. -/
  mayStart : Bool := true

namespace Lexer

/-- A bracket is open. -/
def inFlow (s : Lexer) : Bool := !s.flow.isEmpty

/-- Appends a token. -/
def push (s : Lexer) (token : Token) : Lexer :=
  { s with tokens := token :: s.tokens, count := s.count + 1 }

/-- Moves on by `n` characters. -/
def skip (s : Lexer) (n : Nat) : Lexer := { s with cursor := s.cursor.skip n }

/-! ## Candidates for keys -/

/-- The innermost candidate. -/
def current (s : Lexer) : Option Candidate :=
  match s.flow with
  | [] => s.candidate
  | candidate :: _ => candidate

/-- Replaces the innermost candidate. -/
def setCurrent (s : Lexer) (candidate : Option Candidate) : Lexer :=
  match s.flow with
  | [] => { s with candidate := candidate }
  | _ :: outer => { s with flow := candidate :: outer }

/-- **Giving up the innermost candidate**, which is an error if it has to be a key. -/
def giveUp? (s : Lexer) : Option Lexer :=
  if s.current.any Candidate.required then none else some (s.setCurrent none)

/-- **Noting a candidate** at this place, if one may start here. -/
def note? (s : Lexer) : Option Lexer :=
  if s.mayStart then do
    let s ← s.giveUp?
    let column := s.cursor.column
    some (s.setCurrent (some ⟨!s.inFlow && s.indent == some column, s.count, s.cursor.index,
      s.cursor.line, column⟩))
  else some s

/-- The greatest distance between the start of a key and its colon. -/
def maxKeyLength : Nat := 1024

/-- A candidate that is no longer one: its line has ended, or it is too long. -/
def isStale (cursor : Cursor) (candidate : Candidate) : Bool :=
  candidate.line < cursor.line || candidate.index + maxKeyLength < cursor.index

/-- Drops a candidate that is stale, which is an error if it has to be a key. -/
def dropStale? (cursor : Cursor) : Option Candidate → Option (Option Candidate)
  | none => some none
  | some candidate =>
    if isStale cursor candidate then (if candidate.required then none else some none)
    else some (some candidate)

/-- Drops all stale candidates. -/
def dropAllStale? (s : Lexer) : Option Lexer := do
  let candidate ← dropStale? s.cursor s.candidate
  let flow ← s.flow.mapM (dropStale? s.cursor)
  some { s with candidate := candidate, flow := flow }

/-! ## Indentation -/

/-- A column lies deeper than an indentation. -/
def isDeeper (indent : Option Nat) (column : Nat) : Bool :=
  match indent with
  | none => true
  | some indent => indent < column

/-- A collection that starts in a column starts deeper indentation. Inside of brackets there is
none. -/
def deepens (s : Lexer) (column : Nat) : Bool := !s.inFlow && isDeeper s.indent column

/-- The indentation of a collection that starts in a column. -/
def indentBy (s : Lexer) (column : Nat) : Lexer :=
  { s with indent := some column, outer := s.indent :: s.outer }

/-- **A collection starts here**, if it starts deeper indentation. -/
def startHere (s : Lexer) (start : Token) : Lexer :=
  let column := s.cursor.column
  if s.deepens column then (s.indentBy column).push start else s

/-- The indentations that end where a column is reached. -/
def closeFrom (column : Option Nat) :
    Option Nat → List (Option Nat) → Nat × Option Nat × List (Option Nat)
  | none, outer => (0, none, outer)
  | some indent, outer =>
    -- the column still belongs to this collection
    if column.any (indent ≤ ·) then (0, some indent, outer)
    else
      match outer with
      | [] => (1, none, [])
      | next :: outer =>
        let (n, indent, outer) := closeFrom column next outer
        (n + 1, indent, outer)

/-- **Closing the collections** that are indented deeper than a column; all of them where there is
no column. -/
def closeTo (s : Lexer) (column : Option Nat) : Lexer :=
  if s.inFlow then s
  else
    let (n, indent, outer) := closeFrom column s.indent s.outer
    let s := (List.range n).foldl (fun s _ => s.push .blockEnd) s
    { s with indent := indent, outer := outer }

/-! ## Tokens -/

/-- Moves over blanks, comments and line breaks to the next token. A tab is no blank where a key
could start. -/
def toNextToken : Nat → Lexer → Lexer
  | 0, s => s
  | fuel + 1, s =>
    let cursor := s.cursor
    -- a mark of byte order may stand at the start of any line
    let cursor := if cursor.column == 0 && cursor.isAt '\uFEFF' then cursor.skip 1 else cursor
    let tabs := s.inFlow || !s.mayStart
    let cursor := (cursor.span fun c => c == ' ' || (tabs && c == '\t')).2
    let cursor := if cursor.isAt '#' then (cursor.span fun c => !isBreak c).2 else cursor
    if cursor.satisfies 0 isBreak then
      toNextToken fuel
        { s with cursor := (cursor.readBreak).2, mayStart := s.mayStart || !s.inFlow }
    else { s with cursor := cursor }

/-- A token that ends every collection and stands alone on its line. -/
def documentMark? (s : Lexer) (token : Token) (length : Nat) : Option Lexer := do
  let s ← (s.closeTo none).giveUp?
  some (({ s with mayStart := false }.skip length).push token)

/-- The end of the text. -/
def streamEnd? (s : Lexer) : Option Lexer := do
  let s ← (s.closeTo none).giveUp?
  some ({ s with mayStart := false }.push .streamEnd)

/-- An opening bracket. -/
def openFlow? (s : Lexer) (token : Token) : Option Lexer := do
  let s ← s.note?
  some (({ s with flow := none :: s.flow, mayStart := true }.skip 1).push token)

/-- A closing bracket. -/
def closeFlow? (s : Lexer) (token : Token) : Option Lexer := do
  let s ← s.giveUp?
  some (({ s with flow := s.flow.drop 1, mayStart := false }.skip 1).push token)

/-- A comma between brackets. -/
def comma? (s : Lexer) : Option Lexer := do
  let s ← s.giveUp?
  some (({ s with mayStart := true }.skip 1).push .flowEntry)

/-- A hyphen before an item. -/
def hyphen? (s : Lexer) : Option Lexer := do
  let s ←
    if s.inFlow then some s
    else if !s.mayStart then none
    else some (s.startHere .blockSequence)
  let s ← s.giveUp?
  some (({ s with mayStart := true }.skip 1).push .blockEntry)

/-- A question mark before a key. -/
def key? (s : Lexer) : Option Lexer := do
  let s ←
    if s.inFlow then some s
    else if !s.mayStart then none
    else some (s.startHere .blockMapping)
  let s ← s.giveUp?
  some (({ s with mayStart := !s.inFlow }.skip 1).push .key)

/-- **A colon before a value.** It makes the innermost candidate a key; a mapping that starts with
that key starts before it. -/
def value? (s : Lexer) : Option Lexer := do
  let s ←
    match s.current with
    | some candidate =>
      -- the tokens belong before the key, which has been read already
      let deeper := s.deepens candidate.column
      let starts := if deeper then [.blockMapping, .key] else [.key]
      let s := if deeper then s.indentBy candidate.column else s
      some { s.setCurrent none with
        mayStart := false
        belated := (candidate.position, starts) :: s.belated }
    | none =>
      if s.inFlow then some { s with mayStart := false }
      else if !s.mayStart then none
      else some { s.startHere .blockMapping with mayStart := true }
  some ((s.skip 1).push .value)

/-- A name behind `&` or `*`; something that cannot belong to a name has to follow. -/
def name? (s : Lexer) (token : Text → Token) : Option Lexer := do
  let s ← s.note?
  let (name, cursor) := (s.cursor.skip 1).span isNameChar
  if name.isEmpty then none
  else if cursor.isGapAt 0 || cursor.satisfies 0 ("?:,]\x7d%@`".toList.contains ·) then
    some ({ s with cursor := cursor, mayStart := false }.push (token name))
  else none

/-- A quoted scalar. -/
def quoted? (s : Lexer) (isSingle : Bool) : Option Lexer := do
  let s ← s.note?
  let (text, cursor) ← readQuoted? isSingle (s.cursor.rest.length + 1) [] (s.cursor.skip 1)
  some ({ s with cursor := cursor, mayStart := false }.push
    (.scalar (if isSingle then .single else .double) text))

/-- A block scalar. -/
def block? (s : Lexer) (isLiteral : Bool) : Option Lexer := do
  let s ← s.giveUp?
  let (text, cursor) ← readBlock? isLiteral s.indent (s.cursor.skip 1)
  some ({ s with cursor := cursor, mayStart := true }.push
    (.scalar (if isLiteral then .literal else .folded) text))

/-- A plain scalar. -/
def plain? (s : Lexer) : Option Lexer := do
  let s ← s.note?
  let minColumn := match s.indent with
    | some column => column + 1
    | none => 0
  let (text, broken, cursor) ←
    readPlain? s.inFlow minColumn (s.cursor.rest.length + 1) [] {} s.cursor
  some ({ s with cursor := cursor, mayStart := broken }.push (.scalar .plain text))

/-! ## Tags and directives -/

/-- The number of octets of a character by its first octet. -/
def octetCount? (octet : Nat) : Option Nat :=
  if octet < 0x80 then some 1
  else if 0xC0 ≤ octet ∧ octet < 0xE0 then some 2
  else if 0xE0 ≤ octet ∧ octet < 0xF0 then some 3
  else if 0xF0 ≤ octet ∧ octet < 0xF8 then some 4
  else none

/-- An octet that is written as a percent sign and two hexadecimal digits. -/
def octet? : Text → Option (Nat × Text)
  | '%' :: a :: b :: rest => (Text.number? 16 [a, b]).map (·, rest)
  | _ => none

/-- The octets of a character that follow its first. -/
def octets? : Nat → Nat → Text → Option (Nat × Text)
  | 0, bits, rest => some (bits, rest)
  | n + 1, bits, rest => do
    let (octet, rest) ← octet? rest
    if octet / 64 = 2 then octets? n (bits * 64 + octet % 64) rest else none

/-- A character that is written as octets, and the number of characters that they take. -/
def uriEscape? (t : Text) : Option (Char × Nat) := do
  let (octet, rest) ← octet? t
  let count ← octetCount? octet
  let bits := match count with
    | 1 => octet
    | 2 => octet % 32
    | 3 => octet % 16
    | _ => octet % 8
  let (bits, _) ← octets? (count - 1) bits rest
  some (Char.ofNat bits, 3 * count)

/-- **The characters of a tag**; between angle brackets some more are allowed. -/
def uri? (verbatim : Bool) : Nat → Cursor → Option (Text × Cursor)
  | 0, cursor => some ([], cursor)
  | fuel + 1, cursor =>
    match cursor.peek? with
    | none => some ([], cursor)
    | some '%' => do
      let (c, length) ← uriEscape? cursor.rest
      let (text, cursor) ← uri? verbatim fuel (cursor.skip length)
      some (c :: text, cursor)
    | some c =>
      if isUriChar c || (verbatim && (c == ',' || c == '[' || c == ']')) then do
        let (text, cursor) ← uri? verbatim fuel (cursor.skip 1)
        some (c :: text, cursor)
      else some ([], cursor)

/-- A tag handle at an exclamation mark: the mark, a name, and a second mark if there is one. -/
def handle (cursor : Cursor) : Text × Cursor :=
  let (name, next) := (cursor.skip 1).span isNameChar
  if next.isAt '!' then ('!' :: name ++ ['!'], next.skip 1) else ('!' :: name, next)

/-- **A tag**: between angle brackets, with a handle, or with a single exclamation mark. -/
def tag? (s : Lexer) : Option Lexer := do
  let s ← s.note?
  let cursor := s.cursor
  let (token, cursor) ←
    if cursor.satisfies 1 (· == '<') then do
      let (text, cursor) ← uri? true cursor.rest.length (cursor.skip 2)
      if text.isEmpty || !cursor.isAt '>' then none else some (Token.tag [] text, cursor.skip 1)
    else do
      let (head, next) := handle cursor
      let (text, cursor) ← uri? false next.rest.length next
      if 1 < head.length && head.getLast? == some '!' then
        if text.isEmpty then none else some (Token.tag head text, cursor)
      else
        let suffix := head.drop 1 ++ text
        if suffix.isEmpty then some (Token.tag [] ['!'], cursor)
        else some (Token.tag ['!'] suffix, cursor)
  if cursor.isGapAt 0 || (s.inFlow && cursor.isAt ',') then
    some ({ s with cursor := cursor, mayStart := false }.push token)
  else none

/-- A number of a version: one to nine digits. -/
def versionNumber? (cursor : Cursor) : Option (Nat × Cursor) := do
  let (digits, cursor) := cursor.span fun c => '0' ≤ c && c ≤ '9'
  if 9 < digits.length then none else some (← Text.number? 10 digits, cursor)

/-- What follows the name of a directive. -/
def directiveValue? (name : Text) (cursor : Cursor) : Option (Token × Cursor) := do
  let cursor := (cursor.span isGap).2
  if name == "YAML".toList then do
    let (major, cursor) ← versionNumber? cursor
    if !cursor.isAt '.' then none
    else
      let (minor, cursor) ← versionNumber? (cursor.skip 1)
      some (.version major minor, cursor)
  else if name == "TAG".toList then
    if !cursor.isAt '!' then none
    else
      let (head, cursor) := handle cursor
      if (1 < head.length && head.getLast? != some '!') || !cursor.satisfies 0 isGap then none
      else do
        let cursor := (cursor.span isGap).2
        let (text, cursor) ← uri? true cursor.rest.length cursor
        if text.isEmpty || !cursor.isGapAt 0 then none else some (.tagHandle head text, cursor)
  else none

/-- **A directive** on a line of its own. -/
def directive? (s : Lexer) : Option Lexer := do
  let s ← (s.closeTo none).giveUp?
  let (name, cursor) := (s.cursor.skip 1).span isNameChar
  if name.isEmpty || !cursor.isGapAt 0 then none
  else
    let (token, cursor) ← directiveValue? name cursor
    let cursor := cursor.skipComment
    if cursor.isLineEnd then
      some ({ s with cursor := (cursor.readBreak).2, mayStart := false }.push token)
    else none

/-! ## The whole text -/

/-- A plain scalar can start here: the character is no indicator, or it is one that does not stand
alone. -/
def startsPlain (s : Lexer) (c : Char) : Bool :=
  !("-?:,[]\x7b\x7d#&*!|>'\"%@`".toList.contains c || isGap c || isBreak c) ||
    (c == '-' && !s.cursor.satisfies 1 isGap) ||
    (!s.inFlow && (c == '?' || c == ':') && !s.cursor.isGapAt 1)

/-- **Reading one token**, by the character that it starts with. -/
def next? (s : Lexer) (c : Char) : Option Lexer :=
  let cursor := s.cursor
  if cursor.column == 0 && c == '%' then s.directive?
  else if cursor.isDocumentMark '-' then s.documentMark? .documentStart 3
  else if cursor.isDocumentMark '.' then s.documentMark? .documentEnd 3
  else if c == '[' then s.openFlow? .flowSequence
  else if c == '\x7b' then s.openFlow? .flowMapping
  else if c == ']' then s.closeFlow? .flowSequenceEnd
  else if c == '\x7d' then s.closeFlow? .flowMappingEnd
  else if c == ',' then s.comma?
  else if c == '-' && cursor.isGapAt 1 then s.hyphen?
  else if c == '?' && (s.inFlow || cursor.isGapAt 1) then s.key?
  else if c == ':' && (s.inFlow || cursor.isGapAt 1) then s.value?
  else if c == '*' then s.name? .alias
  else if c == '&' then s.name? .anchor
  else if c == '!' then s.tag?
  else if c == '|' && !s.inFlow then s.block? true
  else if c == '>' && !s.inFlow then s.block? false
  else if c == '\'' then s.quoted? true
  else if c == '"' then s.quoted? false
  else if s.startsPlain c then s.plain?
  else none

/-- Reads tokens up to the end of the text. Each of them takes a character at least. -/
def run? : Nat → Lexer → Option Lexer
  | 0, _ => none
  | fuel + 1, s => do
    let s := toNextToken (s.cursor.rest.length + 1) s
    let s ← s.dropAllStale?
    let s := s.closeTo (some s.cursor.column)
    match s.cursor.peek? with
    | none => s.streamEnd?
    | some c => run? fuel (← s.next? c)

/-- Puts the belated tokens where they belong. Both lists have the latest first, and so has the
number of tokens that are left. -/
def arrange : Nat → List Token → List (Nat × List Token) → List Token → List Token
  | _, [], _, done => done
  | n, token :: tokens, belated, done =>
    match belated with
    | (position, starts) :: others =>
      if n = position + 1 then arrange (n - 1) tokens others (starts ++ token :: done)
      else arrange (n - 1) tokens belated (token :: done)
    | [] => arrange (n - 1) tokens [] (token :: done)

/-- The belated tokens by their places, the last place first. -/
def sortBelated (belated : List (Nat × List Token)) : List (Nat × List Token) :=
  belated.mergeSort fun a b => b.1 ≤ a.1

end Lexer

/-- **The tokens of a text**, nothing if it is malformed. A byte order mark at its start does not
count. -/
def tokens? (t : Text) : Option (List Token) := do
  let t := match t with
    | '\uFEFF' :: rest => rest
    | t => t
  if t.all isAllowed then
    let s ← Lexer.run? (t.length + 2) { cursor := { rest := t } }
    some (Lexer.arrange s.count s.tokens (Lexer.sortBelated s.belated) [])
  else none

end Blurb.Yaml
