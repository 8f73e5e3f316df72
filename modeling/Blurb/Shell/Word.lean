import Blurb.Text.Basic

/-! # Words of shell scripts

The words and operators that a script is made of. A script is kept as a raw text, so that what it
prints comes out byte for byte. -/

namespace Blurb.Shell

/-- **A part of a word.** The flag tells that the part is quoted. -/
inductive Part where
  /-- A character. -/
  | char (c : Char) (quoted : Bool)
  /-- Quotes without anything between them. -/
  | nothing
  /-- A parameter, with what is written behind its name in braces. -/
  | param (name modifier : Text) (quoted : Bool)
  /-- The number of characters of a parameter. -/
  | length (name : Text) (quoted : Bool)
  /-- The output of a command, by its source. -/
  | command (source : Text) (quoted : Bool)
  /-- The value of an arithmetic expression, by its source. -/
  | arith (source : Text) (quoted : Bool)
deriving Repr, DecidableEq

/-- **A word.** -/
abbrev Word := List Part

/-- **A token** of a script, with the line it stands on. -/
inductive Token where
  /-- A word. -/
  | word (parts : Word) (line : Nat)
  /-- An operator, or a line break. -/
  | operator (text : Text) (line : Nat)
  /-- The number of the descriptor that the redirection behind it is for. -/
  | descriptor (n : Nat)
  /-- From here on the script is malformed: quotes or brackets are not closed. -/
  | broken (line : Nat)
  /-- The end of the script. -/
  | ending (line : Nat)
deriving Repr, DecidableEq

/-- A character that a name may start with. -/
def isNameStart (c : Char) : Bool := ('a' ≤ c && c ≤ 'z') || ('A' ≤ c && c ≤ 'Z') || c == '_'

/-- A digit. -/
def isDigit (c : Char) : Bool := '0' ≤ c && c ≤ '9'

/-- A character of a name. -/
def isNameChar (c : Char) : Bool := isNameStart c || isDigit c

/-- The text is a name. -/
def isName (t : Text) : Bool := t.head?.any isNameStart && t.all isNameChar

/-- A parameter that is named by a single character. -/
def isSpecial (c : Char) : Bool := isDigit c || "@*#?$!-".toList.contains c

/-- A character that ends an unquoted word. -/
def isMeta (c : Char) : Bool := " \t\n;&|<>()".toList.contains c

/-- **The text up to a closing character**, with quotes and nested pairs left whole, and what
follows that character. -/
def enclosed? (opening closing : Char) : Nat → Nat → Text → Option (Text × Text)
  | 0, _, _ => none
  | _ + 1, _, [] => none
  | fuel + 1, depth, c :: rest =>
    let keep (taken : Text) (rest : Text) (depth : Nat) : Option (Text × Text) :=
      (enclosed? opening closing fuel depth rest).map fun (inner, rest) => (taken ++ inner, rest)
    if c = closing then if depth = 0 then some ([], rest) else keep [c] rest (depth - 1)
    else if c = opening then keep [c] rest (depth + 1)
    else if c = '\\' then keep (c :: rest.take 1) (rest.drop 1) depth
    else if c = '\'' ∧ closing ≠ '"' then
      match Text.splitFirst? '\'' rest with
      | some (inner, rest) => keep ('\'' :: inner ++ ['\'']) rest depth
      | none => none
    else if c = '"' then
      match enclosed? '"' '"' fuel 0 rest with
      | some (inner, rest) => keep ('"' :: inner ++ ['"']) rest depth
      | none => none
    else keep [c] rest depth

/-- What stands in braces behind a dollar sign. -/
def braced? (quoted : Bool) (inner : Text) : Option Part :=
  match inner with
  | '#' :: c :: rest =>
    if isName (c :: rest) || (rest.isEmpty && isSpecial c) then some (.length (c :: rest) quoted)
    else if c == '-' || c == ':' then some (.param ['#'] (c :: rest) quoted)
    else none
  | c :: rest =>
    if isNameStart c then
      let name := inner.takeWhile isNameChar
      some (.param name (inner.drop name.length) quoted)
    else if isDigit c then
      let name := inner.takeWhile isDigit
      some (.param name (inner.drop name.length) quoted)
    else if isSpecial c then some (.param [c] rest quoted)
    else none
  | [] => none

/-- **An expansion** behind a dollar sign, and what follows it. -/
def dollar? (quoted : Bool) (t : Text) : Option (Part × Text) :=
  match t with
  | '(' :: '(' :: rest => do
    let (source, rest) ← enclosed? '(' ')' (rest.length + 1) 0 rest
    some (.arith source quoted, ← Text.strip? [')'] rest)
  | '(' :: rest => do
    let (source, rest) ← enclosed? '(' ')' (rest.length + 1) 0 rest
    some (.command source quoted, rest)
  | '\x7b' :: rest => do
    let (inner, rest) ← enclosed? '\x7b' '\x7d' (rest.length + 1) 0 rest
    some (← braced? quoted inner, rest)
  | c :: rest =>
    if isNameStart c then
      let name := t.takeWhile isNameChar
      some (.param name [] quoted, t.drop name.length)
    else if isSpecial c then some (.param [c] [] quoted, rest)
    else some (.char '$' quoted, t)
  | [] => some (.char '$' quoted, [])

/-- **What stands between backquotes**, and what follows them. A backslash only counts in front of a
backquote, a dollar sign or a backslash. -/
def backquoted? : Text → Option (Text × Text)
  | [] => none
  | '\x60' :: rest => some ([], rest)
  | '\\' :: c :: rest =>
    let kept := if c = '\x60' ∨ c = '$' ∨ c = '\\' then [c] else ['\\', c]
    (backquoted? rest).map fun (source, rest) => (kept ++ source, rest)
  | c :: rest => (backquoted? rest).map fun (source, rest) => (c :: source, rest)

/-- Characters as parts. -/
def chars (quoted : Bool) (t : Text) : Word := t.map (Part.char · quoted)

/-- The parts between double quotes, and what follows them; with no closing quote to look for, the
whole text. -/
def double? (closed : Bool) : Nat → Text → Option (Word × Text)
  | 0, _ => none
  | _ + 1, [] => if closed then none else some ([], [])
  | fuel + 1, c :: rest =>
    let more (part : Part) (rest : Text) : Option (Word × Text) :=
      (double? closed fuel rest).map fun (parts, rest) => (part :: parts, rest)
    if c = '"' ∧ closed = true then some ([], rest)
    else if c = '\\' then
      match rest with
      | '\n' :: rest => double? closed fuel rest
      | d :: rest' =>
        if "$`\"\\".toList.contains d then more (.char d true) rest' else more (.char c true) rest
      | [] => more (.char c true) []
    else if c = '$' then (dollar? true rest).bind fun (part, rest) => more part rest
    else if c = '\x60' then
      (backquoted? rest).bind fun (source, rest) => more (.command source true) rest
    else more (.char c true) rest

/-- **The parts of a word** and what follows them. Inside of braces, nothing but the end of the text
ends the word. -/
def parts? (inBraces : Bool) : Nat → Text → Option (Word × Text)
  | 0, _ => none
  | _ + 1, [] => some ([], [])
  | fuel + 1, c :: rest =>
    let more (parts : Word) (rest : Text) : Option (Word × Text) :=
      (parts? inBraces fuel rest).map fun (others, rest) => (parts ++ others, rest)
    if isMeta c && !inBraces then some ([], c :: rest)
    else if c = '\'' then
      (Text.splitFirst? '\'' rest).bind fun (inner, rest) =>
        more (.nothing :: chars true inner) rest
    else if c = '"' then
      (double? true (rest.length + 1) rest).bind fun (inner, rest) =>
        let onlyAll := inner == [.param ['@'] [] true]
        more (if onlyAll then inner else .nothing :: inner) rest
    else if c = '\\' then
      match rest with
      | '\n' :: rest => parts? inBraces fuel rest
      | d :: rest => more [.char d true] rest
      | [] => more [.char c false] []
    else if c = '$' then (dollar? false rest).bind fun (part, rest) => more [part] rest
    else if c = '\x60' then
      (backquoted? rest).bind fun (source, rest) => more [.command source false] rest
    else more [.char c false] rest

/-- The operators, longer ones before their beginnings. -/
def operators : List Text :=
  ["<<-", "&&", "||", ";;", "<<", ">>", "<&", ">&", "<>", ">|", ";", "&", "|", "<", ">", "(",
    ")"].map String.toList

/-- The lines of a document up to its last line, how many lines there are, and what follows them. -/
def documentLines (dropTabs : Bool) (last : Text) : Nat → Text → Text × Nat × Text
  | 0, t => ([], 0, t)
  | fuel + 1, t =>
    if t.isEmpty then ([], 0, [])
    else
      let whole := t.takeWhile (· != '\n')
      let rest := t.drop (whole.length + 1)
      let line := if dropTabs then whole.dropWhile (· == '\t') else whole
      if line == last then ([], 1, rest)
      else
        let (body, lines, rest) := documentLines dropTabs last fuel rest
        (line ++ '\n' :: body, lines + 1, rest)

/-- **A document** behind its operator: its parts, and the text without it. The document starts on
the next line and ends before the line that is written behind the operator; nothing in it is
expanded if any of that is quoted. Line breaks that do not count stand in for it, so that lines keep
their numbers. -/
def document? (dropTabs : Bool) (t : Text) : Option (Word × Text) := do
  let t := t.dropWhile fun c => c == ' ' || c == '\t'
  let (word, rest) ← parts? false (t.length + 1) t
  let last := word.filterMap fun
    | .char c _ => some c
    | _ => none
  let isQuoted := word.any fun
    | .char _ quoted => quoted
    | _ => true
  let line := rest.takeWhile (· != '\n')
  let below := rest.drop (line.length + 1)
  let (body, lines, after) := documentLines dropTabs last (below.length + 1) below
  let parts ←
    if isQuoted then some (chars true body) else (double? false (body.length + 1) body).map (·.1)
  some (parts, line ++ (List.replicate lines ['\\', '\n']).flatten ++ '\n' :: after)

/-- The tokens of a script from a line on. -/
def tokensFrom : Nat → Nat → Text → List Token
  | 0, line, _ => [.broken line]
  | _ + 1, line, [] => [.ending line]
  | fuel + 1, line, c :: rest =>
    let t := c :: rest
    if c = ' ' ∨ c = '\t' then tokensFrom fuel line rest
    else if c = '\n' then .operator ['\n'] line :: tokensFrom fuel (line + 1) rest
    else if c = '#' then tokensFrom fuel line (t.dropWhile (· != '\n'))
    else if c = '\\' ∧ rest.head? = some '\n' then tokensFrom fuel (line + 1) (rest.drop 1)
    else
      let number := t.takeWhile isDigit
      let behind := t.drop number.length
      if !number.isEmpty && behind.head?.any (fun d => d == '<' || d == '>') then
        .descriptor ((Text.number? 10 number).getD 0) :: tokensFrom fuel line behind
      else match operators.find? (Text.startsWith · t) with
        | some op =>
          let rest := t.drop op.length
          if op == ['<', '<'] || op == ['<', '<', '-'] then
            match document? (op.length == 3) rest with
            | some (parts, rest) =>
              .operator ['<', '<'] line :: .word parts line :: tokensFrom fuel line rest
            | none => [.broken line]
          else .operator op line :: tokensFrom fuel line rest
        | none =>
          match parts? false (t.length + 1) t with
          | none => [.broken line]
          | some (parts, rest) =>
            let lines := (t.take (t.length - rest.length)).count '\n'
            .word parts line :: tokensFrom fuel (line + lines) rest

/-- **The tokens of a script.** The last of them tells that it has come to its end, or is malformed.
Every step takes a character, and no character of a document leaves more than two behind. -/
def tokens (script : Text) : List Token := tokensFrom (2 * (script.length + 1)) 1 script

/-- The text of a word without quotes and expansions. -/
def literal? (word : Word) : Option Text :=
  word.mapM fun
    | .char c false => some c
    | _ => none

end Blurb.Shell
