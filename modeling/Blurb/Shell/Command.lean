import Blurb.Shell.Word

/-! # Commands of shell scripts

The commands that a script is made of, and how they are read from its tokens, one line after
another. -/

namespace Blurb.Shell

/-- **What a redirection does** with a descriptor. -/
inductive Direction where
  /-- It reads a file. -/
  | input
  /-- It reads a document in the script. -/
  | document
  /-- It writes a file anew. -/
  | output
  /-- It writes a file further. -/
  | append
  /-- It does what another descriptor does. -/
  | duplicate
deriving Repr, DecidableEq

/-- **A redirection.** -/
structure Redirect where
  /-- The descriptor. -/
  descriptor : Nat
  /-- What is done with it. -/
  direction : Direction
  /-- The file or the other descriptor. -/
  target : Word
deriving Repr, DecidableEq

/-- **A simple command.** -/
structure Simple where
  /-- The assignments in front. -/
  assignments : List (Text × Word) := []
  /-- The words. -/
  words : List Word := []
  /-- The redirections. -/
  redirects : List Redirect := []
  /-- The line that it stands on. -/
  line : Nat := 0
deriving Repr, DecidableEq

/-- **A command.** -/
inductive Command where
  /-- Nothing. -/
  | skip
  /-- Assignments and words. -/
  | simple (simple : Simple)
  /-- The output of one command is the input of another. -/
  | pipe (left right : Command)
  /-- The opposite status. -/
  | not (command : Command)
  /-- The second command if the first succeeds. -/
  | and (left right : Command)
  /-- The second command if the first fails. -/
  | or (left right : Command)
  /-- One command after another. -/
  | seq (left right : Command)
  /-- A command that is not waited for. -/
  | background (command : Command)
  /-- A choice by a condition. -/
  | choice (condition body otherwise : Command)
  /-- A loop as long as a condition holds, or until it does. -/
  | loop (untilTrue : Bool) (condition body : Command)
  /-- A loop over words, or over the parameters. -/
  | each (name : Text) (words : Option (List Word)) (body : Command)
  /-- A choice by patterns. -/
  | select (word : Word) (arms : List (List Word × Command))
  /-- A command with redirections. -/
  | redirected (body : Command) (redirects : List Redirect)
  /-- A command in a shell of its own. -/
  | subshell (body : Command)
  /-- The definition of a function. -/
  | define (name : Text) (body : Command)

/-- **What is wrong with a script**, and on which line. -/
structure Complaint where
  /-- The line. -/
  line : Nat
  /-- What is wrong there. -/
  text : Text
deriving Repr, DecidableEq

/-! ## Tokens -/

/-- The words that end a list of commands. -/
def closers : List Text :=
  ["then", "else", "elif", "fi", "do", "done", "esac", "\x7d"].map String.toList

/-- The word that a token writes without quotes. -/
def keyword? : List Token → Option Text
  | .word parts _ :: _ => literal? parts
  | _ => none

/-- The next token is the given word. -/
def atWord (text : String) (tokens : List Token) : Bool := keyword? tokens == some text.toList

/-- The next token is the given operator. -/
def atOperator (text : String) : List Token → Bool
  | .operator op _ :: _ => op == text.toList
  | _ => false

/-- How a token is named in a complaint. -/
def Token.describe : Token → Text
  | word parts _ =>
    match literal? parts with
    | some text => if closers.contains text then '"' :: text ++ ['"'] else "word".toList
    | none => "word".toList
  | operator text _ => if text == ['\n'] then "newline".toList else '"' :: text ++ ['"']
  | descriptor _ => "redirection".toList
  | broken _ => []
  | ending _ => "end of file".toList

/-- The line of a token. -/
def Token.line : Token → Nat
  | word _ line => line
  | operator _ line => line
  | descriptor _ => 0
  | broken line => line
  | ending line => line

/-- **A complaint** about the next token, together with what should stand there. -/
def unexpected (expected : Option String) : List Token → Complaint
  | [] => ⟨0, "end of file unexpected".toList⟩
  | .broken line :: _ => ⟨line, "Unterminated quoted string".toList⟩
  | token :: _ =>
    ⟨token.line, token.describe ++ " unexpected".toList ++
      match expected with
      | some text => " (expecting \"".toList ++ text.toList ++ "\")".toList
      | none => []⟩

/-- Takes the given word off. -/
def expectWord (text : String) (tokens : List Token) : Except Complaint (List Token) :=
  if atWord text tokens then .ok (tokens.drop 1) else .error (unexpected (some text) tokens)

/-- Takes the given operator off. -/
def expectOperator (text : String) (tokens : List Token) : Except Complaint (List Token) :=
  if atOperator text tokens then .ok (tokens.drop 1) else .error (unexpected (some text) tokens)

/-- Takes line breaks off. -/
def skipBreaks : List Token → List Token
  | .operator ['\n'] _ :: rest => skipBreaks rest
  | tokens => tokens

/-- A list of commands ends here. -/
def endsList (tokens : List Token) : Bool :=
  (keyword? tokens).any closers.contains || atOperator ")" tokens || atOperator ";;" tokens ||
    match tokens with
    | [] => true
    | .ending _ :: _ => true
    | _ => false

/-! ## Simple commands -/

/-- The direction that an operator gives, and the descriptor that it is for by itself. -/
def direction? (operator : Text) : Option (Direction × Nat) :=
  match String.ofList operator with
  | "<" => some (.input, 0)
  | "<>" => some (.input, 0)
  | "<<" => some (.document, 0)
  | ">" => some (.output, 1)
  | ">|" => some (.output, 1)
  | ">>" => some (.append, 1)
  | ">&" => some (.duplicate, 1)
  | "<&" => some (.duplicate, 0)
  | _ => none

/-- A word that assigns: the name, and the word behind the equals sign. -/
def assignment? (word : Word) : Option (Text × Word) :=
  let letters := word.takeWhile fun part =>
    match part with
    | .char c quoted => !quoted && isNameChar c
    | _ => false
  match literal? letters, word.drop letters.length with
  | some name, .char '=' false :: value => if isName name then some (name, value) else none
  | _, _ => none

namespace Simple

/-- A word joins the command: as an assignment if it is one and no other word stands before it. -/
def addWord (command : Simple) (word : Word) : Simple :=
  match command.words, assignment? word with
  | [], some assignment => { command with assignments := command.assignments ++ [assignment] }
  | words, _ => { command with words := words ++ [word] }

/-- A redirection joins the command. -/
def addRedirect (command : Simple) (redirect : Redirect) : Simple :=
  { command with redirects := command.redirects ++ [redirect] }

/-- The command has nothing in it. -/
def isEmpty (command : Simple) : Bool :=
  command.assignments.isEmpty && command.words.isEmpty && command.redirects.isEmpty

end Simple

/-- **Reading a simple command**: words and redirections as far as they go. -/
def readSimple (command : Simple) : List Token → Except Complaint (Simple × List Token)
  | .descriptor n :: .operator op line :: .word target _ :: rest =>
    match direction? op with
    | some (direction, _) => readSimple (command.addRedirect ⟨n, direction, target⟩) rest
    | none => .error (unexpected none [.operator op line])
  | .operator op line :: rest =>
    match direction? op, rest with
    | some (direction, n), .word target _ :: rest =>
      readSimple (command.addRedirect ⟨n, direction, target⟩) rest
    | some _, rest => .error (unexpected none rest)
    | none, rest => .ok (command, .operator op line :: rest)
  | .word word _ :: rest => readSimple (command.addWord word) rest
  | .descriptor _ :: rest => .error (unexpected none rest)
  | .broken line :: rest => .error (unexpected none (.broken line :: rest))
  | tokens => .ok (command, tokens)

/-- Reading the redirections behind a command. -/
def readRedirects (body : Command) (tokens : List Token) :
    Except Complaint (Command × List Token) := do
  let (command, rest) ← readSimple {} tokens
  if command.words.isEmpty && command.assignments.isEmpty then
    .ok (if command.redirects.isEmpty then body else .redirected body command.redirects, rest)
  else .error (unexpected none tokens)

/-- The words up to the end of a line or a semicolon. -/
def readWords : List Token → List Word × List Token
  | .word word _ :: rest =>
    let (words, rest) := readWords rest
    (word :: words, rest)
  | tokens => ([], tokens)

/-- The patterns of an arm, up to the closing bracket. -/
def readPatterns : List Token → Except Complaint (List Word × List Token)
  | .word word _ :: .operator ['|'] _ :: rest => do
    let (words, rest) ← readPatterns rest
    .ok (word :: words, rest)
  | .word word _ :: rest => do .ok ([word], ← expectOperator ")" rest)
  | tokens => .error (unexpected none tokens)

/-! ## Compound commands -/

mutual

/-- **Reading a list of commands.** A list on one line ends with the line. -/
def readList : Nat → Bool → List Token → Except Complaint (Command × List Token)
  | 0, _, tokens => .error (unexpected none tokens)
  | fuel + 1, oneLine, tokens => do
    let breaks (tokens : List Token) := if oneLine then tokens else skipBreaks tokens
    let (first, tokens) ← readChain fuel (breaks tokens)
    let more (first : Command) (tokens : List Token) : Except Complaint (Command × List Token) := do
      let rest := breaks tokens
      if endsList rest || atOperator "\n" rest then .ok (first, rest)
      else
        let (others, rest) ← readList fuel oneLine rest
        .ok (.seq first others, rest)
    if atOperator ";" tokens then more first (tokens.drop 1)
    else if atOperator "&" tokens then more (.background first) (tokens.drop 1)
    else if atOperator "\n" tokens && !oneLine then more first tokens
    else .ok (first, tokens)

/-- Reading commands that depend on each other's success. -/
def readChain : Nat → List Token → Except Complaint (Command × List Token)
  | 0, tokens => .error (unexpected none tokens)
  | fuel + 1, tokens => do
    let (first, tokens) ← readPipeline fuel tokens
    continueChain fuel first tokens

/-- Reading on behind a command that others may depend on. -/
def continueChain : Nat → Command → List Token → Except Complaint (Command × List Token)
  | 0, _, tokens => .error (unexpected none tokens)
  | fuel + 1, left, tokens =>
    if atOperator "&&" tokens then do
      let (right, tokens) ← readPipeline fuel (skipBreaks (tokens.drop 1))
      continueChain fuel (.and left right) tokens
    else if atOperator "||" tokens then do
      let (right, tokens) ← readPipeline fuel (skipBreaks (tokens.drop 1))
      continueChain fuel (.or left right) tokens
    else .ok (left, tokens)

/-- Reading a pipeline. -/
def readPipeline : Nat → List Token → Except Complaint (Command × List Token)
  | 0, tokens => .error (unexpected none tokens)
  | fuel + 1, tokens =>
    if atWord "!" tokens then do
      let (command, tokens) ← readPipeline fuel (tokens.drop 1)
      .ok (.not command, tokens)
    else do
      let (left, tokens) ← readCommand fuel tokens
      if atOperator "|" tokens then
        let (right, tokens) ← readPipeline fuel (skipBreaks (tokens.drop 1))
        .ok (.pipe left right, tokens)
      else .ok (left, tokens)

/-- **Reading one command.** -/
def readCommand : Nat → List Token → Except Complaint (Command × List Token)
  | 0, tokens => .error (unexpected none tokens)
  | fuel + 1, tokens =>
    let rest := tokens.drop 1
    if atOperator "(" tokens then do
      let (body, rest) ← readList fuel false rest
      readRedirects (.subshell body) (← expectOperator ")" rest)
    else match (keyword? tokens).map String.ofList with
      | some "\x7b" => do
        let (body, rest) ← readList fuel false rest
        readRedirects body (← expectWord "\x7d" rest)
      | some "if" => do
        let (command, rest) ← readChoice fuel rest
        readRedirects command rest
      | some "while" => readLoop fuel false rest
      | some "until" => readLoop fuel true rest
      | some "for" => readEach fuel rest
      | some "case" => readSelect fuel rest
      | keyword =>
        if keyword.any fun text => closers.contains text.toList then
          .error (unexpected none tokens)
        else match tokens with
          | .word name _ :: .operator ['('] _ :: .operator [')'] _ :: rest => do
            let (body, rest) ← readCommand fuel (skipBreaks rest)
            .ok (.define ((literal? name).getD []) body, rest)
          | tokens => do
            let line := (tokens.head?.map Token.line).getD 0
            let (command, rest) ← readSimple { line := line } tokens
            if command.isEmpty then .error (unexpected none tokens)
            else .ok (.simple command, rest)

/-- Reading a choice behind its first word. -/
def readChoice : Nat → List Token → Except Complaint (Command × List Token)
  | 0, tokens => .error (unexpected none tokens)
  | fuel + 1, tokens => do
    let (condition, tokens) ← readList fuel false tokens
    let (body, tokens) ← readList fuel false (← expectWord "then" tokens)
    if atWord "elif" tokens then
      let (otherwise, tokens) ← readChoice fuel (tokens.drop 1)
      .ok (.choice condition body otherwise, tokens)
    else if atWord "else" tokens then
      let (otherwise, tokens) ← readList fuel false (tokens.drop 1)
      .ok (.choice condition body otherwise, ← expectWord "fi" tokens)
    else .ok (.choice condition body .skip, ← expectWord "fi" tokens)

/-- Reading a loop behind its first word. -/
def readLoop : Nat → Bool → List Token → Except Complaint (Command × List Token)
  | 0, _, tokens => .error (unexpected none tokens)
  | fuel + 1, untilTrue, tokens => do
    let (condition, tokens) ← readList fuel false tokens
    let (body, tokens) ← readList fuel false (← expectWord "do" tokens)
    readRedirects (.loop untilTrue condition body) (← expectWord "done" tokens)

/-- Reading a loop over words behind its first word. -/
def readEach : Nat → List Token → Except Complaint (Command × List Token)
  | 0, tokens => .error (unexpected none tokens)
  | fuel + 1, tokens =>
    match keyword? tokens with
    | none => .error (unexpected none tokens)
    | some name => do
      if !isName name then
        throw ⟨(tokens.head?.map Token.line).getD 0, "Bad for loop variable".toList⟩
      let rest := skipBreaks (tokens.drop 1)
      let (words, rest) :=
        if atWord "in" rest then
          let (words, rest) := readWords (rest.drop 1)
          (some words, rest)
        else (none, rest)
      let rest := skipBreaks (if atOperator ";" rest then rest.drop 1 else rest)
      let (body, rest) ← readList fuel false (← expectWord "do" rest)
      readRedirects (.each name words body) (← expectWord "done" rest)

/-- Reading a choice by patterns behind its first word. -/
def readSelect : Nat → List Token → Except Complaint (Command × List Token)
  | 0, tokens => .error (unexpected none tokens)
  | fuel + 1, tokens =>
    match tokens with
    | .word word _ :: rest => do
      let (arms, rest) ← readArms fuel (skipBreaks (← expectWord "in" (skipBreaks rest)))
      readRedirects (.select word arms) rest
    | tokens => .error (unexpected none tokens)

/-- Reading the arms of a choice by patterns, up to its last word. -/
def readArms : Nat → List Token → Except Complaint (List (List Word × Command) × List Token)
  | 0, tokens => .error (unexpected none tokens)
  | fuel + 1, tokens =>
    if atWord "esac" tokens then .ok ([], tokens.drop 1)
    else do
      let (patterns, rest) ← readPatterns (if atOperator "(" tokens then tokens.drop 1 else tokens)
      let rest := skipBreaks rest
      let (body, rest) ←
        if endsList rest then .ok (.skip, rest) else readList fuel false rest
      if atOperator ";;" rest then
        let (arms, rest) ← readArms fuel (skipBreaks (rest.drop 1))
        .ok ((patterns, body) :: arms, rest)
      else .ok ([(patterns, body)], ← expectWord "esac" rest)

end

/-- **Reading the next line of a script** with all that belongs to its commands; nothing at the end
of the script. Every token opens less than eight levels of reading. -/
def readLine (tokens : List Token) : Option (Except Complaint (Command × List Token)) :=
  match skipBreaks tokens with
  | [] => none
  | .ending _ :: _ => none
  | tokens =>
    some <| do
      let (command, rest) ← readList (8 * (tokens.length + 2)) true tokens
      if atOperator "\n" rest then .ok (command, rest.drop 1)
      else match rest with
        | .ending _ :: _ => .ok (command, rest)
        | rest => .error (unexpected none rest)

end Blurb.Shell
