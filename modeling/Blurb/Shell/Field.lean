import Blurb.Files.Glob
import Blurb.Text.Raw

/-! # Fields

What the words of a script expand to. An expanded word is a list of glyphs, which remember where
they come from; it is split into fields at separators that come from expansions, and its wildcards
count unless they are quoted. -/

namespace Blurb.Shell

/-- **Where a glyph comes from.** -/
inductive Origin where
  /-- It is written in the script without quotes. -/
  | written
  /-- It is quoted. -/
  | quoted
  /-- It comes from an expansion without quotes. -/
  | expanded
deriving Repr, DecidableEq

/-- **A part of an expanded word.** -/
inductive Glyph where
  /-- A character. -/
  | char (c : Char) (origin : Origin)
  /-- Quotes: the field exists, even if it is empty. -/
  | presence
  /-- The end of a field. -/
  | cut
deriving Repr, DecidableEq

/-- An expanded word. -/
abbrev Glyphs := List Glyph

namespace Glyphs

/-- A text as glyphs. -/
def ofText (origin : Origin) (t : Text) : Glyphs := t.map (Glyph.char · origin)

/-- **The text of an expanded word** that is not split. -/
def text (glyphs : Glyphs) : Text :=
  glyphs.filterMap fun
    | .char c _ => some c
    | .presence => none
    | .cut => some ' '

/-- Several texts, with a cut between each two of them. -/
def ofTexts (origin : Origin) (texts : List Text) : Glyphs :=
  List.intercalate [.cut] <| texts.map fun t =>
    (if origin = .quoted then [.presence] else []) ++ ofText origin t

/-! ## Splitting -/

/-- **What has been split so far**: the finished fields, the glyphs of the open one if there is
one, and whether a blank has just ended a field. -/
structure Splitting where
  /-- The finished fields. -/
  done : List Glyphs := []
  /-- The open field. -/
  current : Option Glyphs := none
  /-- A blank has just ended a field. -/
  afterBlank : Bool := false
deriving Repr, DecidableEq

namespace Splitting

/-- The open field ends. -/
def finish (state : Splitting) : Splitting :=
  match state.current with
  | some field => { done := state.done ++ [field] }
  | none => { state with afterBlank := false }

/-- A glyph joins the open field. -/
def extend (state : Splitting) (glyph : Glyph) : Splitting :=
  { state with current := some (state.current.getD [] ++ [glyph]), afterBlank := false }

/-- **Taking a glyph.** Blank separators end an open field; any other separator ends a field even if
it is empty, unless a blank has just ended it. -/
def take (separators : Text) (state : Splitting) : Glyph → Splitting
  | .cut => state.finish
  | .presence => state.extend .presence
  | .char c origin =>
    if origin = .expanded && separators.contains c then
      -- blanks at the start of a word open no field
      if " \t\n".toList.contains c then
        if state.current.isSome then { state.finish with afterBlank := true } else state
      else if state.current.isNone && !state.afterBlank then
        { state with done := state.done ++ [[]] }
      else { state.finish with afterBlank := false }
    else state.extend (.char c origin)

end Splitting

/-- **The fields of an expanded word.** -/
def fields (separators : Text) (glyphs : Glyphs) : List Glyphs :=
  (glyphs.foldl (Splitting.take separators) {}).finish.done

/-! ## Patterns -/

/-- The character of a glyph that is not quoted. -/
def wild? : Glyph → Option Char
  | .char c origin => if origin = .quoted then none else some c
  | _ => none

/-- The text between brackets at the start of glyphs, and how many glyphs it takes with its closing
bracket, which cannot be the first character of the set. -/
def bracket? (glyphs : Glyphs) : Option (Text × Nat) := do
  let t := Glyphs.text glyphs
  let mark := if t.head?.any (fun c => c == '!' || c == '^') then 1 else 0
  let (inner, _) ← Text.splitFirst? ']' (t.drop (mark + 1))
  some (t.take (mark + 1 + inner.length), mark + 2 + inner.length)

/-- The set between brackets. -/
def set (inner : Text) : Glob.Part :=
  match inner with
  | c :: rest =>
    if c == '!' || c == '^' then .set false (Glob.ranges rest) else .set true (Glob.ranges inner)
  | [] => .set true []

/-- **The pattern that an expanded word writes**: only glyphs that are not quoted are wildcards. -/
def pattern : Glyphs → List Glob.Part
  | [] => []
  | glyph :: rest =>
    match wild? glyph with
    | some '*' => .sequence :: pattern rest
    | some '?' => .anyChar :: pattern rest
    | some '[' =>
      match bracket? rest with
      | some (inner, size) => set inner :: pattern (rest.drop size)
      | none => .char '[' :: pattern rest
    | some c => .char c :: pattern rest
    | none =>
      match glyph with
      | .char c _ => .char c :: pattern rest
      | _ => pattern rest
termination_by glyphs => glyphs.length
decreasing_by all_goals simp only [List.length_cons, List.length_drop]; omega

/-- An expanded word has wildcards. -/
def hasWildcard (glyphs : Glyphs) : Bool := (Glob.literal? (pattern glyphs)).isNone

/-! ## Paths -/

/-- Cutting an expanded word at its separators. -/
def segments (glyphs : Glyphs) : List Glyphs :=
  glyphs.foldr (fun glyph pieces =>
    match glyph, pieces with
    | .char '/' _, pieces => [] :: pieces
    | glyph, piece :: pieces => (glyph :: piece) :: pieces
    | glyph, [] => [[glyph]]) [[]]

/-- The names in a directory that match a pattern, as raw texts; a leading dot must be written. -/
def matchingNames (host : Host) (directory : Text) (parts : List Glob.Part) : List Text :=
  ((Glob.names host (Text.ofRaw directory)).map Text.toRaw).filter fun name =>
    Glob.matchName parts name &&
      (name.head? != some '.' || parts.head? == some (Glob.Part.char '.'))

/-- **The paths that exist** where each segment is a name or matches a pattern. -/
def pathsFrom (host : Host) (start : Text) : List Glyphs → List Text
  | [] => [start]
  | segment :: segments =>
    let go (name : Text) : List Text :=
      let path := start ++ name
      if segments.isEmpty then (if host.holds (Text.ofRaw path) then [path] else [])
      else pathsFrom host (path ++ ['/']) segments
    if hasWildcard segment then
      (matchingNames host (if start.isEmpty then ['.'] else start) (pattern segment)).flatMap go
    else go (text segment)

/-- **The texts that a field stands for**: the paths that its wildcards match, or itself if there
are none. -/
def paths (host : Host) (field : Glyphs) : List Text :=
  if hasWildcard field then
    match pathsFrom host [] (segments field) with
    | [] => [text field]
    | found => found
  else [text field]

end Glyphs

end Blurb.Shell
