import Blurb.Text.Case
import Blurb.Text.Utf8

/-! # Description tokens

A description stands in its host as a string token: a literal between quotes, at a span of bytes.
This module takes tokens apart and puts replacements into a host text. -/

namespace Blurb

/-- **A span of bytes** in a host text: from `start` up to but without `stop`. -/
structure Span where
  /-- The offset of the first byte. -/
  start : Nat
  /-- The offset behind the last byte. -/
  stop : Nat
deriving Repr, DecidableEq

/-- The two characters that can quote a description. -/
def isQuote (c : Char) : Bool := c == '"' || c == '\''

/-- **Taking quotes off**: the text between two equal quote characters at its ends, together with
the quote; nothing if the text has no such pair. -/
def unquote? : Text → Option (Char × Text)
  | [] => none
  | [_] => none
  | first :: second :: rest =>
    let inner := (second :: rest).dropLast
    if isQuote first && (second :: rest).getLast? == some first then some (first, inner) else none

/-- **The content of a token**: what stands between its quotes, or all of it if it is not quoted. -/
def stringContent (source : Text) : Text :=
  match unquote? source with
  | some (_, inner) => inner
  | none => source

/-- **A quote character at either end and no line feed between**: the first quote, what stands
between, and the last quote, which may be another one. -/
def betweenQuotes? : Text → Option (Char × Text × Char)
  | [] => none
  | first :: rest =>
    match rest.getLast? with
    | none => none
    | some last =>
      if isQuote first && isQuote last && !rest.dropLast.contains '\n' then
        some (first, rest.dropLast, last)
      else none

/-- **The literal of a token on a single line**: its quote and what stands between the two equal
quotes. -/
def lineLiteral? (source : Text) : Option (Char × Text) :=
  match betweenQuotes? source with
  | some (first, inner, last) => if first = last then some (first, inner) else none
  | none => none

/-- **A description token**: its source text, quotes included, and where it stands in its host. -/
structure Token where
  /-- The token as it is written. -/
  source : Text
  /-- Where it stands. -/
  span : Span
deriving Repr, DecidableEq

namespace Token

/-- The token of a source text that is a host of its own. -/
def ofSource (source : Text) : Token := ⟨source, ⟨0, Text.utf8Size source⟩⟩

/-- The token that holds `content` between double quotes. -/
def quoted (content : Text) : Token := ofSource ('"' :: content ++ ['"'])

/-- What stands between the token's quotes. -/
def content (token : Token) : Text := stringContent token.source

@[simp] theorem source_ofSource (source : Text) : (ofSource source).source = source := rfl

@[simp] theorem source_quoted (content : Text) :
    (quoted content).source = '"' :: content ++ ['"'] := rfl

/-- Quotes, line feeds and the empty text included, a quoted token holds what was put in. -/
@[simp] theorem content_quoted (text : Text) : (quoted text).content = text := by
  cases text with
  | nil => rfl
  | cons c rest =>
    simp only [content, source_quoted, stringContent, unquote?, List.cons_append]
    rw [show c :: (rest ++ ['"']) = (c :: rest) ++ ['"'] from rfl, List.getLast?_append,
      List.dropLast_concat]
    simp [isQuote]

end Token

/-- **A replacement**: the text to put in place of a span. -/
structure Replacement where
  /-- The span that is replaced. -/
  span : Span
  /-- The text put there. -/
  text : Text
deriving Repr, DecidableEq

/-- **Putting a replacement into a host**: the host up to the start of the span, the text, and the
host from the end of the span on. Nothing if an offset lies inside a character or behind the end.
The two offsets are looked up one by one, so a span that ends before it starts repeats the part
between. -/
def Replacement.splice? (replacement : Replacement) (host : Text) : Option Text := do
  let (head, _) ← Text.splitAtByte? replacement.span.start host
  let (_, tail) ← Text.splitAtByte? replacement.span.stop host
  some (head ++ replacement.text ++ tail)

end Blurb
