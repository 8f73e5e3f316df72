import Blurb.Text.Blank
import Blurb.Text.Case

/-! # Phrases

The parts of a description that the rules look for: the words "command line" written together or
apart, an indefinite article at the start, a small first letter, a closing full stop, and the name
of the item as a word. -/

namespace Blurb.Phrase

open Text

/-! ## The words "command line" -/

/-- The characters of "command". -/
def command : Text := ['c', 'o', 'm', 'm', 'a', 'n', 'd']

/-- The characters of "line". -/
def line : Text := ['l', 'i', 'n', 'e']

/-- What follows the first letter in the hyphenated spelling. -/
def hyphenated : Text := ['o', 'm', 'm', 'a', 'n', 'd', '-', 'l', 'i', 'n', 'e']

/-- At most one space taken off the start. -/
def stripSpace : Text → Text × Text
  | ' ' :: rest => ([' '], rest)
  | t => ([], t)

/-- **"command line" at the start** of a text, in any case and with at most one space between the
two words: the part itself and what follows it. -/
def stripCommandLine? (t : Text) : Option (Text × Text) := do
  let (first, rest) ← stripFolded? command t
  let (gap, rest) := stripSpace rest
  let (second, rest) ← stripFolded? line rest
  some (first ++ gap ++ second, rest)

/-- **The leftmost "command line"** of a text. -/
def findCommandLine? : Text → Option Text
  | [] => none
  | c :: rest =>
    match stripCommandLine? (c :: rest) with
    | some (found, _) => some found
    | none => findCommandLine? rest

/-- The hyphenated spelling of a part: its first character, then "ommand-line". -/
def hyphenatedSpelling (found : Text) : Text := found.take 1 ++ hyphenated

theorem append_of_stripSpace (t : Text) : (stripSpace t).1 ++ (stripSpace t).2 = t := by
  unfold stripSpace
  split <;> rfl

theorem append_of_stripCommandLine? {t found rest : Text}
    (h : stripCommandLine? t = some (found, rest)) : t = found ++ rest := by
  simp only [stripCommandLine?, Option.bind_eq_bind, Option.bind_eq_some_iff,
    Option.some.injEq, Prod.mk.injEq, Prod.exists] at h
  obtain ⟨a, b, hab, c, d, hcd, rfl, rfl⟩ := h
  obtain ⟨rfl, -⟩ := stripFolded?_eq_some_iff.1 hab
  have hb := append_of_stripSpace b
  obtain ⟨hcd, -⟩ := stripFolded?_eq_some_iff.1 hcd
  rw [hcd] at hb
  simp only [List.append_assoc, List.append_cancel_left_eq]
  exact hb.symm

theorem length_of_stripCommandLine? {t found rest : Text}
    (h : stripCommandLine? t = some (found, rest)) : rest.length < t.length := by
  have happ := append_of_stripCommandLine? h
  simp only [stripCommandLine?, Option.bind_eq_bind, Option.bind_eq_some_iff,
    Option.some.injEq, Prod.mk.injEq, Prod.exists] at h
  obtain ⟨a, b, hab, c, d, hcd, rfl, rfl⟩ := h
  have ha := congrArg List.length (stripFolded?_eq_some_iff.1 hab).2
  have hc := congrArg List.length (stripFolded?_eq_some_iff.1 hcd).2
  rw [happ]
  simp [command, line] at ha hc ⊢
  omega

/-- **Hyphenating every "command line"** from left to right; the first letter keeps its case and
the rest is written in small letters. -/
def hyphenate : Text → Text
  | [] => []
  | c :: rest =>
    match _ : stripCommandLine? (c :: rest) with
    | some (_, after) => c :: hyphenated ++ hyphenate after
    | none => c :: hyphenate rest
termination_by t => t.length
decreasing_by
  · exact length_of_stripCommandLine? (by assumption)
  · simp

/-! ## The indefinite article -/

/-- **An indefinite article at the start**: `a` or `an` in any case, directly before a blank. The
article and what follows it. -/
def stripArticle? (t : Text) : Option (Text × Text) :=
  match t with
  | a :: rest =>
    if fold a = 'a' then
      match rest with
      | n :: b :: after =>
        if isBlank n then some ([a], rest)
        else if fold n = 'n' ∧ isBlank b = true then some ([a, n], b :: after)
        else none
      | [n] => if isBlank n then some ([a], rest) else none
      | [] => none
    else none
  | [] => none

/-- The text without an indefinite article at its start and the blanks behind it. -/
def dropArticle (t : Text) : Text :=
  match stripArticle? t with
  | some (_, rest) => trimStart rest
  | none => t

/-! ## First and last characters -/

/-- The text starts with a letter a to z. -/
def startsSmall : Text → Bool
  | [] => false
  | c :: _ => isSmallLetter c

/-- The text with its first character in upper case. -/
def capitalize : Text → Text
  | [] => []
  | c :: rest => upper c ++ rest

/-- The abbreviation that keeps its full stop at the end of a description. -/
def etc : Text := ['e', 't', 'c', '.']

/-- **A closing full stop**: one at the end of the text that does not belong to "etc.". -/
def endsWithFullStop (t : Text) : Bool := endsWith ['.'] t && !endsWith etc t

/-- The text without its closing full stop. -/
def dropFullStop (t : Text) : Text := if endsWithFullStop t then t.dropLast else t

/-! ## The name of the item -/

/-- **The name at the start**, up to case and followed by a space: the part in the text's spelling,
the space included. A name is taken to be short enough to be searched for: a pattern matcher with a
limit on the size of its patterns finds nothing for one beyond that limit. -/
def leadingName? (name t : Text) : Option Text :=
  match stripFolded? name t with
  | some (found, ' ' :: _) => some (found ++ [' '])
  | _ => none

/-- A character that can stand beside the name of an item as a word of its own. -/
def isDelimiter (c : Char) : Bool := !isFoldedLetter c

/-- **The name at the start, closed by a delimiter** or by the end of the text: the delimiter (none
at the end) and what follows it. -/
def stripClosedName? (name t : Text) : Option (Text × Text) :=
  match stripFolded? name t with
  | some (_, []) => some ([], [])
  | some (_, d :: rest) => if isDelimiter d then some ([d], rest) else none
  | none => none

theorem length_of_stripClosedName? {name t close rest : Text}
    (h : stripClosedName? name t = some (close, rest)) : rest.length ≤ t.length := by
  unfold stripClosedName? at h
  split at h
  · next hs =>
    simp only [Option.some.injEq, Prod.mk.injEq] at h
    simp [← h.2]
  · next d r hs =>
    split at h
    · simp only [Option.some.injEq, Prod.mk.injEq] at h
      have := congrArg List.length (stripFolded?_eq_some_iff.1 hs).1
      simp at this
      rw [← h.2]
      omega
    · simp at h
  · simp at h

/-- **Removing the name inside a text**: every occurrence between a delimiter and a delimiter or
the end of the text goes, from left to right; both delimiters stay, and neither bounds a further
occurrence on its other side. -/
def removeInnerNames (name : Text) : Text → Text
  | [] => []
  | c :: rest =>
    if isDelimiter c then
      match _ : stripClosedName? name rest with
      | some (close, after) => c :: close ++ removeInnerNames name after
      | none => c :: removeInnerNames name rest
    else c :: removeInnerNames name rest
termination_by t => t.length
decreasing_by
  · simp only [List.length_cons]
    exact Nat.lt_succ_of_le (length_of_stripClosedName? (by assumption))
  · simp
  · simp

/-- **Removing the name wherever it is a word of its own**: an occurrence at the start of the text
needs no delimiter before it. As for `leadingName?`, the name is taken to be short enough to be
searched for: a pattern matcher leaves a text as it is for a name beyond its limit. -/
def removeName (name t : Text) : Text :=
  if name.isEmpty then t
  else match stripClosedName? name t with
    | some (close, after) => close ++ removeInnerNames name after
    | none => removeInnerNames name t

@[simp] theorem removeName_nil_name (t : Text) : removeName [] t = t := rfl

end Blurb.Phrase
