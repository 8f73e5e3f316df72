import Blurb.Json.Document
import Blurb.Json.Value
import Mathlib.Data.List.Forall2
import Mathlib.Data.List.TakeDrop

/-! # Printed JSON can be read

What is printed as a JSON document is one JSON document: the reader takes all of it and gets the
value back.

* `stringParts?_flatMap_escapeChar` and `numeral?_ofNat`: strings and numbers.
* `Writes`: a text is cut into tokens, whatever follows it; `Value.writes_pretty`.
* `Builds`: tokens are put together to a document, wherever it stands; `Value.builds_tokens`.
* `Value.parse?_document`: printing and reading. -/

namespace Blurb.Json

open Text

/-! ## Strings -/

/-- The code unit that the escape of a control character writes. -/
theorem number?_escape {n : Nat} (h : n < 0x20) :
    number? 16 ['0', '0', hexDigit (n / 16), hexDigit n] = some n := by
  have hall : ∀ n < 0x20, number? 16 ['0', '0', hexDigit (n / 16), hexDigit n] = some n := by
    decide
  exact hall n h

/-- The characters that have a short escape. -/
def shortlyEscaped : List Char :=
  ['"', '\\', '\n', '\r', '\t', Char.ofNat 8, Char.ofNat 12]

/-- **What an escaped character is read as**: control characters without a short escape are read as
their code unit. -/
def escapePart (c : Char) : StringPart :=
  if c.toNat < 0x20 ∧ c ∉ shortlyEscaped then .unit c.toNat else .char c

theorem stringParts?_escapeChar (c : Char) (rest : Text) :
    stringParts? (escapeChar c ++ rest) =
      (stringParts? rest).map fun (parts, after) => (escapePart c :: parts, after) := by
  by_cases hshort : c ∈ shortlyEscaped
  · have hpart : escapePart c = .char c := if_neg (by simp [hshort])
    rw [hpart]
    simp only [shortlyEscaped, List.mem_cons, List.not_mem_nil, or_false] at hshort
    rcases hshort with rfl | rfl | rfl | rfl | rfl | rfl | rfl <;>
      cases h : stringParts? rest <;> simp [escapeChar, stringParts?, shortEscape?, h]
  have hother : c ≠ '"' ∧ c ≠ '\\' ∧ c ≠ '\n' ∧ c ≠ '\r' ∧ c ≠ '\t' ∧
      c.toNat ≠ 8 ∧ c.toNat ≠ 12 := by
    simpa [shortlyEscaped, ← Char.toNat_inj] using hshort
  obtain ⟨hquote, hslash, hn, hr, ht, hb, hf⟩ := hother
  by_cases hcontrol : c.toNat < 0x20
  · have hpart : escapePart c = .unit c.toNat := if_pos ⟨hcontrol, hshort⟩
    have hescape : escapeChar c =
        ['\\', 'u', '0', '0', hexDigit (c.toNat / 16), hexDigit c.toNat] := by
      simp [escapeChar, hquote, hslash, hcontrol, hn, hr, ht, hb, hf]
    rw [hpart, hescape]
    cases h : stringParts? rest <;> simp [stringParts?, number?_escape hcontrol, h]
  · have hpart : escapePart c = .char c := if_neg (by simp [hcontrol])
    have hescape : escapeChar c = [c] := by simp [escapeChar, hquote, hslash, hcontrol]
    rw [hpart, hescape]
    cases h : stringParts? rest <;> simp [stringParts?, hslash, hcontrol, h]

/-- Every character of a string is read as one part, up to the closing quote. -/
theorem stringParts?_flatMap_escapeChar (t rest : Text) :
    stringParts? (t.flatMap escapeChar ++ '"' :: rest) = some (t.map escapePart, rest) := by
  induction t with
  | nil => simp [stringParts?]
  | cons c t ih =>
    rw [List.flatMap_cons, List.append_assoc, stringParts?_escapeChar, ih]
    rfl

/-- No escaped character is half of a surrogate pair. -/
theorem textOfParts?_escapePart (c : Char) (parts : List StringPart) :
    textOfParts? (escapePart c :: parts) = (textOfParts? parts).map (c :: ·) := by
  unfold escapePart
  split
  · next h =>
    have hhigh : ¬ (0xD800 ≤ c.toNat ∧ c.toNat < 0xDC00) := by omega
    have hlow : ¬ (0xDC00 ≤ c.toNat ∧ c.toNat < 0xE000) := by omega
    have hany : ¬ (0xD800 ≤ c.toNat ∧ c.toNat < 0xE000) := by omega
    cases parts with
    | nil => simp [textOfParts?, hany]
    | cons part parts => cases part <;> simp [textOfParts?, hhigh, hlow, hany]
  · rfl

/-- **A string is read back.** -/
theorem textOfParts?_map_escapePart (t : Text) : textOfParts? (t.map escapePart) = some t := by
  induction t with
  | nil => rfl
  | cons c t ih => rw [List.map_cons, textOfParts?_escapePart, ih, Option.map_some]

/-! ## Numbers -/

/-- **What may stand behind a value**: nothing, a comma or a line break. None of it goes on with a
number. -/
def Breaks (rest : Text) : Prop := ∀ c, rest.head? = some c → c = ',' ∨ c = '\n'

theorem breaks_cons {c : Char} (h : c = ',' ∨ c = '\n') (rest : Text) : Breaks (c :: rest) := by
  rintro _ ⟨⟩
  exact h

theorem breaks_newline (depth : Nat) (rest : Text) : Breaks (newline depth ++ rest) :=
  breaks_cons (.inr rfl) _

/-- A number is written in digits. -/
theorem isDigit_of_mem_ofNat {n : Nat} {c : Char} (h : c ∈ ofNat n) : isDigit c = true := by
  have hdigit := Nat.isDigit_of_mem_toDigits (by decide) (by decide) h
  simpa [isDigit, Char.isDigit, Char.le_def] using hdigit

/-- A number of several digits does not start with a zero. -/
theorem head?_ofNat_ne {n : Nat} (h : 0 < n) : (ofNat n).head? ≠ some '0' := by
  induction n using Nat.strongRecOn with
  | ind n ih =>
    by_cases hsmall : n < 10
    · rw [ofNat, Nat.toDigits_of_lt_base hsmall]
      have hall : ∀ n < 10, 0 < n → [Nat.digitChar n].head? ≠ some '0' := by decide
      exact hall n hsmall h
    · have hless : n / 10 < n := by omega
      have hpos : 0 < n / 10 := by omega
      rw [ofNat, Nat.toDigits_of_base_le (by decide) (by omega),
        List.head?_append_of_ne_nil _ Nat.toDigits_ne_nil]
      exact ih _ hless hpos

/-- The digits of a number end where something else may stand behind it. -/
theorem digits_ofNat {rest : Text} (n : Nat) (h : Breaks rest) :
    digits (ofNat n ++ rest) = (ofNat n, rest) := by
  have hend : rest.takeWhile isDigit = [] ∧ rest.dropWhile isDigit = rest := by
    cases rest with
    | nil => exact ⟨rfl, rfl⟩
    | cons c rest =>
      have hc : isDigit c = false := by
        rcases h c rfl with rfl | rfl <;> rfl
      simp [hc]
  rw [digits, List.span_eq_takeWhile_dropWhile,
    List.takeWhile_append_of_pos fun c => isDigit_of_mem_ofNat,
    List.dropWhile_append_of_pos fun c => isDigit_of_mem_ofNat, hend.1, hend.2, List.append_nil]

/-- **A number is read back** as the numeral that it is printed as. -/
theorem numeral?_ofNat {rest : Text} (n : Nat) (h : Breaks rest) :
    numeral? (ofNat n ++ rest) = some (⟨false, ofNat n, [], none⟩, rest) := by
  obtain ⟨c, more, hdigits⟩ : ∃ c more, ofNat n = c :: more :=
    List.exists_cons_of_ne_nil Nat.toDigits_ne_nil
  have hc : isDigit c = true := isDigit_of_mem_ofNat (hdigits ▸ List.mem_cons_self)
  have hminus : c ≠ '-' := by
    rintro rfl
    exact absurd hc (by decide)
  -- a leading zero is all there is
  have hzero : c = '0' → more = [] := by
    rintro rfl
    by_cases hn : n = 0
    · subst hn
      exact (List.cons.inj hdigits).2.symm
    · exact absurd (by rw [hdigits]; rfl) (head?_ofNat_ne (Nat.pos_of_ne_zero hn))
  have hfraction : fraction? rest = some ([], rest) := by
    cases rest with
    | nil => rfl
    | cons d rest => rcases h d rfl with rfl | rfl <;> rfl
  have hexponent : exponent? rest = some (none, rest) := by
    cases rest with
    | nil => rfl
    | cons d rest => rcases h d rfl with rfl | rfl <;> rfl
  have hrun := digits_ofNat n h
  have hpositive : ∀ t, c :: (more ++ rest) = '-' :: t → False := fun _ heq =>
    hminus (List.cons.inj heq).1
  rw [hdigits, List.cons_append] at hrun ⊢
  by_cases hc0 : c = '0'
  · obtain rfl := hzero hc0
    subst hc0
    rw [List.nil_append] at hrun ⊢
    rw [numeral?, hrun]
    · simp [hfraction, hexponent]
    · exact hpositive
  · rw [numeral?, hrun]
    · simp [hc0, hfraction, hexponent]
    · exact hpositive

/-! ## Texts and tokens -/

/-- Blanks between tokens do not matter. -/
theorem tokens?_of_isSpace {c : Char} (h : isSpace c = true) (rest : Text) :
    tokens? (c :: rest) = tokens? rest := by
  rw [tokens?, if_pos h]

/-- One token is taken off. -/
theorem tokens?_of_token? {c : Char} {rest after : Text} {token : Token} (hc : isSpace c = false)
    (htoken : token? c rest = some (token, after)) (hlength : after.length ≤ rest.length) :
    tokens? (c :: rest) = (tokens? after).map (token :: ·) := by
  rw [tokens?, if_neg (by simp [hc]), htoken]
  exact if_pos hlength

/-- A mark of one character is taken off. -/
theorem tokens?_of_mark {c : Char} {token : Token} (hc : isSpace c = false)
    (h : ∀ rest, token? c rest = some (token, rest)) (rest : Text) :
    tokens? (c :: rest) = (tokens? rest).map (token :: ·) :=
  tokens?_of_token? hc (h rest) (Nat.le_refl _)

/-- Indentation does not matter. -/
theorem tokens?_newline (depth : Nat) (rest : Text) :
    tokens? (newline depth ++ rest) = tokens? rest := by
  have hblanks : ∀ count, tokens? (List.replicate count ' ' ++ rest) = tokens? rest := by
    intro count
    induction count with
    | zero => rfl
    | succ count ih =>
      rw [List.replicate_succ, List.cons_append, tokens?_of_isSpace (by decide), ih]
  rw [newline, List.cons_append, tokens?_of_isSpace (by decide), hblanks]

/-- **A text writes tokens**: it is cut into them, whatever stands behind it. -/
def Writes (text : Text) (tokens : List Token) : Prop :=
  ∀ rest, Breaks rest → tokens? (text ++ rest) = (tokens? rest).map (tokens ++ ·)

/-- A single token is written by a text that starts with no blank. -/
theorem writes_word {c : Char} {word : Text} {token : Token} (hc : isSpace c = false)
    (h : ∀ rest, token? c (word ++ rest) = some (token, rest)) : Writes (c :: word) [token] := by
  intro rest _
  rw [List.cons_append, tokens?_of_token? hc (h rest) (by simp)]
  rfl

/-- A string ends at its closing quote. -/
theorem tokens?_quote (t rest : Text) :
    tokens? (quote t ++ rest) = (tokens? rest).map (.string (some t) :: ·) := by
  have htoken : token? '"' (t.flatMap escapeChar ++ '"' :: rest) =
      some (.string (some t), rest) := by
    simp only [token?, stringParts?_flatMap_escapeChar, Option.map_some,
      textOfParts?_map_escapePart]
  have hlength : rest.length ≤ (t.flatMap escapeChar ++ '"' :: rest).length := by
    rw [List.length_append, List.length_cons]
    omega
  rw [quote, List.cons_append, List.cons_append, List.append_assoc, List.singleton_append,
    tokens?_of_token? (by decide) htoken hlength]

/-- A digit starts a number. -/
theorem token?_of_isDigit {c : Char} (h : isDigit c = true) (rest : Text) :
    token? c rest = (numeral? (c :: rest)).map fun (n, after) => (.number n, after) := by
  unfold token?
  split <;> first | rfl | exact absurd h (by decide)

theorem writes_ofNat (n : Nat) : Writes (ofNat n) [.number ⟨false, ofNat n, [], none⟩] := by
  intro rest hrest
  obtain ⟨c, more, hdigits⟩ : ∃ c more, ofNat n = c :: more :=
    List.exists_cons_of_ne_nil Nat.toDigits_ne_nil
  have hc : isDigit c = true := isDigit_of_mem_ofNat (hdigits ▸ List.mem_cons_self)
  have hspace : isSpace c = false := by
    by_contra h
    simp only [isSpace, Bool.not_eq_false, Bool.or_eq_true, decide_eq_true_eq] at h
    rcases h with ((rfl | rfl) | rfl) | rfl <;> exact absurd hc (by decide)
  have htoken : token? c (more ++ rest) =
      some (.number ⟨false, ofNat n, [], none⟩, rest) := by
    rw [token?_of_isDigit hc, ← List.cons_append, ← hdigits, numeral?_ofNat n hrest,
      Option.map_some]
  conv_lhs => rw [hdigits]
  rw [List.cons_append, tokens?_of_token? hspace htoken (by simp)]
  rfl

/-- The tokens of parts with commas between them. -/
def separate : List (List Token) → List Token
  | [] => []
  | [part] => part
  | part :: other :: parts => part ++ .comma :: separate (other :: parts)

/-- Parts on lines of their own, with commas between them. -/
theorem writes_join {texts : List Text} {parts : List (List Token)}
    (h : List.Forall₂ Writes texts parts) (depth : Nat) :
    texts ≠ [] → Writes (join (',' :: newline depth) texts) (separate parts) := by
  induction h with
  | nil => simp
  | @cons text part texts parts hpart hparts ih =>
    intro _
    cases hparts with
    | nil => exact hpart
    | @cons other next texts parts hnext hrest =>
      intro rest hbreaks
      have hcomma : ∀ rest, tokens? (',' :: rest) = (tokens? rest).map (.comma :: ·) :=
        tokens?_of_mark (by decide) fun _ => rfl
      simp only [join, List.append_assoc, List.cons_append]
      rw [hpart _ (breaks_cons (.inl rfl) _), hcomma, tokens?_newline, ih (by simp) rest hbreaks,
        Option.map_map, Option.map_map]
      simp only [Function.comp_def, separate, List.append_assoc, List.cons_append]

/-- **Parts between brackets.** -/
theorem writes_bracketed {texts : List Text} {parts : List (List Token)}
    (h : List.Forall₂ Writes texts parts) (depth : Nat) {opening closing : Char}
    {start finish : Token}
    (hopening : ∀ rest, tokens? (opening :: rest) = (tokens? rest).map (start :: ·))
    (hclosing : ∀ rest, tokens? (closing :: rest) = (tokens? rest).map (finish :: ·)) :
    Writes (bracketed depth opening closing texts) (start :: (separate parts ++ [finish])) := by
  intro rest _
  rw [bracketed]
  by_cases hempty : texts = []
  · subst hempty
    cases h
    rw [List.isEmpty_nil, if_pos rfl, List.cons_append, List.singleton_append, hopening, hclosing,
      Option.map_map]
    rfl
  · rw [if_neg (by simpa using hempty)]
    simp only [List.cons_append, List.append_assoc, List.nil_append]
    rw [hopening, tokens?_newline, writes_join h (depth + 1) hempty _ (breaks_newline _ _),
      tokens?_newline, hclosing, Option.map_map, Option.map_map]
    rfl

/-! ## The tokens of a value -/

mutual

/-- **The tokens of a printed value.** -/
def Value.tokens : Value → List Token
  | .null => [.null]
  | .bool b => [.bool b]
  | .nat n => [.number ⟨false, ofNat n, [], none⟩]
  | .str t => [.string (some t)]
  | .arr items => .openArray :: (separate (itemTokens items) ++ [.closeArray])
  | .obj members => .openObject :: (separate (memberTokens members) ++ [.closeObject])

/-- The tokens of the items of an array, one by one. -/
def itemTokens : List Value → List (List Token)
  | [] => []
  | item :: items => item.tokens :: itemTokens items

/-- The tokens of the members of an object, one by one. -/
def memberTokens : List (Text × Value) → List (List Token)
  | [] => []
  | (name, value) :: members =>
    (.string (some name) :: .colon :: value.tokens) :: memberTokens members

end

/-- **A member** is its name, a colon and its value. -/
theorem writes_member (name : Text) {text : Text} {tokens : List Token} (h : Writes text tokens) :
    Writes (quote name ++ [':', ' '] ++ text) (.string (some name) :: .colon :: tokens) := by
  intro rest hrest
  have hcolon : ∀ rest, tokens? (':' :: rest) = (tokens? rest).map (.colon :: ·) :=
    tokens?_of_mark (by decide) fun _ => rfl
  rw [List.append_assoc, List.append_assoc, tokens?_quote, List.cons_append, List.cons_append,
    List.nil_append, hcolon, tokens?_of_isSpace (by decide), h rest hrest, Option.map_map,
    Option.map_map]
  rfl

mutual

/-- **A value is printed as its tokens**, on any level of indentation. -/
theorem Value.writes_pretty (depth : Nat) : ∀ value : Value,
    Writes (value.pretty depth) value.tokens
  | .null => by
    rw [Value.pretty, Value.tokens]
    exact writes_word (by decide) fun _ => rfl
  | .bool true => by
    rw [Value.pretty, Value.tokens]
    exact writes_word (by decide) fun _ => rfl
  | .bool false => by
    rw [Value.pretty, Value.tokens]
    exact writes_word (by decide) fun _ => rfl
  | .nat n => by
    rw [Value.pretty, Value.tokens]
    exact writes_ofNat n
  | .str t => by
    rw [Value.pretty, Value.tokens]
    exact fun rest _ => tokens?_quote t rest
  | .arr items => by
    rw [Value.pretty, Value.tokens]
    exact writes_bracketed (writes_items (depth + 1) items) depth
      (tokens?_of_mark (by decide) fun _ => rfl) (tokens?_of_mark (by decide) fun _ => rfl)
  | .obj members => by
    rw [Value.pretty, Value.tokens]
    exact writes_bracketed (writes_members (depth + 1) members) depth
      (tokens?_of_mark (by decide) fun _ => rfl) (tokens?_of_mark (by decide) fun _ => rfl)

theorem writes_items (depth : Nat) : ∀ items : List Value,
    List.Forall₂ Writes (prettyItems depth items) (itemTokens items)
  | [] => .nil
  | item :: items => .cons (item.writes_pretty depth) (writes_items depth items)

theorem writes_members (depth : Nat) : ∀ members : List (Text × Value),
    List.Forall₂ Writes (prettyMembers depth members) (memberTokens members)
  | [] => .nil
  | (name, value) :: members =>
    .cons (writes_member name (value.writes_pretty depth)) (writes_members depth members)

end

/-! ## Tokens and documents -/

mutual

/-- **What a printed value is read as.** -/
def Value.toDocument : Value → Document
  | .null => .null
  | .bool b => .bool b
  | .nat n => .number ⟨false, ofNat n, [], none⟩
  | .str t => .string (some t)
  | .arr items => .array (itemDocuments items)
  | .obj members => .object (memberDocuments members)

/-- The items of an array, one by one. -/
def itemDocuments : List Value → List Document
  | [] => []
  | item :: items => item.toDocument :: itemDocuments items

/-- The members of an object, one by one. -/
def memberDocuments : List (Text × Value) → List (Option Text × Document)
  | [] => []
  | (name, value) :: members => (some name, value.toDocument) :: memberDocuments members

end

theorem build?_of_advance? {frames next : List Frame} {expected then_ : Expected} {token : Token}
    (h : advance? frames expected token = some (next, then_)) (rest : List Token) :
    build? frames expected (token :: rest) = build? next then_ rest := by
  rw [build?, h]

/-- A value may come next. -/
def Expected.IsValue (expected : Expected) : Prop := expected = .value ∨ expected = .valueOrEnd

/-- The name of a member may come next. -/
def Expected.IsName (expected : Expected) : Prop := expected = .name ∨ expected = .nameOrEnd

/-- **Tokens build a document**: where a value may come next, it is put where it belongs. -/
def Builds (tokens : List Token) (document : Document) : Prop :=
  ∀ frames expected, Expected.IsValue expected → ∀ rest,
    build? frames expected (tokens ++ rest) =
      build? (place document frames).1 (place document frames).2 rest

theorem advance?_of_start? {frames next : List Frame} {expected then_ : Expected} {token : Token}
    (hexpected : expected.IsValue) (h : start? frames token = some (next, then_)) :
    advance? frames expected token = some (next, then_) := by
  rcases hexpected with rfl | rfl
  · exact h
  · rw [advance?, if_neg, h]
    rintro rfl
    cases h

theorem builds_scalar {token : Token} {document : Document}
    (h : ∀ frames, start? frames token = some (place document frames)) :
    Builds [token] document := by
  intro frames expected hexpected rest
  exact build?_of_advance? (advance?_of_start? hexpected (h frames)) rest

/-- **The items of an array** up to its end, behind those that are there already. -/
theorem build?_items {parts : List (List Token)} {items : List Document}
    (h : List.Forall₂ Builds parts items) (frames : List Frame) (rest : List Token) :
    ∀ before expected, Expected.IsValue expected → parts ≠ [] →
      build? (.array before :: frames) expected (separate parts ++ .closeArray :: rest) =
        build? (place (.array (before.reverse ++ items)) frames).1
          (place (.array (before.reverse ++ items)) frames).2 rest := by
  induction h with
  | nil => simp
  | @cons part item parts items hpart hparts ih =>
    intro before expected hexpected _
    cases hparts with
    | nil =>
      rw [separate, hpart _ _ hexpected, place, build?_of_advance? rfl, List.reverse_cons]
      rfl
    | @cons next other parts items hnext hrest =>
      have hcomma : advance? (.array (item :: before) :: frames) .commaOrEnd .comma =
          some (.array (item :: before) :: frames, .value) := rfl
      rw [separate, List.append_assoc, hpart _ _ hexpected, place, List.cons_append,
        build?_of_advance? hcomma, ih (item :: before) .value (.inl rfl) (by simp),
        List.reverse_cons, List.append_assoc, List.singleton_append]

/-- The tokens of a member. -/
def BuildsMember (tokens : List Token) (member : Option Text × Document) : Prop :=
  ∃ value, tokens = .string member.1 :: .colon :: value ∧ Builds value member.2

/-- One member takes its place in its object. -/
theorem build?_member {tokens : List Token} {member : Option Text × Document}
    (h : BuildsMember tokens member) (frames : List Frame) (rest : List Token)
    (before : List (Option Text × Document)) {expected : Expected} (hexpected : expected.IsName) :
    build? (.object before :: frames) expected (tokens ++ rest) =
      build? (.object (member :: before) :: frames) .commaOrEnd rest := by
  obtain ⟨value, rfl, hvalue⟩ := h
  have hname : advance? (.object before :: frames) expected (.string member.1) =
      some (.member before member.1 :: frames, .colon) := by
    rcases hexpected with rfl | rfl <;> rfl
  rw [List.cons_append, List.cons_append, build?_of_advance? hname, build?_of_advance? rfl,
    hvalue _ _ (.inl rfl)]
  rfl

/-- **The members of an object** up to its end, behind those that are there already. -/
theorem build?_members {parts : List (List Token)} {members : List (Option Text × Document)}
    (h : List.Forall₂ BuildsMember parts members) (frames : List Frame) (rest : List Token) :
    ∀ before expected, Expected.IsName expected → parts ≠ [] →
      build? (.object before :: frames) expected (separate parts ++ .closeObject :: rest) =
        build? (place (.object (before.reverse ++ members)) frames).1
          (place (.object (before.reverse ++ members)) frames).2 rest := by
  induction h with
  | nil => simp
  | @cons part member parts members hpart hparts ih =>
    intro before expected hexpected _
    cases hparts with
    | nil =>
      rw [separate, build?_member hpart _ _ _ hexpected, build?_of_advance? rfl, List.reverse_cons]
      rfl
    | @cons next other parts members hnext hrest =>
      have hcomma : advance? (.object (member :: before) :: frames) .commaOrEnd .comma =
          some (.object (member :: before) :: frames, .name) := rfl
      rw [separate, List.append_assoc, build?_member hpart _ _ _ hexpected, List.cons_append,
        build?_of_advance? hcomma, ih (member :: before) .name (.inl rfl) (by simp),
        List.reverse_cons, List.append_assoc, List.singleton_append]

theorem builds_array {parts : List (List Token)} {items : List Document}
    (h : List.Forall₂ Builds parts items) :
    Builds (.openArray :: (separate parts ++ [.closeArray])) (.array items) := by
  intro frames expected hexpected rest
  rw [List.cons_append, List.append_assoc, List.singleton_append,
    build?_of_advance? (advance?_of_start? hexpected rfl)]
  cases h with
  | nil => exact build?_of_advance? rfl rest
  | cons hpart hparts =>
    exact build?_items (.cons hpart hparts) frames rest [] _ (.inr rfl) (by simp)

theorem builds_object {parts : List (List Token)} {members : List (Option Text × Document)}
    (h : List.Forall₂ BuildsMember parts members) :
    Builds (.openObject :: (separate parts ++ [.closeObject])) (.object members) := by
  intro frames expected hexpected rest
  rw [List.cons_append, List.append_assoc, List.singleton_append,
    build?_of_advance? (advance?_of_start? hexpected rfl)]
  cases h with
  | nil => exact build?_of_advance? rfl rest
  | cons hpart hparts =>
    exact build?_members (.cons hpart hparts) frames rest [] _ (.inr rfl) (by simp)

mutual

/-- **The tokens of a value build what it is read as.** -/
theorem Value.builds_tokens : ∀ value : Value, Builds value.tokens value.toDocument
  | .null => builds_scalar fun _ => rfl
  | .bool b => builds_scalar fun _ => rfl
  | .nat n => builds_scalar fun _ => rfl
  | .str t => builds_scalar fun _ => rfl
  | .arr items => by
    rw [Value.tokens, Value.toDocument]
    exact builds_array (builds_items items)
  | .obj members => by
    rw [Value.tokens, Value.toDocument]
    exact builds_object (builds_members members)

theorem builds_items : ∀ items : List Value,
    List.Forall₂ Builds (itemTokens items) (itemDocuments items)
  | [] => .nil
  | item :: items => .cons item.builds_tokens (builds_items items)

theorem builds_members : ∀ members : List (Text × Value),
    List.Forall₂ BuildsMember (memberTokens members) (memberDocuments members)
  | [] => .nil
  | (_, value) :: members => .cons ⟨_, rfl, value.builds_tokens⟩ (builds_members members)

end

/-- **A printed document is one JSON document**, from which the value is read back. -/
theorem Value.parse?_document (value : Value) :
    Document.parse? value.document = some value.toDocument := by
  have hend : tokens? ['\n'] = some [] := by
    rw [tokens?_of_isSpace (by decide), tokens?]
  have htokens : tokens? value.document = some value.tokens := by
    rw [document, value.writes_pretty 0 _ (breaks_cons (.inr rfl) []), hend, Option.map_some,
      List.append_nil]
  have hbuild := value.builds_tokens [] .value (.inl rfl) []
  rw [List.append_nil] at hbuild
  rw [Document.parse?, htokens]
  exact hbuild

end Blurb.Json
