import Blurb.Record
import Blurb.Text.Decimal
import Blurb.Yaml.Node

/-! # Reading data out of YAML

Two ways of reading a document: typed, where the wanted type decides what a scalar means, and
generic, where the spelling of a scalar decides. -/

namespace Blurb.Yaml

/-! ## Scalars -/

/-- A plain scalar that says that there is nothing. -/
def isNull (t : Text) : Bool :=
  t.isEmpty || ["~", "null", "Null", "NULL"].any fun word => t == word.toList

/-- A sign or none, a zero, and further digits: no number. -/
def isZeroLed (t : Text) : Bool :=
  let t := match t with
    | '+' :: rest => rest
    | '-' :: rest => rest
    | t => t
  1 < t.length && t.head? == some '0' && t.all Text.isDigit

/-- A text starts with a sign. -/
def isSigned (t : Text) : Bool := t.head? == some '+' || t.head? == some '-'

/-- The number behind a mark for its base. -/
def based? (mark : String) (base : Nat) (t : Text) : Option Nat :=
  (Text.strip? mark.toList t).bind (Text.number? base)

/-- **A natural number**, in base 10 without leading zeros, or in base 16, 8 or 2 behind a mark. -/
def nat? (bound : Nat) (t : Text) : Option Nat :=
  let body := (Text.strip? ['+'] t).getD t
  let number := (based? "0x" 16 body <|> based? "0o" 8 body <|> based? "0b" 2 body).or
    (if isSigned body || isZeroLed t then none else Text.number? 10 body)
  number.filter (· < bound)

/-- **A negative number**, in the same bases. -/
def negative? (bound : Nat) (t : Text) : Option Int :=
  let number := (based? "-0x" 16 t <|> based? "-0o" 8 t <|> based? "-0b" 2 t).or
    (if isZeroLed t then none else (Text.strip? ['-'] t).bind (Text.number? 10))
  (number.filter (· ≤ bound)).map fun n => -(n : Int)

/-- The bits of a number that is not one, and of the two infinities. -/
def nanBits : UInt64 := 0x7FF8000000000000

/-- The bits of infinity. -/
def infinityBits : UInt64 := 0x7FF0000000000000

/-- The bits of negative infinity. -/
def negativeInfinityBits : UInt64 := 0xFFF0000000000000

/-- The exponent behind a fraction: nothing, or a letter and digits with a sign or none. -/
def exponent? : Text → Option Int
  | [] => some 0
  | e :: rest =>
    if e = 'e' ∨ e = 'E' then
      match rest with
      | '-' :: rest => (Text.number? 10 rest).map fun n => -(n : Int)
      | '+' :: rest => (Text.number? 10 rest).map Int.ofNat
      | rest => (Text.number? 10 rest).map Int.ofNat
    else none

/-- The bits of a finite decimal number. -/
def finiteBits? (t : Text) : Option UInt64 := do
  let (negative, t) := match t with
    | '-' :: rest => (true, rest)
    | '+' :: rest => (false, rest)
    | t => (false, t)
  let (whole, rest) := Text.digits t
  let (fraction, rest) := match rest with
    | '.' :: rest => Text.digits rest
    | rest => ([], rest)
  if whole.isEmpty && fraction.isEmpty then none
  else
    let exponent ← exponent? rest
    Text.doubleBits? negative (Text.decimal (whole ++ fraction)) (exponent - fraction.length)

/-- **The bits of a number with a fraction.** -/
def float? (t : Text) : Option UInt64 :=
  let body := (Text.strip? ['+'] t).getD t
  let oneOf (t : Text) (words : List String) : Bool := words.any fun word => t == word.toList
  if body != t && isSigned body then none
  else if oneOf body [".inf", ".Inf", ".INF"] then some infinityBits
  else if oneOf t ["-.inf", "-.Inf", "-.INF"] then some negativeInfinityBits
  else if oneOf t [".nan", ".NaN", ".NAN"] then some nanBits
  else finiteBits? body

/-- A truth value. -/
def bool? (t : Text) : Option Bool :=
  if ["true", "True", "TRUE"].any fun word => t == word.toList then some true
  else if ["false", "False", "FALSE"].any fun word => t == word.toList then some false
  else none

/-! ## Typed reading -/

/-- The tag of a core type. -/
def coreTag (name : String) : Text := "tag:yaml.org,2002:".toList ++ name.toList

namespace Document

/-- The node itself, where it is a reference. -/
def resolve? (document : Document) : Node → Option Node
  | .alias id => document.deref? id
  | node => some node

/-- The text of any scalar. -/
def text? (document : Document) (node : Node) : Option Text :=
  match document.resolve? node with
  | some (.scalar _ _ text) => some text
  | _ => none

/-- A natural number: a plain scalar, or a literal block with the tag of integers. -/
def nat? (document : Document) (bound : Nat) (node : Node) : Option Nat :=
  match document.resolve? node with
  | some (.scalar .plain _ text) => Yaml.nat? bound text
  | some (.scalar .literal (some tag) text) =>
    if tag == coreTag "int" then Yaml.nat? bound text else none
  | _ => none

/-- The node is a plain scalar without text. -/
def isBlank : Node → Bool
  | .scalar .plain _ text => text.isEmpty
  | _ => false

/-- The items of a sequence; nothing written is no items. -/
def items? (document : Document) (node : Node) : Option (List Node) :=
  match document.resolve? node with
  | some (.sequence _ items) => some items
  | some node => if isBlank node then some [] else none
  | none => none

/-- **A part that may say that there is nothing**: a plain scalar with one of the words for it. -/
def present? (document : Document) (node : Node) : Option (Option Node) :=
  match document.resolve? node with
  | some (.scalar .plain none text) => some (if isNull text then none else some node)
  | some (.scalar .plain (some tag) text) =>
    if tag == coreTag "null" then if isNull text && !text.isEmpty then some none else none
    else some (some node)
  | some _ => some (some node)
  | none => none

/-- The known members of a mapping; keys must be scalars, and none of the known may stand twice. -/
def members? (document : Document) (names : List Text) :
    List (Node × Node) → Option (List (Text × Node))
  | [] => some []
  | (key, value) :: rest => do
    let name ← document.text? key
    let known ← members? document names rest
    if names.contains name then
      if known.any fun field => field.1 == name then none else some ((name, value) :: known)
    else some known

/-- **A record with fields of the given names**: a mapping, of which other members are ignored;
nothing written is a record without fields. -/
def record? (document : Document) (names : List Text) (node : Node) : Option (Record Node) :=
  match document.resolve? node with
  | some (.mapping _ entries) => (document.members? names entries).map fun fields => ⟨false, fields⟩
  | some node => if isBlank node then some ⟨false, []⟩ else none
  | none => none

/-- **What YAML offers to a reader of records.** A choice is written as its name. -/
def format (document : Document) : Format Node where
  record? := document.record?
  text? := document.text?
  nat? := document.nat?
  items? := document.items?
  present? := document.present?
  choice? := document.text?

end Document

/-! ## Generic reading -/

/-- **A YAML value.** -/
inductive Value where
  /-- Nothing. -/
  | null
  /-- A truth value. -/
  | bool (b : Bool)
  /-- An integer. -/
  | int (n : Int)
  /-- A number with a fraction, by its bits. -/
  | float (bits : UInt64)
  /-- A text. -/
  | string (t : Text)
  /-- A sequence. -/
  | sequence (items : List Value)
  /-- A mapping. -/
  | mapping (entries : List (Value × Value))
  /-- A value with a tag of its own. -/
  | tagged (tag : Text) (value : Value)
deriving BEq

/-- What a plain scalar without a tag stands for. Integers beyond 64 bits are refused up to 128
bits, and are numbers with a fraction beyond that. -/
def plainValue? (t : Text) : Option Value :=
  if isNull t then some .null
  else match bool? t with
    | some b => some (.bool b)
    | none =>
      match nat? (Text.bitBound 64) t, negative? (Text.bitBound 63) t with
      | some n, _ => some (.int n)
      | none, some n => some (.int n)
      | none, none =>
        if (nat? (Text.bitBound 128) t).isSome || (negative? (Text.bitBound 127) t).isSome then none
        else if isZeroLed t then some (.string t)
        else match float? t with
          | some bits => some (.float bits)
          | none => some (.string t)

/-- What a scalar with a tag of the core types stands for; other tags make it a text. -/
def taggedValue? (tag t : Text) : Option Value :=
  if tag == coreTag "bool" then (bool? t).map .bool
  else if tag == coreTag "int" then
    match nat? (Text.bitBound 64) t, negative? (Text.bitBound 63) t with
    | some n, _ => some (.int n)
    | none, some n => some (.int n)
    | none, none => none
  else if tag == coreTag "float" then (float? t).map .float
  else if tag == coreTag "null" then if isNull t && !t.isEmpty then some .null else none
  else some (.string t)

/-- **A tag of its own**: what follows its exclamation mark, or the mark alone. -/
def ownTag? : Option Text → Option Text
  | some ('!' :: []) => some ['!']
  | some ('!' :: rest) => some rest
  | _ => none

/-- The greatest number of collections that may stand inside each other. -/
def maxDepth : Nat := 128

namespace Document

mutual

/-- The number of scalars, references, and starts and ends of collections. -/
def size : Node → Nat
  | .sequence _ items => sizeItems items + 2
  | .mapping _ entries => sizeEntries entries + 2
  | _ => 1

/-- The same for all items. -/
def sizeItems : List Node → Nat
  | [] => 0
  | item :: items => size item + sizeItems items

/-- The same for all entries. -/
def sizeEntries : List (Node × Node) → Nat
  | [] => 0
  | (key, value) :: entries => size key + size value + sizeEntries entries

end

/-- Adds an entry to a mapping, the latest first; a key may not stand twice. -/
def addMember? (entries : List (Value × Value)) (key value : Value) :
    Option (List (Value × Value)) :=
  if entries.any (·.1 == key) then none else some ((key, value) :: entries)

/-- **The value of a node** at a remaining depth, with the number of references that may still be
followed. -/
def value? (document : Document) : Nat → Node → Nat → Option (Value × Nat)
  | depth, node, jumps =>
    let wrap (tag : Option Text) (answer : Option (Value × Nat)) : Option (Value × Nat) :=
      match ownTag? tag with
      | some tag => answer.map fun (value, jumps) => (.tagged tag value, jumps)
      | none => answer
    let collection (node : Node) (jumps : Nat) : Option (Value × Nat) :=
      match node, depth with
      | .scalar style tag text, _ =>
        let isPlain := style == .plain
        match tag, ownTag? tag with
        -- the tag is kept; the text is read as if it had none
        | some _, some own =>
          (if isPlain then plainValue? text else some (.string text)).map fun value =>
            (.tagged own value, jumps)
        | some tag, none => (taggedValue? tag text).map (·, jumps)
        | none, _ =>
          (if isPlain then plainValue? text else some (.string text)).map (·, jumps)
      | .sequence tag items, depth + 1 =>
        wrap tag <| (items.foldlM (m := Option) (fun (done, jumps) item => do
          let (value, jumps) ← value? document depth item jumps
          some (value :: done, jumps)) ([], jumps)).map fun (done, jumps) =>
            (.sequence done.reverse, jumps)
      | .mapping tag entries, depth + 1 =>
        wrap tag <| (entries.foldlM (m := Option) (fun (done, jumps) (key, value) => do
          let (key, jumps) ← value? document depth key jumps
          let (value, jumps) ← value? document depth value jumps
          some (← addMember? done key value, jumps)) ([], jumps)).map fun (done, jumps) =>
            (.mapping done.reverse, jumps)
      | _, _ => none
    match node with
    | .alias id =>
      match jumps, document.deref? id with
      | jumps + 1, some node => collection node jumps
      | _, _ => none
    | node => collection node jumps

/-- **The value of a document**; an empty text has none. References may be followed a hundred times
for each part of the text. -/
def generic? (document : Document) : Option Value :=
  match document.root with
  | none => some .null
  | some root => (document.value? maxDepth root (100 * size root)).map (·.1)

end Document

/-- The value without its tag. -/
def Value.untagged : Value → Value
  | .tagged _ value => value.untagged
  | value => value

/-- **The keys of a mapping that are texts.** -/
def Value.textKeys (value : Value) : List Text :=
  match value.untagged with
  | .mapping entries => entries.filterMap fun (key, _) =>
    match key.untagged with
    | .string t => some t
    | _ => none
  | _ => []

end Blurb.Yaml
