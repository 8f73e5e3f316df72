import Blurb.Json.Token
import Blurb.Record

/-! # JSON documents

The tree of a JSON text that is read, and how the data of a record are taken out of it. Reading is
strict about what a record asks for and lenient about what it does not: unknown members only have to
be well-formed. -/

namespace Blurb.Json

/-- **A JSON document.** Strings are nothing where an escape names half of a surrogate pair. -/
inductive Document where
  /-- The null value. -/
  | null
  /-- A truth value. -/
  | bool (b : Bool)
  /-- A number. -/
  | number (n : Numeral)
  /-- A string. -/
  | string (t : Option Text)
  /-- An array. -/
  | array (items : List Document)
  /-- An object with its members in order; a name may stand several times. -/
  | object (members : List (Option Text × Document))

/-- **A container that is still open**: what it holds so far, the latest first. -/
inductive Frame where
  /-- An array. -/
  | array (items : List Document)
  /-- An object. -/
  | object (members : List (Option Text × Document))
  /-- An object that waits for the value of the member of the given name. -/
  | member (members : List (Option Text × Document)) (name : Option Text)

/-- **What may come next.** -/
inductive Expected where
  /-- A value. -/
  | value
  /-- A value, or the end of an array without items. -/
  | valueOrEnd
  /-- The name of a member. -/
  | name
  /-- The name of a member, or the end of an object without members. -/
  | nameOrEnd
  /-- The colon behind a name. -/
  | colon
  /-- A comma or the end of the container. -/
  | commaOrEnd
  /-- Nothing: the document is complete. -/
  | nothing (document : Document)

/-- Puts a finished value where it belongs. -/
def place (value : Document) : List Frame → List Frame × Expected
  | [] => ([], .nothing value)
  | .array items :: frames => (.array (value :: items) :: frames, .commaOrEnd)
  | .object members :: frames => (.object members :: frames, .commaOrEnd)
  | .member members name :: frames => (.object ((name, value) :: members) :: frames, .commaOrEnd)

/-- The start of a value: a scalar is placed, a container is opened. -/
def start? (frames : List Frame) : Token → Option (List Frame × Expected)
  | .null => some (place .null frames)
  | .bool b => some (place (.bool b) frames)
  | .number n => some (place (.number n) frames)
  | .string t => some (place (.string t) frames)
  | .openArray => some (.array [] :: frames, .valueOrEnd)
  | .openObject => some (.object [] :: frames, .nameOrEnd)
  | _ => none

/-- The end of the innermost container. -/
def finish? (token : Token) (frames : List Frame) : Option (List Frame × Expected) :=
  match token, frames with
  | .closeArray, .array items :: frames => some (place (.array items.reverse) frames)
  | .closeObject, .object members :: frames => some (place (.object members.reverse) frames)
  | _, _ => none

/-- The name of a member. -/
def name? (token : Token) (frames : List Frame) : Option (List Frame × Expected) :=
  match token, frames with
  | .string name, .object members :: frames => some (.member members name :: frames, .colon)
  | _, _ => none

/-- **One token of a document.** -/
def advance? (frames : List Frame) (expected : Expected) (token : Token) :
    Option (List Frame × Expected) :=
  match expected with
  | .value => start? frames token
  | .valueOrEnd => if token = .closeArray then finish? token frames else start? frames token
  | .name => name? token frames
  | .nameOrEnd => if token = .closeObject then finish? token frames else name? token frames
  | .colon => if token = .colon then some (frames, .value) else none
  | .commaOrEnd =>
    if token = .comma then
      match frames with
      | .array _ :: _ => some (frames, .value)
      | _ => some (frames, .name)
    else finish? token frames
  | .nothing _ => none

/-- The document that the tokens make up from a state on. -/
def build? (frames : List Frame) (expected : Expected) : List Token → Option Document
  | [] =>
    -- at the end of the text the document must be complete
    match expected with
    | .nothing document => some document
    | _ => none
  | token :: rest =>
    match advance? frames expected token with
    | some (frames, expected) => build? frames expected rest
    | none => none

/-- **Reading a JSON text**: exactly one value and nothing behind it. -/
def Document.parse? (t : Text) : Option Document := do
  build? [] .value (← tokens? t)

namespace Document

mutual

/-- The number of containers that stand inside each other. -/
def depth : Document → Nat
  | .array items => depthItems items + 1
  | .object members => depthMembers members + 1
  | _ => 0

/-- The greatest depth of a list of items. -/
def depthItems : List Document → Nat
  | [] => 0
  | item :: items => max item.depth (depthItems items)

/-- The greatest depth of a list of members. -/
def depthMembers : List (Option Text × Document) → Nat
  | [] => 0
  | (_, value) :: members => max value.depth (depthMembers members)

end

mutual

/-- **The document can be held as a value**: every string is whole and every number is in range. -/
def isSound : Document → Bool
  | .number n => !n.isHuge
  | .string t => t.isSome
  | .array items => soundItems items
  | .object members => soundMembers members
  | _ => true

/-- All items are sound. -/
def soundItems : List Document → Bool
  | [] => true
  | item :: items => item.isSound && soundItems items

/-- All members are sound. -/
def soundMembers : List (Option Text × Document) → Bool
  | [] => true
  | (name, value) :: members => name.isSome && value.isSound && soundMembers members

end

/-- The text of a string. -/
def text? : Document → Option Text
  | .string t => t
  | _ => none

/-- A truth value. -/
def bool? : Document → Option Bool
  | .bool b => some b
  | _ => none

/-- A natural number below a bound. -/
def nat? (bound : Nat) : Document → Option Nat
  | .number n => do
    let value ← n.toNat?
    if value < bound then some value else none
  | _ => none

/-- The items of an array. -/
def items? : Document → Option (List Document)
  | .array items => some items
  | _ => none

/-- A part that may be null. -/
def present? : Document → Option (Option Document)
  | .null => some none
  | document => some (some document)

/-- The known members of an object: none may stand twice, and every name must be readable. -/
def members? (names : List Text) :
    List (Option Text × Document) → Option (List (Text × Document))
  | [] => some []
  | (name, value) :: rest => do
    let name ← name
    let known ← members? names rest
    if names.contains name then
      if known.any fun field => field.1 == name then none else some ((name, value) :: known)
    else some known

/-- **A record with fields of the given names**: an object, of which other members are ignored, or
an array of the fields in order, of which the last may be missing. -/
def record? (names : List Text) : Document → Option (Record Document)
  | .object members => (members? names members).map fun fields => ⟨false, fields⟩
  | .array items => if items.length ≤ names.length then some ⟨true, names.zip items⟩ else none
  | _ => none

/-- A choice: its name, or an object with its name as the only member and nothing in that. -/
def choice? : Document → Option Text
  | .string t => t
  | .object [(name, .null)] => name
  | _ => none

/-- **What JSON offers to a reader of records.** -/
def format : Format Document where
  record? := record?
  text? := text?
  nat? := nat?
  items? := items?
  present? := present?
  choice? := choice?

end Document

end Blurb.Json
