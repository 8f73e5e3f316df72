import Blurb.Text.Blank
import Blurb.Yaml.Decode

/-! # Rule names of the linter

The names of the rules that the linter knows. A name is a department and a rule, separated by the
last `/`; a filter may ask for whole names, for departments, or for a rule by its short name where
that is unique. -/

namespace Blurb

/-- **The rules that the linter knows**: their names in ascending order, each once. -/
structure RuleNames where
  /-- The full names. -/
  names : List Text
deriving Repr, DecidableEq

namespace RuleNames

/-- Adds a name to an ascending list. -/
def insertName (name : Text) : List Text → List Text
  | [] => [name]
  | other :: rest =>
    match List.compareLex Ord.compare name other with
    | .lt => name :: other :: rest
    | .eq => other :: rest
    | .gt => other :: insertName name rest

/-- The rules of a list of names. -/
def ofList (names : List Text) : RuleNames := ⟨names.foldl (fun all name => insertName name all) []⟩

/-- **The rules in the linter's own listing**, a YAML mapping: those of its keys that have a
department. Nothing if the listing is malformed. -/
def ofListing? (listing : Text) : Option RuleNames := do
  let value ← (← Yaml.Document.parse? listing).generic?
  some (ofList (value.textKeys.filter (·.contains '/')))

/-- No rule is known. -/
def isEmpty (known : RuleNames) : Bool := known.names.isEmpty

/-- The department of a name: what stands before its last `/`. -/
def department? (name : Text) : Option Text := (Text.splitLast? '/' name).map (·.1)

/-- The text is a department of a known rule. -/
def hasDepartment (known : RuleNames) (text : Text) : Bool :=
  known.names.any fun name => department? name == some text

/-- The text is a known rule or a department. -/
def contains (known : RuleNames) (text : Text) : Bool :=
  known.names.contains text || known.hasDepartment text

/-- **Qualifying a short name** with its department, if exactly one rule carries it. Everything else
stays as it is. -/
def qualify (known : RuleNames) (text : Text) : Text :=
  if text.contains '/' || known.hasDepartment text then text
  else
    match known.names.filter (Text.endsWith ('/' :: text)) with
    | [only] => only
    | _ => text

/-- The requested names as they are looked up: trimmed, and without the blank ones. -/
def requested (names : List Text) : List Text :=
  (names.map Text.trim).filter fun name => !name.isEmpty

/-- **Resolving requested names**: all of them qualified, or those that are not known. -/
def resolve (known : RuleNames) (names : List Text) : Except (List Text) (List Text) :=
  let qualified := (requested names).map known.qualify
  let unknown := qualified.filter fun name => !known.contains name
  if unknown.isEmpty then .ok qualified else .error unknown

end RuleNames

end Blurb
