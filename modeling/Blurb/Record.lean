import Blurb.Text.Basic

/-! # Records

How the data of a record are taken out of a document, whatever format the document is in. A record
is written as its fields by name or, in some formats, as a list of its fields in order. -/

namespace Blurb

/-- **The fields of a record**, as far as they are given. -/
structure Record (δ : Type) where
  /-- The record is written as a list of its fields in order. -/
  positional : Bool := false
  /-- The given fields by name. -/
  fields : List (Text × δ)

namespace Record

variable {δ α : Type}

/-- A field by its name. -/
def get? (record : Record δ) (name : String) : Option δ := record.fields.lookup name.toList

/-- A field that must be given. -/
def required? (record : Record δ) (name : String) (read : δ → Option α) : Option α :=
  (record.get? name).bind read

/-- A field with a value to take where it is not given. -/
def withDefault? (record : Record δ) (name : String) (default : α) (read : δ → Option α) :
    Option α :=
  match record.get? name with
  | some part => read part
  | none => some default

/-- A field that may be left out, unless the fields are written in order. -/
def optional? (record : Record δ) (name : String) (read : δ → Option (Option α)) :
    Option (Option α) :=
  match record.get? name with
  | some part => read part
  | none => if record.positional then none else some none

end Record

/-- **What a document format offers to a reader of records.** Each part answers with nothing where
the document does not have the wanted form. -/
structure Format (δ : Type) where
  /-- A record with fields of the given names. -/
  record? : List Text → δ → Option (Record δ)
  /-- A text. -/
  text? : δ → Option Text
  /-- A natural number below a bound. -/
  nat? : Nat → δ → Option Nat
  /-- The items of a list. -/
  items? : δ → Option (List δ)
  /-- A part that may say that there is nothing. -/
  present? : δ → Option (Option δ)
  /-- The name of a choice. -/
  choice? : δ → Option Text

namespace Format

variable {δ α : Type}

/-- A list in which every item can be read. -/
def list? (format : Format δ) (read : δ → Option α) (part : δ) : Option (List α) :=
  (format.items? part).bind (·.mapM read)

/-- A value that may say that there is nothing. -/
def optional? (format : Format δ) (read : δ → Option α) (part : δ) : Option (Option α) :=
  match format.present? part with
  | none => none
  | some none => some none
  | some (some part) => (read part).map some

/-- A list of texts. -/
def texts? (format : Format δ) (part : δ) : Option (List Text) := format.list? format.text? part

end Format

/-- The bound of the natural numbers that are read: they have 64 bits. -/
def wordBound : Nat := Text.bitBound 64

end Blurb
