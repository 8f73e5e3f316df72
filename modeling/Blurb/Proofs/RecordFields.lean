import Blurb.Record
import Mathlib.Data.List.Forall2

/-! # Fields of records

What the readers of fields accept, given what the readers of their values accept: a field that must
be given, one with a default, one that may be left out, a value that may say that there is nothing,
and a list.

* `Record.required?_eq_some_iff`, `Record.withDefault?_eq_some_iff`, `Record.optional?_eq_some_iff`
  — fields.
* `Format.optional?_eq_some_iff`, `Format.list?_eq_some_iff`, `Format.texts?_eq_some_iff` — values.
* `mapM_eq_some_iff`, `mapM_eq_none_iff` — lists that are read item by item. -/

namespace Blurb

/-! ## Lists -/

section Lists

variable {α β : Type} {read : α → Option β} {items : List α}

/-- **A list is read item by item.** -/
theorem mapM_eq_some_iff {results : List β} :
    items.mapM read = some results ↔
      List.Forall₂ (fun item result => read item = some result) items results := by
  induction items generalizing results with
  | nil => simp [eq_comm]
  | cons item items ih =>
    simp only [List.mapM_cons, Option.bind_eq_bind, Option.bind_eq_some_iff, ih,
      List.forall₂_cons_left_iff, Option.pure_def, Option.some.injEq]
    constructor
    · rintro ⟨result, hitem, rest, hrest, rfl⟩
      exact ⟨result, rest, hitem, hrest, rfl⟩
    · rintro ⟨result, rest, hitem, hrest, rfl⟩
      exact ⟨result, hitem, rest, hrest, rfl⟩

/-- A list cannot be read because of one of its items. -/
theorem mapM_eq_none_iff : items.mapM read = none ↔ ∃ item ∈ items, read item = none := by
  induction items with
  | nil => simp
  | cons item items ih =>
    rw [List.mapM_cons]
    cases hitem : read item with
    | none => simp [hitem]
    | some result => cases hitems : items.mapM read <;> simp_all

end Lists

/-! ## Fields -/

namespace Record

variable {δ α : Type} {record : Record δ} {name : String} {means : δ → α → Prop}

/-- **A field gives a value.** -/
def Gives (record : Record δ) (name : String) (means : δ → α → Prop) (value : α) : Prop :=
  ∃ part, record.get? name = some part ∧ means part value

/-- **A field gives a value**, or it is left out and the value is the default. -/
def GivesOr (record : Record δ) (name : String) (default : α) (means : δ → α → Prop) (value : α) :
    Prop :=
  record.Gives name means value ∨ record.get? name = none ∧ value = default

/-- **A field may give a value**; it may be left out where fields are written by name. -/
def MayGive (record : Record δ) (name : String) (means : δ → Option α → Prop) (value : Option α) :
    Prop :=
  record.Gives name means value ∨
    record.get? name = none ∧ record.positional = false ∧ value = none

/-- A field with a default gives a value unless what it says means none. -/
theorem exists_givesOr_iff {default : α} :
    (∃ value, record.GivesOr name default means value) ↔
      ∀ part, record.get? name = some part → ∃ value, means part value := by
  unfold GivesOr Gives
  constructor
  · rintro ⟨value, ⟨part, hpart, hvalue⟩ | ⟨hnone, -⟩⟩ part' hpart'
    · obtain rfl := Option.some.inj (hpart.symm.trans hpart')
      exact ⟨value, hvalue⟩
    · rw [hnone] at hpart'
      cases hpart'
  · intro h
    cases hget : record.get? name with
    | none => exact ⟨default, .inr ⟨rfl, rfl⟩⟩
    | some part =>
      obtain ⟨value, hvalue⟩ := h part hget
      exact ⟨value, .inl ⟨part, rfl, hvalue⟩⟩

theorem required?_eq_some_iff {read : δ → Option α} {value : α}
    (hread : ∀ part value, read part = some value ↔ means part value) :
    record.required? name read = some value ↔ record.Gives name means value := by
  simp only [required?, Gives, Option.bind_eq_some_iff, hread]

theorem withDefault?_eq_some_iff {read : δ → Option α} {default value : α}
    (hread : ∀ part value, read part = some value ↔ means part value) :
    record.withDefault? name default read = some value ↔
      record.GivesOr name default means value := by
  unfold withDefault? GivesOr Gives
  cases record.get? name with
  | none => simp [eq_comm]
  | some part => simp [hread]

theorem optional?_eq_some_iff {read : δ → Option (Option α)} {means : δ → Option α → Prop}
    {value : Option α} (hread : ∀ part value, read part = some value ↔ means part value) :
    record.optional? name read = some value ↔ record.MayGive name means value := by
  unfold optional? MayGive Gives
  cases record.get? name with
  | none => cases hpositional : record.positional <;> simp [eq_comm]
  | some part => simp [hread]

end Record

/-! ## Values -/

namespace Format

variable {δ α : Type} (format : Format δ) {part : δ} {means : δ → α → Prop}

/-- **A part means a value or that there is nothing.** -/
def MeansOptional (means : δ → α → Prop) (part : δ) : Option α → Prop
  | none => format.present? part = some none
  | some value => ∃ inner, format.present? part = some (some inner) ∧ means inner value

/-- **A part means a list of values**, item by item. -/
def MeansList (means : δ → α → Prop) (part : δ) (values : List α) : Prop :=
  ∃ items, format.items? part = some items ∧ List.Forall₂ means items values

/-- A part means a text. -/
def MeansText (part : δ) (text : Text) : Prop := format.text? part = some text

/-- A part means a list of texts. -/
def MeansTexts : δ → List Text → Prop := format.MeansList format.MeansText

variable {format}

theorem optional?_eq_some_iff {read : δ → Option α} {value : Option α}
    (hread : ∀ part value, read part = some value ↔ means part value) :
    format.optional? read part = some value ↔ format.MeansOptional means part value := by
  unfold optional?
  cases value with
  | none =>
    show _ ↔ format.present? part = some none
    cases format.present? part with
    | none => simp
    | some inner => cases inner <;> simp
  | some value =>
    show _ ↔ ∃ inner, format.present? part = some (some inner) ∧ means inner value
    cases format.present? part with
    | none => simp
    | some inner => cases inner <;> simp [hread]

theorem list?_eq_some_iff {read : δ → Option α} {values : List α}
    (hread : ∀ part value, read part = some value ↔ means part value) :
    format.list? read part = some values ↔ format.MeansList means part values := by
  simp only [list?, MeansList, Option.bind_eq_some_iff, mapM_eq_some_iff, hread]

theorem texts?_eq_some_iff {values : List Text} :
    format.texts? part = some values ↔ format.MeansTexts part values :=
  list?_eq_some_iff fun _ _ => Iff.rfl

end Format

end Blurb
