import Blurb.Manifest
import Blurb.Proofs.RecordFields
import Blurb.Proofs.StrictUtf8
import Mathlib

/-! # Loaded manifests

The entries of a manifest that is loaded are those that its file holds, and where none are loaded
there is a reason: no file, no text, no document, or a document of another form.

* `Manifest.Holds`, `Manifest.load_eq_ok_iff` — the entries are those of the file.
* `Manifest.ItemFault`, `Manifest.ListFault`, `Manifest.Fault` — what can be wrong with a text.
* `Manifest.CannotLoad`, `Manifest.load_eq_error_iff` — the manifests that cannot be loaded. -/

namespace Blurb

variable {host : Host} {path : Path}

/-! ## Items -/

theorem Kind.ofLabel?_eq_some_iff {label : Text} {kind : Kind} :
    ofLabel? label = some kind ↔ label = kind.label := by
  constructor
  · intro h
    exact (beq_iff_eq.1 (List.find?_some (p := fun kind : Kind => kind.label == label) h)).symm
  · rintro rfl
    cases kind <;> decide

namespace Manifest

section Items

variable {δ : Type} (format : Format δ)

/-- **A record gives an entry**: the kind by its name, that of a formula by default; the name of
the item; and its description, if there is one. -/
structure GivesEntry (record : Record δ) (entry : Entry) : Prop where
  /-- The kind. -/
  kind : record.GivesOr "kind" .formula
    (fun part kind => format.choice? part = some kind.label) entry.kind
  /-- The name of the item. -/
  name : record.Gives "name" format.MeansText entry.name
  /-- The description. -/
  desc : record.GivesOr "desc" none (format.MeansOptional format.MeansText) entry.desc

/-- **A part is an item** that gives an entry. -/
def IsItem (part : δ) (entry : Entry) : Prop :=
  ∃ record, format.record? ["kind".toList, "name".toList, "desc".toList] part = some record ∧
    GivesEntry format record entry

/-- **A document lists entries**: one for each of its items, in their order. -/
def Lists (part : δ) (entries : List Entry) : Prop :=
  ∃ record, format.record? ["entries".toList] part = some record ∧
    record.GivesOr "entries" [] (format.MeansList (IsItem format)) entries

/-- **What is wrong with an item.** -/
inductive ItemFault (part : δ) : Prop where
  /-- It is no record. -/
  | noRecord
    (fields : format.record? ["kind".toList, "name".toList, "desc".toList] part = none)
  /-- Its kind is none of the kinds. -/
  | unknownKind {record : Record δ} {given : δ}
    (fields : format.record? ["kind".toList, "name".toList, "desc".toList] part = some record)
    (kind : record.get? "kind" = some given)
    (unknown : ∀ kind : Kind, format.choice? given ≠ some kind.label)
  /-- It has no name. -/
  | nameless {record : Record δ}
    (fields : format.record? ["kind".toList, "name".toList, "desc".toList] part = some record)
    (name : ∀ name, ¬ record.Gives "name" format.MeansText name)
  /-- Its description is no text. -/
  | noText {record : Record δ} {given : δ}
    (fields : format.record? ["kind".toList, "name".toList, "desc".toList] part = some record)
    (desc : record.get? "desc" = some given)
    (noText : ∀ desc, ¬ format.MeansOptional format.MeansText given desc)

/-- **What is wrong with a document.** -/
inductive ListFault (part : δ) : Prop where
  /-- It is no record. -/
  | noRecord (fields : format.record? ["entries".toList] part = none)
  /-- Its entries are no list. -/
  | noList {record : Record δ} {given : δ}
    (fields : format.record? ["entries".toList] part = some record)
    (entries : record.get? "entries" = some given) (noList : format.items? given = none)
  /-- Something is wrong with one of them. -/
  | item {record : Record δ} {given item : δ} {items : List δ}
    (fields : format.record? ["entries".toList] part = some record)
    (entries : record.get? "entries" = some given) (list : format.items? given = some items)
    (mem : item ∈ items) (fault : ItemFault format item)

variable {format} {part : δ}

theorem kind?_eq_some_iff {kind : Kind} :
    kind? format part = some kind ↔ format.choice? part = some kind.label := by
  simp [kind?, Option.bind_eq_some_iff, Kind.ofLabel?_eq_some_iff]

theorem manifestItem?_eq_some_iff {entry : Entry} :
    manifestItem? format part = some entry ↔ IsItem format part entry := by
  simp only [manifestItem?, IsItem, Option.bind_eq_bind, Option.bind_eq_some_iff,
    Record.withDefault?_eq_some_iff fun _ _ => kind?_eq_some_iff,
    Record.required?_eq_some_iff fun _ _ => Iff.rfl,
    Record.withDefault?_eq_some_iff fun _ _ => Format.optional?_eq_some_iff fun _ _ => Iff.rfl,
    Option.some.injEq]
  constructor
  · rintro ⟨record, hrecord, kind, hkind, name, hname, desc, hdesc, rfl⟩
    exact ⟨record, hrecord, hkind, hname, hdesc⟩
  · rintro ⟨record, hrecord, hentry⟩
    exact ⟨record, hrecord, _, hentry.kind, _, hentry.name, _, hentry.desc, rfl⟩

/-- **Something is wrong with an item exactly if it gives no entry.** -/
theorem manifestItem?_eq_none_iff :
    manifestItem? format part = none ↔ ItemFault format part := by
  constructor
  · intro h
    cases hfields : format.record? ["kind".toList, "name".toList, "desc".toList] part with
    | none => exact .noRecord hfields
    | some record =>
      by_contra hfault
      -- otherwise each field can be read, and the item would give an entry
      obtain ⟨kind, hkind⟩ : ∃ kind, record.GivesOr "kind" .formula
          (fun part kind => format.choice? part = some (Kind.label kind)) kind := by
        rw [Record.exists_givesOr_iff]
        intro given hgiven
        by_contra hunknown
        exact hfault (.unknownKind hfields hgiven (not_exists.1 hunknown))
      obtain ⟨name, hname⟩ : ∃ name, record.Gives "name" format.MeansText name := by
        by_contra hnameless
        exact hfault (.nameless hfields (not_exists.1 hnameless))
      obtain ⟨desc, hdesc⟩ : ∃ desc,
          record.GivesOr "desc" none (format.MeansOptional format.MeansText) desc := by
        rw [Record.exists_givesOr_iff]
        intro given hgiven
        by_contra hnoText
        exact hfault (.noText hfields hgiven (not_exists.1 hnoText))
      have hitem : manifestItem? format part = some ⟨kind, name, desc⟩ :=
        manifestItem?_eq_some_iff.2 ⟨record, hfields, hkind, hname, hdesc⟩
      rw [h] at hitem
      cases hitem
  · intro hfault
    rw [Option.eq_none_iff_forall_ne_some]
    intro entry hentry
    obtain ⟨record, hrecord, hgives⟩ := manifestItem?_eq_some_iff.1 hentry
    cases hfault with
    | noRecord fields => cases fields.symm.trans hrecord
    | unknownKind fields kind unknown =>
      obtain rfl := Option.some.inj (fields.symm.trans hrecord)
      obtain ⟨known, hknown⟩ := Record.exists_givesOr_iff.1 ⟨_, hgives.kind⟩ _ kind
      exact unknown known hknown
    | nameless fields name =>
      obtain rfl := Option.some.inj (fields.symm.trans hrecord)
      exact name _ hgives.name
    | noText fields desc noText =>
      obtain rfl := Option.some.inj (fields.symm.trans hrecord)
      obtain ⟨text, htext⟩ := Record.exists_givesOr_iff.1 ⟨_, hgives.desc⟩ _ desc
      exact noText text htext

theorem entries?_eq_some_iff {entries : List Entry} :
    entries? format part = some entries ↔ Lists format part entries := by
  simp only [entries?, Lists, Option.bind_eq_bind, Option.bind_eq_some_iff,
    Record.withDefault?_eq_some_iff fun _ _ =>
      Format.list?_eq_some_iff fun _ _ => manifestItem?_eq_some_iff]

/-- **Something is wrong with a document exactly if it lists no entries.** -/
theorem entries?_eq_none_iff : entries? format part = none ↔ ListFault format part := by
  unfold entries?
  cases hfields : format.record? ["entries".toList] part with
  | none => exact ⟨fun _ => .noRecord hfields, fun _ => rfl⟩
  | some record =>
    show record.withDefault? "entries" [] (format.list? (manifestItem? format)) = none ↔ _
    unfold Record.withDefault?
    cases hgiven : record.get? "entries" with
    | none =>
      refine ⟨nofun, fun hfault => ?_⟩
      cases hfault <;> simp_all
    | some given =>
      show (format.items? given).bind (·.mapM (manifestItem? format)) = none ↔ _
      cases hitems : format.items? given with
      | none => exact ⟨fun _ => .noList hfields hgiven hitems, fun _ => rfl⟩
      | some items =>
        rw [Option.bind_some, mapM_eq_none_iff]
        simp only [manifestItem?_eq_none_iff]
        constructor
        · rintro ⟨item, hmem, hfault⟩
          exact .item hfields hgiven hitems hmem hfault
        · intro hfault
          cases hfault with
          | noRecord fields => cases fields.symm.trans hfields
          | noList fields entries noList =>
            obtain rfl := Option.some.inj (fields.symm.trans hfields)
            obtain rfl := Option.some.inj (entries.symm.trans hgiven)
            cases noList.symm.trans hitems
          | @item _ _ item _ fields entries list mem fault =>
            obtain rfl := Option.some.inj (fields.symm.trans hfields)
            obtain rfl := Option.some.inj (entries.symm.trans hgiven)
            obtain rfl := Option.some.inj (list.symm.trans hitems)
            exact ⟨item, mem, fault⟩

end Items

/-! ## Texts and files -/

/-- **A text holds entries**, in the format that the extension of its file tells. -/
inductive Holds (path : Path) (text : Text) (entries : List Entry) : Prop where
  /-- It is JSON. -/
  | json {document : Json.Document} (extension : Path.extension? path = some "json".toList)
    (parsed : Json.Document.parse? text = some document)
    (lists : Lists Json.Document.format document entries)
  /-- It is TOML. -/
  | toml {value : Toml.Value} (extension : Path.extension? path ≠ some "json".toList)
    (parsed : Toml.Value.parse? text = some value)
    (lists : Lists Toml.Value.format value entries)

/-- **What is wrong with a text** that holds no entries. -/
inductive Fault (path : Path) (text : Text) : Prop where
  /-- It should be JSON, and is not. -/
  | noJson (extension : Path.extension? path = some "json".toList)
    (unparsed : Json.Document.parse? text = none)
  /-- Something is wrong with what it says in JSON. -/
  | json {document : Json.Document} (extension : Path.extension? path = some "json".toList)
    (parsed : Json.Document.parse? text = some document)
    (fault : ListFault Json.Document.format document)
  /-- It should be TOML, and is not. -/
  | noToml (extension : Path.extension? path ≠ some "json".toList)
    (unparsed : Toml.Value.parse? text = none)
  /-- Something is wrong with what it says in TOML. -/
  | toml {value : Toml.Value} (extension : Path.extension? path ≠ some "json".toList)
    (parsed : Toml.Value.parse? text = some value)
    (fault : ListFault Toml.Value.format value)

variable {text : Text} {entries : List Entry}

theorem parse?_eq_some_iff : parse? path text = some entries ↔ Holds path text entries := by
  unfold parse?
  by_cases hextension : Path.extension? path = some "json".toList
  · rw [if_pos (beq_iff_eq.2 hextension), Option.bind_eq_some_iff]
    constructor
    · rintro ⟨document, hparsed, hentries⟩
      exact .json hextension hparsed (entries?_eq_some_iff.1 hentries)
    · intro h
      cases h with
      | json _ parsed lists => exact ⟨_, parsed, entries?_eq_some_iff.2 lists⟩
      | toml extension => exact absurd hextension extension
  · rw [if_neg (by simpa using hextension), Option.bind_eq_some_iff]
    constructor
    · rintro ⟨value, hparsed, hentries⟩
      exact .toml hextension hparsed (entries?_eq_some_iff.1 hentries)
    · intro h
      cases h with
      | json extension => exact absurd extension hextension
      | toml _ parsed lists => exact ⟨_, parsed, entries?_eq_some_iff.2 lists⟩

theorem parse?_eq_none_iff : parse? path text = none ↔ Fault path text := by
  unfold parse?
  by_cases hextension : Path.extension? path = some "json".toList
  · rw [if_pos (beq_iff_eq.2 hextension)]
    cases hparsed : Json.Document.parse? text with
    | none => exact ⟨fun _ => .noJson hextension hparsed, fun _ => rfl⟩
    | some document =>
      rw [Option.bind_some, entries?_eq_none_iff]
      refine ⟨.json hextension hparsed, fun h => ?_⟩
      cases h <;> simp_all
  · rw [if_neg (by simpa using hextension)]
    cases hparsed : Toml.Value.parse? text with
    | none => exact ⟨fun _ => .noToml hextension hparsed, fun _ => rfl⟩
    | some value =>
      rw [Option.bind_some, entries?_eq_none_iff]
      refine ⟨.toml hextension hparsed, fun h => ?_⟩
      cases h <;> simp_all

/-- **The entries of a manifest that is loaded** are those that its file holds. -/
theorem load_eq_ok_iff :
    load host path = .ok entries ↔ ∃ text, host.HoldsText path text ∧ Holds path text entries := by
  simp only [← FileTree.readText?_eq_some_iff, ← parse?_eq_some_iff]
  unfold load
  cases host.tree.readText? host.cwd path with
  | none => simp
  | some text => cases hparse : parse? path text <;> simp [hparse]

/-- **Why a manifest cannot be loaded.** -/
inductive CannotLoad (host : Host) (path : Path) : ManifestError → Prop where
  /-- There is no file, or it holds no text. -/
  | noText (noText : ∀ text, ¬ host.HoldsText path text) : CannotLoad host path (.read path)
  /-- Something is wrong with its text. -/
  | fault {text : Text} (holdsText : host.HoldsText path text) (fault : Fault path text) :
    CannotLoad host path (.parse path)

/-- **The manifests that cannot be loaded.** -/
theorem load_eq_error_iff {e : ManifestError} :
    load host path = .error e ↔ CannotLoad host path e := by
  unfold load
  cases hread : host.tree.readText? host.cwd path with
  | none =>
    have hnone := FileTree.readText?_eq_none_iff.1 hread
    dsimp only
    rw [Except.error.injEq]
    refine ⟨fun h => h ▸ .noText hnone, fun h => ?_⟩
    cases h with
    | noText => rfl
    | fault holdsText => exact absurd holdsText (hnone _)
  | some text =>
    have htext := FileTree.readText?_eq_some_iff.1 hread
    dsimp only
    cases hparse : parse? path text with
    | some entries =>
      refine ⟨nofun, fun h => ?_⟩
      cases h with
      | noText noText => exact absurd htext (noText text)
      | fault holdsText fault =>
        rw [← FileTree.readText?_eq_some_iff, hread] at holdsText
        obtain rfl := Option.some.inj holdsText
        cases hparse.symm.trans (parse?_eq_none_iff.2 fault)
    | none =>
      dsimp only
      rw [Except.error.injEq]
      refine ⟨fun h => h ▸ .fault htext (parse?_eq_none_iff.1 hparse), fun h => ?_⟩
      cases h with
      | noText noText => exact absurd htext (noText text)
      | fault => rfl

end Manifest

end Blurb
