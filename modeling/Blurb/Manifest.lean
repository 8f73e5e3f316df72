import Blurb.Description.Batch
import Blurb.Files.Tree
import Blurb.Json.Document
import Blurb.Toml.Document

/-! # Manifests

A manifest is a file that lists the items of a batch, in JSON if its extension says so and in TOML
otherwise. -/

namespace Blurb

/-- **Why a manifest cannot be loaded.** -/
inductive ManifestError where
  /-- There is no such file, or it is no text. -/
  | read (path : Path)
  /-- The file does not hold a manifest. -/
  | parse (path : Path)
deriving Repr, DecidableEq

/-- **The message of a failure.** -/
def ManifestError.message : ManifestError → Text
  | read path => "failed to read manifest ".toList ++ path
  | parse path => "manifest ".toList ++ path ++ " is invalid".toList

namespace Manifest

/-- A kind by its name. -/
def kind? {δ : Type} (format : Format δ) (part : δ) : Option Kind :=
  (format.choice? part).bind Kind.ofLabel?

/-- **An entry of a manifest**: the kind is that of a formula unless it is given, and the
description may be missing. -/
def manifestItem? {δ : Type} (format : Format δ) (part : δ) : Option Entry := do
  let record ← format.record? ["kind".toList, "name".toList, "desc".toList] part
  some {
    kind := ← record.withDefault? "kind" .formula (kind? format)
    name := ← record.required? "name" format.text?
    desc := ← record.withDefault? "desc" none (format.optional? format.text?) }

/-- **The entries of a manifest**; without a list there are none. -/
def entries? {δ : Type} (format : Format δ) (part : δ) : Option (List Entry) := do
  let record ← format.record? ["entries".toList] part
  record.withDefault? "entries" [] (format.list? (manifestItem? format))

/-- The entries in a text, in the format that the extension of its file says. -/
def parse? (path : Path) (text : Text) : Option (List Entry) :=
  if Path.extension? path == some "json".toList then
    (Json.Document.parse? text).bind (entries? Json.Document.format)
  else (Toml.Value.parse? text).bind (entries? Toml.Value.format)

/-- **Loading a manifest.** -/
def load (host : Host) (path : Path) : Except ManifestError (List Entry) :=
  match host.tree.readText? host.cwd path with
  | none => .error (.read path)
  | some text =>
    match parse? path text with
    | some entries => .ok entries
    | none => .error (.parse path)

end Manifest

end Blurb
