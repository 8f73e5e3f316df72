import Blurb.Proofs.GlobSearch
import Blurb.Proofs.PathOrder
import Blurb.Style.Settings
import Mathlib.Data.List.Pairwise
import Mathlib.Data.List.Sort

/-! # The scripts for the checker

The checker is given the entry point and what the globs find. Whatever the globs are, and in
whatever order, these come in ascending order and no path comes in two spellings. But paths are
compared by their components, and a leading `.` is one. So a file is given twice if it is found
under one path and the entry point names it by another that differs in more than its spelling, as
`bin/brew` and `./bin/brew` do in the default repository `.`.

* `Path.Ascending` — paths in order; `Path.Ascending.map_components_eq` — they are known by what is
  among them.
* `Settings.Finds`, `Settings.IsScript` — what the globs find, and what is to be checked.
* `Settings.ListsScripts` — what a list of scripts promises.
* `Host.SameFile`, `Host.NamesNoFileTwice` — paths that are the same once they are made absolute.
* `Settings.namesNoFileTwice_iff` — which lists name no file twice.
* `Settings.listsScripts_shellFiles` — what the list of scripts is.
* `Settings.not_forall_namesNoFileTwice` — the entry point named twice. -/

namespace Blurb

open Std (TransCmp OrientedCmp ReflCmp)

namespace Path

/-! ## Ascending paths -/

/-- **Paths in strictly ascending order**, so that none comes in two spellings. -/
def Ascending (paths : List Path) : Prop := paths.Pairwise fun a b => compare a b = .lt

/-- Components come before others in their order. -/
def Before (a b : List Component) : Prop := List.compareLex Component.compare a b = .lt

instance : Std.Irrefl Before where
  irrefl a h := by
    have hself : List.compareLex Component.compare a a = .eq := ReflCmp.compare_self
    rw [Before, hself] at h
    cases h

instance : Std.Antisymm Before where
  antisymm _ _ hab hba := absurd hba (OrientedCmp.not_lt_of_lt hab)

/-- **Ascending paths are known by what is among them**, up to their spelling. -/
theorem Ascending.map_components_eq {paths others : List Path} (h : Ascending paths)
    (hothers : Ascending others)
    (hmem : ∀ path, (∃ a ∈ paths, same path a = true) ↔ ∃ b ∈ others, same path b = true) :
    paths.map components = others.map components := by
  have hsame : ∀ {paths : List Path} {path : Path},
      path.components ∈ paths.map components ↔ ∃ a ∈ paths, same path a = true := by
    intro paths path
    rw [List.mem_map]
    exact exists_congr fun a => and_congr_right fun _ => by rw [same_iff, eq_comm]
  have hpaths : (paths.map components).Pairwise Before := List.pairwise_map.2 h
  have hothers : (others.map components).Pairwise Before := List.pairwise_map.2 hothers
  refine hpaths.eq_of_mem_iff hothers fun written => ?_
  constructor
  · intro hwritten
    obtain ⟨path, hpath, rfl⟩ := List.mem_map.1 hwritten
    exact hsame.2 ((hmem path).1 ⟨path, hpath, same_refl path⟩)
  · intro hwritten
    obtain ⟨path, hpath, rfl⟩ := List.mem_map.1 hwritten
    exact hsame.2 ((hmem path).2 ⟨path, hpath, same_refl path⟩)

/-- Ascending paths are different. -/
theorem Ascending.pairwise_same {paths : List Path} (h : Ascending paths) :
    paths.Pairwise fun a b => same a b = false :=
  List.Pairwise.imp same_eq_false_of_lt h

end Path

namespace Settings

variable {settings : Settings} {host : Host} {path other wanted : Path} {paths : List Path}

/-! ## Keeping paths in order -/

theorem mem_of_mem_insertPath (h : other ∈ insertPath path paths) :
    other = path ∨ other ∈ paths := by
  induction paths with
  | nil => exact .inl (List.mem_singleton.1 h)
  | cons first paths ih =>
    rw [insertPath] at h
    split at h
    · exact List.mem_cons.1 h
    · exact .inr h
    · rw [List.mem_cons] at h ⊢
      obtain hfirst | hrest := h
      · exact .inr (.inl hfirst)
      · exact (ih hrest).imp_right .inr

/-- **A path that is added is among the others**, in its own spelling or in theirs. -/
theorem exists_same_insertPath :
    (∃ a ∈ insertPath path paths, Path.same wanted a = true) ↔
      Path.same wanted path = true ∨ ∃ a ∈ paths, Path.same wanted a = true := by
  induction paths with
  | nil => simp [insertPath]
  | cons first paths ih =>
    rw [insertPath]
    cases hcompare : Path.compare path first with
    | lt => simp
    | eq =>
      have hsame : Path.same wanted path = Path.same wanted first := by
        rw [Path.same_comm, Path.same_congr (Path.compare_eq_iff.1 hcompare), Path.same_comm]
      simp [hsame]
    | gt =>
      simp only [List.exists_mem_cons_iff, ih]
      exact or_left_comm

/-- **Adding a path keeps the order.** -/
theorem ascending_insertPath (path : Path) (h : Path.Ascending paths) :
    Path.Ascending (insertPath path paths) := by
  induction paths with
  | nil => exact List.pairwise_singleton _ _
  | cons first paths ih =>
    obtain ⟨hfirst, hpaths⟩ := List.pairwise_cons.1 h
    rw [insertPath]
    cases hcompare : Path.compare path first with
    | lt =>
      refine List.pairwise_cons.2 ⟨fun other hother => ?_, h⟩
      obtain rfl | hother := List.mem_cons.1 hother
      · exact hcompare
      · exact TransCmp.lt_trans hcompare (hfirst other hother)
    | eq => exact h
    | gt =>
      refine List.pairwise_cons.2 ⟨fun other hother => ?_, ih hpaths⟩
      obtain rfl | hother := mem_of_mem_insertPath hother
      · exact OrientedCmp.lt_of_gt hcompare
      · exact hfirst other hother

/-! ## What the globs find -/

/-- **The globs find a path**: it is a file that one of the valid ones matches. -/
def Finds (settings : Settings) (host : Host) (path : Path) : Prop :=
  ∃ pattern ∈ settings.shellGlobs, ∃ glob,
    Glob.ofText? (Path.join settings.repoRoot pattern) = some glob ∧ path ∈ glob.files host

/-- Only files are found. -/
theorem Finds.isFile (h : settings.Finds host path) : host.isFile path = true := by
  obtain ⟨pattern, -, glob, -, hpath⟩ := h
  exact Glob.isFile_of_mem_files hpath

/-- In an absolute repository only absolute paths are found. -/
theorem Finds.isAbsolute (h : settings.Finds host path)
    (hroot : Path.isAbsolute settings.repoRoot = true) : Path.isAbsolute path = true := by
  obtain ⟨pattern, -, glob, hglob, hpath⟩ := h
  exact Glob.isAbsolute_of_mem_files (Glob.persists_isAbsolute.join _ _ hroot) hglob hpath

/-- All that the globs find, one glob after the other. -/
def matched (settings : Settings) (host : Host) : List Path :=
  settings.shellGlobs.flatMap fun pattern =>
    match Glob.ofText? (Path.join settings.repoRoot pattern) with
    | some glob => Glob.files host glob
    | none => []

theorem mem_matched_iff : path ∈ settings.matched host ↔ settings.Finds host path := by
  rw [matched, List.mem_flatMap]
  refine exists_congr fun pattern => and_congr_right fun _ => ?_
  cases Glob.ofText? (Path.join settings.repoRoot pattern) <;> simp

/-- **The globbed files** are in ascending order, and they are what the globs find. -/
theorem globbedFiles_spec (settings : Settings) (host : Host) :
    Path.Ascending (settings.globbedFiles host) ∧
    (∀ path ∈ settings.globbedFiles host, settings.Finds host path) ∧
    ∀ path, (∃ a ∈ settings.globbedFiles host, Path.same path a = true) ↔
      ∃ a, settings.Finds host a ∧ Path.same path a = true := by
  -- the paths that are still to be added, and those that have been
  have hfold : ∀ found all : List Path, Path.Ascending all →
      Path.Ascending (found.foldl (fun all path => insertPath path all) all) ∧
      (∀ path ∈ found.foldl (fun all path => insertPath path all) all,
        path ∈ found ∨ path ∈ all) ∧
      ∀ path, (∃ a ∈ found.foldl (fun all path => insertPath path all) all,
          Path.same path a = true) ↔
        (∃ a ∈ found, Path.same path a = true) ∨ ∃ a ∈ all, Path.same path a = true := by
    intro found
    induction found with
    | nil => exact fun all hall => ⟨hall, fun path hpath => .inr hpath, by simp⟩
    | cons first found ih =>
      intro all hall
      obtain ⟨hascending, hmem, hsame⟩ := ih _ (ascending_insertPath first hall)
      rw [List.foldl_cons]
      refine ⟨hascending, fun path hpath => ?_, fun path => ?_⟩
      · obtain hfound | hall := hmem path hpath
        · exact .inl (List.mem_cons_of_mem _ hfound)
        · obtain rfl | hall := mem_of_mem_insertPath hall
          · exact .inl (List.mem_cons_self ..)
          · exact .inr hall
      · rw [hsame, exists_same_insertPath, List.exists_mem_cons_iff, or_left_comm, or_assoc]
  obtain ⟨hascending, hmem, hsame⟩ := hfold (settings.matched host) [] List.Pairwise.nil
  refine ⟨hascending, fun path hpath => ?_, fun path => ?_⟩
  · exact mem_matched_iff.1 ((hmem path hpath).resolve_right (List.not_mem_nil))
  · have hpath := hsame path
    simp only [mem_matched_iff, List.not_mem_nil, false_and, exists_false, or_false] at hpath
    exact hpath

/-! ## The list of scripts -/

/-- **A path is to be checked**: the globs find it, or it is the entry point and that is a file. -/
def IsScript (settings : Settings) (host : Host) (path : Path) : Prop :=
  settings.Finds host path ∨
    path = settings.entryPoint ∧ host.isFile settings.entryPoint = true

/-- **What a list of scripts promises.** -/
structure ListsScripts (settings : Settings) (host : Host) (files : List Path) : Prop where
  /-- The entry point comes first exactly if it is a file. -/
  entry : files.head? = some settings.entryPoint ↔ host.isFile settings.entryPoint = true
  /-- The others come in ascending order. -/
  ascending : Path.Ascending (if host.isFile settings.entryPoint then files.tail else files)
  /-- Only scripts are listed. -/
  sound : ∀ path ∈ files, settings.IsScript host path
  /-- Every script is listed, in its own spelling or in another. -/
  complete : ∀ path, settings.IsScript host path → ∃ listed ∈ files, Path.same path listed = true
  /-- No path is listed in two spellings. -/
  distinct : files.Pairwise fun a b => Path.same a b = false

theorem IsScript.isFile (h : settings.IsScript host path) : host.isFile path = true := by
  obtain hfound | ⟨rfl, hentry⟩ := h
  · exact hfound.isFile
  · exact hentry

/-- **What is listed is what is to be checked**, in order. -/
theorem listsScripts (settings : Settings) (host : Host) :
    settings.ListsScripts host (settings.shellFiles host) := by
  obtain ⟨hascending, hsound, hcomplete⟩ := settings.globbedFiles_spec host
  unfold shellFiles
  dsimp only
  by_cases hentry : host.isFile settings.entryPoint = true
  · rw [if_pos hentry]
    have hothers : Path.Ascending ((settings.globbedFiles host).filter
        fun file => !Path.same file settings.entryPoint) := hascending.filter _
    exact {
      entry := iff_of_true rfl hentry
      ascending := by
        rw [if_pos hentry]
        exact hothers
      sound := fun path hpath => by
        obtain rfl | hpath := List.mem_cons.1 hpath
        · exact .inr ⟨rfl, hentry⟩
        · exact .inl (hsound path (List.mem_filter.1 hpath).1)
      complete := fun path hpath => by
        obtain hfound | ⟨rfl, -⟩ := hpath
        · obtain ⟨listed, hlisted, hsame⟩ := (hcomplete path).2 ⟨path, hfound, Path.same_refl path⟩
          -- what is left out among the others is the entry point itself
          by_cases hwith : Path.same listed settings.entryPoint = true
          · refine ⟨_, List.mem_cons_self .., ?_⟩
            rwa [Path.same_congr hsame]
          · have hkept : listed ∈ (settings.globbedFiles host).filter
                fun file => !Path.same file settings.entryPoint :=
              List.mem_filter.2 ⟨hlisted, by simpa using hwith⟩
            exact ⟨listed, List.mem_cons_of_mem _ hkept, hsame⟩
        · exact ⟨_, List.mem_cons_self .., Path.same_refl _⟩
      distinct := List.pairwise_cons.2 ⟨fun other hother => by
        have hkept := (List.mem_filter.1 hother).2
        rw [Path.same_comm]
        simpa using hkept, hothers.pairwise_same⟩ }
  · rw [if_neg hentry]
    exact {
      entry := by
        -- all that is found is a file, which the entry point is not
        refine iff_of_false (fun hhead => ?_) hentry
        exact hentry (hsound _ (List.mem_of_head? hhead)).isFile
      ascending := by
        rw [if_neg hentry]
        exact hascending
      sound := fun path hpath => .inl (hsound path hpath)
      complete := fun path hpath => by
        obtain hfound | ⟨-, hfile⟩ := hpath
        · exact (hcomplete path).2 ⟨path, hfound, Path.same_refl path⟩
        · exact absurd hfile hentry
      distinct := hascending.pairwise_same }

/-! ## The order of the globs -/

/-- **Which globs there are is all that counts**, not their order, nor how often each is given. -/
theorem map_components_shellFiles (settings : Settings) (host : Host) {globs : List Text}
    (h : ∀ pattern, pattern ∈ globs ↔ pattern ∈ settings.shellGlobs) :
    ({ settings with shellGlobs := globs }.shellFiles host).map Path.components =
      (settings.shellFiles host).map Path.components := by
  have hfinds : ∀ path, { settings with shellGlobs := globs }.Finds host path ↔
      settings.Finds host path :=
    fun path => exists_congr fun pattern => and_congr_left fun _ => h pattern
  obtain ⟨hascending, -, hsame⟩ := settings.globbedFiles_spec host
  obtain ⟨hascending', -, hsame'⟩ :=
    { settings with shellGlobs := globs }.globbedFiles_spec host
  have hglobbed := hascending'.map_components_eq hascending fun path => by
    rw [hsame, hsame']
    exact exists_congr fun a => and_congr_left fun _ => hfinds a
  have hothers : ∀ files : List Path,
      (files.filter fun file => !Path.same file settings.entryPoint).map Path.components =
        (files.map Path.components).filter fun c => !(c == settings.entryPoint.components) := by
    intro files
    rw [List.filter_map]
    rfl
  unfold shellFiles
  dsimp only
  split
  · rw [List.map_cons, List.map_cons, hothers, hothers, hglobbed]
  · exact hglobbed

end Settings

/-! ## Files named twice -/

namespace Host

variable {host : Host} {a b : Path}

/-- A path is made absolute against the working directory. -/
def absolute (host : Host) (path : Path) : Path := Path.join host.cwdPath path

/-- **Two paths name the same file**: they are the same once they are made absolute. -/
def SameFile (host : Host) (a b : Path) : Prop :=
  Path.same (host.absolute a) (host.absolute b) = true

instance (host : Host) (a b : Path) : Decidable (host.SameFile a b) :=
  inferInstanceAs (Decidable (_ = true))

/-- **A list names no file twice.** -/
def NamesNoFileTwice (host : Host) (files : List Path) : Prop :=
  files.Pairwise fun a b => ¬ host.SameFile a b

theorem isAbsolute_cwdPath (host : Host) : Path.isAbsolute host.cwdPath = true := by
  unfold cwdPath FileTree.pathOf
  cases host.cwd <;> rfl

theorem absolute_of_isAbsolute (h : Path.isAbsolute a = true) : host.absolute a = a := by
  rw [absolute, Path.join, if_pos h]

theorem SameFile.symm (h : host.SameFile a b) : host.SameFile b a := by
  unfold SameFile at h ⊢
  rwa [Path.same_comm]

theorem SameFile.trans {c : Path} (hab : host.SameFile a b) (hbc : host.SameFile b c) :
    host.SameFile a c := by
  unfold SameFile at hab hbc ⊢
  rwa [Path.same_congr hab]

/-- **The same paths name the same file.** -/
theorem sameFile_of_same (h : Path.same a b = true) : host.SameFile a b := by
  have hcomponents := Path.same_iff.1 h
  have habsolute : Path.isAbsolute a = Path.isAbsolute b := by
    rw [Bool.eq_iff_iff, ← Path.root_mem_components_iff, ← Path.root_mem_components_iff,
      hcomponents]
  rw [SameFile, Path.same_iff]
  cases hb : Path.isAbsolute b with
  | true =>
    rw [absolute_of_isAbsolute (habsolute.trans hb), absolute_of_isAbsolute hb, hcomponents]
  | false =>
    have hcwd := host.isAbsolute_cwdPath
    rw [absolute, absolute, Path.components_join hcwd (habsolute.trans hb),
      Path.components_join hcwd hb, Path.written_eq_filter, Path.written_eq_filter, hcomponents]

end Host

namespace Settings

variable {settings : Settings} {host : Host}

/-- **Every script has one name only**, up to its spelling. -/
def NamesApart (settings : Settings) (host : Host) : Prop :=
  ∀ a b, settings.IsScript host a → settings.IsScript host b → host.SameFile a b →
    Path.same a b = true

/-- **The list names no file twice exactly if no script has two names.** -/
theorem namesNoFileTwice_iff (settings : Settings) (host : Host) :
    host.NamesNoFileTwice (settings.shellFiles host) ↔ settings.NamesApart host := by
  have hlist := settings.listsScripts host
  constructor
  · intro h a b ha hb hfile
    obtain ⟨listed, hlisted, hsame⟩ := hlist.complete a ha
    obtain ⟨other, hother, hsame'⟩ := hlist.complete b hb
    -- two scripts that are one file are listed in one place
    by_cases heq : listed = other
    · rw [Path.same_congr hsame, heq, Path.same_comm]
      exact hsame'
    · have hfiles : host.SameFile listed other :=
        ((Host.sameFile_of_same hsame).symm.trans hfile).trans (Host.sameFile_of_same hsame')
      have : Std.Symm fun a b => ¬ host.SameFile a b := ⟨fun _ _ hne hab => hne hab.symm⟩
      exact absurd hfiles (h.forall hlisted hother heq)
  · intro h
    refine hlist.distinct.imp_of_mem fun ha hb hdistinct hfile => ?_
    rw [h _ _ (hlist.sound _ ha) (hlist.sound _ hb) hfile] at hdistinct
    cases hdistinct

/-- In an absolute repository with an absolute entry point every script has one name only. -/
theorem namesApart_of_isAbsolute (hroot : Path.isAbsolute settings.repoRoot = true)
    (hentry : Path.isAbsolute settings.entryPoint = true) : settings.NamesApart host := by
  have habsolute : ∀ path, settings.IsScript host path → Path.isAbsolute path = true := by
    rintro path (hfound | ⟨rfl, -⟩)
    · exact hfound.isAbsolute hroot
    · exact hentry
  intro a b ha hb hfile
  rwa [Host.SameFile, Host.absolute_of_isAbsolute (habsolute a ha),
    Host.absolute_of_isAbsolute (habsolute b hb)] at hfile

/-- **The list of scripts.** The entry point comes first exactly if it is a file, the others follow
in ascending order, and every path that the globs find is listed once, whatever the order of the
globs and however often each is given. No file is named twice exactly if no script has two names,
as it is if the repository and the entry point are absolute. -/
theorem listsScripts_shellFiles (settings : Settings) (host : Host) :
    settings.ListsScripts host (settings.shellFiles host) ∧
    (∀ globs : List Text, (∀ pattern, pattern ∈ globs ↔ pattern ∈ settings.shellGlobs) →
      ({ settings with shellGlobs := globs }.shellFiles host).map Path.components =
        (settings.shellFiles host).map Path.components) ∧
    (host.NamesNoFileTwice (settings.shellFiles host) ↔ settings.NamesApart host) ∧
    (Path.isAbsolute settings.repoRoot = true → Path.isAbsolute settings.entryPoint = true →
      host.NamesNoFileTwice (settings.shellFiles host)) :=
  ⟨settings.listsScripts host, fun _ => settings.map_components_shellFiles host,
    settings.namesNoFileTwice_iff host,
    fun hroot hentry =>
      (settings.namesNoFileTwice_iff host).2 (namesApart_of_isAbsolute hroot hentry)⟩

/-- **The entry point is named twice** in the repository `.`, where the globs find it without the
`.` in front of its name. -/
theorem not_forall_namesNoFileTwice :
    ¬ ∀ (settings : Settings) (host : Host), host.NamesNoFileTwice (settings.shellFiles host) := by
  intro h
  let settings : Settings := { ofRepo ['.'] with shellGlobs := ["bin/brew".toList] }
  let host : Host :=
    ⟨⟨[(["bin".toList], .dir), (["bin".toList, "brew".toList], .file [] false)]⟩, [], [], {}⟩
  let glob : Glob :=
    ⟨['.'], [".".toList, "bin".toList, "brew".toList].map (List.map .char), false⟩
  have hglob : Glob.ofText? "./bin/brew".toList = some glob := by
    have hparts : Glob.parts? true "./bin/brew".toList = some ("./bin/brew".toList.map .char) :=
      Glob.parts?_of_plain (by decide) true
    have hpieces : Glob.pieces "./bin/brew".toList =
        [".".toList, "bin".toList, "brew".toList] := by
      decide
    refine Glob.ofText?_eq_some_iff.2 ⟨by rw [hparts]; rfl, [], "./bin/brew".toList,
      glob.patterns, by decide, ?_, rfl⟩
    rw [hpieces]
    exact Glob.mapM_parts?_of_plain (by decide)
  have hfound : settings.Finds host "bin/brew".toList :=
    ⟨"bin/brew".toList, List.mem_singleton_self _, glob, hglob, by decide⟩
  have hentry : settings.IsScript host "./bin/brew".toList := .inr ⟨by decide, by decide⟩
  have hsame := (settings.namesNoFileTwice_iff host).1 (h settings host) _ _ hentry (.inl hfound)
    (by decide)
  revert hsame
  decide

end Settings

end Blurb
