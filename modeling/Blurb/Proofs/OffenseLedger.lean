import Blurb.Proofs.PathOrder
import Blurb.Style.Findings
import Mathlib

/-! # Findings as a ledger tells them

Findings come about by adding the offenses of one file after the other and by merging findings that
came about apart. A ledger writes down what was added, in order, and the findings hold for every
path what the ledger tells: the spelling under which offenses came first, and all offenses that came
under any spelling. Entries of a path are put one behind the other, which is associative, and so is
merging.

* `Findings.IsKept` — files in ascending order, none without offenses; insertion and merging keep
  it.
* `Findings.ext_of_isKept` — such findings are known by their entries.
* `Findings.IsKept.fileAt?_merge` — merging joins the entries of each path.
* `History.fileAt?_findings` — findings tell what the ledger of their history does.
* `findings_of_history` — what all of this comes to, and the laws of merging. -/

namespace Blurb

open Std (TransCmp OrientedCmp)

/-! ## Entries -/

/-- **One entry behind another**: under the spelling of the first, the offenses of both. -/
def joinEntries : Option FileOffenses → Option FileOffenses → Option FileOffenses
  | none, later => later
  | some entry, none => some entry
  | some (path, offenses), some (_, more) => some (path, offenses ++ more)

@[simp] theorem joinEntries_none_left (later : Option FileOffenses) :
    joinEntries none later = later := rfl

@[simp] theorem joinEntries_none_right (entry : Option FileOffenses) :
    joinEntries entry none = entry := by
  cases entry <;> rfl

theorem joinEntries_assoc (a b c : Option FileOffenses) :
    joinEntries (joinEntries a b) c = joinEntries a (joinEntries b c) := by
  cases a <;> cases b <;> cases c <;> simp [joinEntries]

/-! ## Ledgers -/

/-- **A ledger**: lists of offenses with the paths they were reported under, in the order in which
they came. -/
abbrev Ledger := List FileOffenses

namespace Ledger

/-- The offenses that came under a path, in any spelling. -/
def filed (ledger : Ledger) (path : Path) : List Offense :=
  (ledger.filter fun entry => Path.same path entry.1).flatMap fun entry => entry.2

/-- The first list under a path that holds offenses. -/
def first? (ledger : Ledger) (path : Path) : Option FileOffenses :=
  ledger.find? fun entry => Path.same path entry.1 && !entry.2.isEmpty

/-- **What a ledger tells of a path**: the spelling under which offenses came first, and all
offenses that came under the path. -/
def fileAt? (ledger : Ledger) (path : Path) : Option FileOffenses :=
  (ledger.first? path).map fun first => (first.1, ledger.filed path)

variable {ledger : Ledger} {path : Path}

theorem filed_append (ledger later : Ledger) (path : Path) :
    (ledger ++ later).filed path = ledger.filed path ++ later.filed path := by
  rw [filed, List.filter_append, List.flatMap_append]
  rfl

/-- Without a list that holds offenses, there are none. -/
theorem filed_eq_nil_iff : ledger.filed path = [] ↔ ledger.first? path = none := by
  simp only [filed, first?, List.flatMap_eq_nil_iff, List.mem_filter, List.find?_eq_none,
    Bool.and_eq_true, Bool.not_eq_true', List.isEmpty_eq_false_iff, not_and, not_not, and_imp]

theorem fileAt?_eq_none_iff : ledger.fileAt? path = none ↔ ledger.filed path = [] := by
  rw [fileAt?, Option.map_eq_none_iff, filed_eq_nil_iff]

/-- A ledger tells of a path what it tells of the same path spelled otherwise. -/
theorem fileAt?_congr {other : Path} (h : Path.same path other = true) (ledger : Ledger) :
    ledger.fileAt? path = ledger.fileAt? other := by
  simp only [fileAt?, first?, filed, Path.same_congr h]

/-- **A later ledger joins its entries to those of an earlier one.** -/
theorem fileAt?_append (ledger later : Ledger) (path : Path) :
    fileAt? (ledger ++ later) path = joinEntries (ledger.fileAt? path) (later.fileAt? path) := by
  have hfirst : first? (ledger ++ later) path = (ledger.first? path).or (later.first? path) :=
    List.find?_append
  rw [fileAt?, hfirst, filed_append]
  cases h : ledger.first? path with
  | none => simp [fileAt?, h, filed_eq_nil_iff.2 h]
  | some first =>
    cases hlater : later.first? path with
    | none => simp [fileAt?, h, hlater, filed_eq_nil_iff.2 hlater]
    | some other => simp [fileAt?, h, hlater, joinEntries]

theorem fileAt?_singleton (other path : Path) (offenses : List Offense) :
    fileAt? [(other, offenses)] path =
      if Path.same path other && !offenses.isEmpty then some (other, offenses) else none := by
  cases hsame : Path.same path other <;> cases hempty : offenses.isEmpty <;>
    simp [fileAt?, first?, filed, hsame, hempty]

/-- What a ledger tells of a path is spelled like the path up to empty and inner `.` segments. -/
theorem same_of_fileAt? {entry : FileOffenses} (h : ledger.fileAt? path = some entry) :
    Path.same path entry.1 = true := by
  obtain ⟨first, hfirst, rfl⟩ := Option.map_eq_some_iff.1 h
  have := List.find?_some hfirst
  rw [Bool.and_eq_true] at this
  exact this.1

end Ledger

/-! ## Files in order -/

namespace Findings

/-- A file comes before another in the order of their paths. -/
def Before (a b : FileOffenses) : Prop := Path.compare a.1 b.1 = .lt

theorem Before.trans {a b c : FileOffenses} (hab : Before a b) (hbc : Before b c) : Before a c :=
  TransCmp.lt_trans hab hbc

theorem Before.same_eq_false {a b : FileOffenses} (h : Before a b) : Path.same a.1 b.1 = false :=
  Path.same_eq_false_of_lt h

theorem not_before_self (a : FileOffenses) : ¬ Before a a := by
  intro h
  have := h.same_eq_false
  rw [Path.same_refl] at this
  simp at this

instance : Std.Irrefl Before := ⟨not_before_self⟩

instance : Std.Antisymm Before := ⟨fun _ _ hab hba => absurd (hab.trans hba) (not_before_self _)⟩

/-- The entry of a path. -/
def fileAt? (findings : Findings) (path : Path) : Option FileOffenses :=
  findings.files.find? fun file => Path.same path file.1

/-- **Findings in good order**: the files come in strictly ascending order of their paths, and each
has offenses. -/
structure IsKept (findings : Findings) : Prop where
  /-- The files are in order. -/
  ascending : findings.files.Pairwise Before
  /-- Every file has offenses. -/
  offenses_ne_nil : ∀ file ∈ findings.files, file.2 ≠ []

variable {findings other : Findings} {path : Path} {offenses : List Offense}
  {files : List FileOffenses}

theorem get?_eq_map_fileAt? (findings : Findings) (path : Path) :
    findings.get? path = (findings.fileAt? path).map fun file => file.2 := rfl

theorem mem_of_fileAt? {file : FileOffenses} (h : findings.fileAt? path = some file) :
    file ∈ findings.files := List.mem_of_find?_eq_some h

theorem same_of_fileAt? {file : FileOffenses} (h : findings.fileAt? path = some file) :
    Path.same path file.1 = true := by
  simpa using List.find?_some h

/-- The same paths have the same entry. -/
theorem fileAt?_congr {other : Path} (h : Path.same path other = true) (findings : Findings) :
    findings.fileAt? path = findings.fileAt? other := by
  simp only [fileAt?, Path.same_congr h]

/-- A file in ascending order is found under all spellings of its path. -/
theorem find?_of_mem (hfiles : files.Pairwise Before) {file : FileOffenses} (hmem : file ∈ files)
    (hsame : Path.same path file.1 = true) :
    files.find? (fun other => Path.same path other.1) = some file := by
  induction files with
  | nil => simp at hmem
  | cons head rest ih =>
    rw [List.pairwise_cons] at hfiles
    rcases List.mem_cons.1 hmem with rfl | hrest
    · exact List.find?_cons_of_pos hsame
    · -- the head comes before the file, so it is another path
      have hhead : Path.same path head.1 = false := by
        rw [Path.same_congr hsame, Path.same_comm]
        exact (hfiles.1 file hrest).same_eq_false
      rw [List.find?_cons_of_neg (by simp [hhead])]
      exact ih hfiles.2 hrest

/-- Behind a file stands no file of the same path. -/
theorem find?_eq_none_of_before {head : FileOffenses} (hsame : Path.same path head.1 = true)
    (hfiles : ∀ file ∈ files, Before head file) :
    files.find? (fun file => Path.same path file.1) = none := by
  rw [List.find?_eq_none]
  intro file hfile
  rw [Path.same_congr hsame, (hfiles file hfile).same_eq_false]
  simp

/-- **A file is what the entry of its path says.** -/
theorem IsKept.mem_iff (h : findings.IsKept) {file : FileOffenses} :
    file ∈ findings.files ↔ findings.fileAt? file.1 = some file :=
  ⟨fun hmem => find?_of_mem h.ascending hmem (Path.same_refl _), mem_of_fileAt?⟩

/-- **Findings in good order are known by their entries.** -/
theorem ext_of_isKept (h : findings.IsKept) (hother : other.IsKept)
    (hentries : ∀ path, findings.fileAt? path = other.fileAt? path) : findings = other := by
  have hfiles : findings.files = other.files := by
    refine List.Pairwise.eq_of_mem_iff h.ascending hother.ascending fun file => ?_
    rw [h.mem_iff, hother.mem_iff, hentries]
  cases findings
  cases other
  exact congrArg Findings.mk hfiles

/-! ## Insertion -/

/-- A file stands behind another after an insertion if it did so before or is the one inserted. -/
theorem before_of_mem_insertInto {head file : FileOffenses} (hhead : Before head (path, offenses))
    (hrest : ∀ other ∈ files, Before head other) (h : file ∈ insertInto path offenses files) :
    Before head file := by
  induction files with
  | nil =>
    rw [insertInto, List.mem_singleton] at h
    exact h ▸ hhead
  | cons first rest ih =>
    obtain ⟨other, stored⟩ := first
    have htail : ∀ file ∈ rest, Before head file :=
      fun file hfile => hrest file (List.mem_cons_of_mem _ hfile)
    rw [insertInto] at h
    split at h
    · rcases List.mem_cons.1 h with rfl | h
      · exact hhead
      · exact hrest file h
    · rcases List.mem_cons.1 h with rfl | h
      · exact hrest (other, stored) List.mem_cons_self
      · exact htail file h
    · rcases List.mem_cons.1 h with rfl | h
      · exact hrest (other, stored) List.mem_cons_self
      · exact ih htail h

/-- **Insertion keeps the order.** -/
theorem ascending_insertInto (path : Path) (offenses : List Offense)
    (hfiles : files.Pairwise Before) : (insertInto path offenses files).Pairwise Before := by
  induction files with
  | nil => exact List.pairwise_singleton _ _
  | cons first rest ih =>
    obtain ⟨other, stored⟩ := first
    rw [List.pairwise_cons] at hfiles
    rw [insertInto]
    split
    · next hlt =>
      refine List.pairwise_cons.2 ⟨?_, List.pairwise_cons.2 hfiles⟩
      intro file hfile
      rcases List.mem_cons.1 hfile with rfl | hfile
      · exact hlt
      · exact Before.trans (b := (other, stored)) hlt (hfiles.1 file hfile)
    · exact List.pairwise_cons.2 hfiles
    · next hgt =>
      refine List.pairwise_cons.2 ⟨?_, ih hfiles.2⟩
      exact fun file => before_of_mem_insertInto (OrientedCmp.gt_iff_lt.1 hgt) hfiles.1

theorem offenses_ne_nil_insertInto (hoffenses : offenses ≠ [])
    (hfiles : ∀ file ∈ files, file.2 ≠ []) :
    ∀ file ∈ insertInto path offenses files, file.2 ≠ [] := by
  induction files with
  | nil => simpa [insertInto] using hoffenses
  | cons first rest ih =>
    obtain ⟨other, stored⟩ := first
    rw [insertInto]
    split
    · exact List.forall_mem_cons.2 ⟨hoffenses, hfiles⟩
    · rw [List.forall_mem_cons] at hfiles
      exact List.forall_mem_cons.2 ⟨by simp [hoffenses], hfiles.2⟩
    · rw [List.forall_mem_cons] at hfiles
      exact List.forall_mem_cons.2 ⟨hfiles.1, ih hfiles.2⟩

/-- **Insertion joins the offenses to the entry of their path** and leaves all others alone. -/
theorem find?_insertInto (hfiles : files.Pairwise Before) (path wanted : Path)
    (offenses : List Offense) :
    (insertInto path offenses files).find? (fun file => Path.same wanted file.1) =
      joinEntries (files.find? fun file => Path.same wanted file.1)
        (if Path.same wanted path then some (path, offenses) else none) := by
  induction files with
  | nil => cases h : Path.same wanted path <;> simp [insertInto, h]
  | cons first rest ih =>
    obtain ⟨other, stored⟩ := first
    rw [List.pairwise_cons] at hfiles
    rw [insertInto]
    split
    · next hlt =>
      cases h : Path.same wanted path with
      | false => simp [h]
      | true =>
        -- every file comes behind the path, so none is the one wanted
        have hnone : ((other, stored) :: rest).find? (fun file => Path.same wanted file.1) =
            none := by
          have hsame : Path.same wanted (path, offenses).1 = true := h
          refine find?_eq_none_of_before hsame fun file hfile => ?_
          rcases List.mem_cons.1 hfile with rfl | hfile
          · exact hlt
          · exact Before.trans (b := (other, stored)) hlt (hfiles.1 file hfile)
        rw [hnone]
        simp [h]
    · next heq =>
      have hsame : Path.same wanted path = Path.same wanted other := by
        rw [Path.same_comm, Path.same_congr (Path.compare_eq_iff.1 heq), Path.same_comm]
      cases h : Path.same wanted other with
      | false => simp [hsame, h]
      | true => simp [hsame, h, joinEntries]
    · next hgt =>
      have hbefore : Before (other, stored) (path, offenses) := OrientedCmp.gt_iff_lt.1 hgt
      cases h : Path.same wanted other with
      | false => simpa [h] using ih hfiles.2
      | true =>
        have hpath : Path.same wanted path = false := by
          rw [Path.same_congr h]
          exact hbefore.same_eq_false
        simp [h, hpath]

/-- Insertion loses no offense and brings none but its own. -/
theorem perm_insertInto (path : Path) (offenses : List Offense) (files : List FileOffenses) :
    ((insertInto path offenses files).flatMap fun file => file.2).Perm
      ((files.flatMap fun file => file.2) ++ offenses) := by
  induction files with
  | nil => simp [insertInto]
  | cons first rest ih =>
    obtain ⟨other, stored⟩ := first
    rw [insertInto]
    split
    · exact List.perm_append_comm
    · simp only [List.flatMap_cons, List.append_assoc]
      exact (List.perm_append_comm).append_left stored
    · simpa only [List.flatMap_cons, List.append_assoc] using ih.append_left stored

theorem isKept_empty : empty.IsKept := ⟨List.Pairwise.nil, by simp [empty]⟩

theorem IsKept.insert (h : findings.IsKept) (path : Path) (offenses : List Offense) :
    (findings.insert path offenses).IsKept := by
  rw [Findings.insert]
  split
  · exact h
  · next hne =>
    rw [List.isEmpty_iff] at hne
    exact ⟨ascending_insertInto path offenses h.ascending,
      offenses_ne_nil_insertInto hne h.offenses_ne_nil⟩

theorem IsKept.fileAt?_insert (h : findings.IsKept) (added : Path) (offenses : List Offense)
    (path : Path) :
    (findings.insert added offenses).fileAt? path =
      joinEntries (findings.fileAt? path) (Ledger.fileAt? [(added, offenses)] path) := by
  rw [Findings.insert, Ledger.fileAt?_singleton]
  cases hempty : offenses.isEmpty with
  | true => simp
  | false =>
    simp only [Bool.false_eq_true, if_false, Bool.not_false, Bool.and_true]
    exact find?_insertInto h.ascending added path offenses

theorem perm_insert (findings : Findings) (path : Path) (offenses : List Offense) :
    ((findings.insert path offenses).files.flatMap fun file => file.2).Perm
      ((findings.files.flatMap fun file => file.2) ++ offenses) := by
  rw [Findings.insert]
  split
  · next hempty =>
    rw [List.isEmpty_iff.1 hempty, List.append_nil]
  · exact perm_insertInto path offenses findings.files

/-! ## A whole ledger -/

/-- **Adding a ledger**, list by list. -/
def insertAll (findings : Findings) (ledger : Ledger) : Findings :=
  ledger.foldl (fun all entry => all.insert entry.1 entry.2) findings

theorem IsKept.insertAll (h : findings.IsKept) (ledger : Ledger) :
    (findings.insertAll ledger).IsKept := by
  induction ledger generalizing findings with
  | nil => exact h
  | cons entry rest ih => exact ih (h.insert entry.1 entry.2)

/-- **A ledger that is added joins its entries to those of the findings.** -/
theorem IsKept.fileAt?_insertAll (h : findings.IsKept) (ledger : Ledger) (path : Path) :
    (findings.insertAll ledger).fileAt? path =
      joinEntries (findings.fileAt? path) (ledger.fileAt? path) := by
  induction ledger generalizing findings with
  | nil => simp [Findings.insertAll, Ledger.fileAt?, Ledger.first?]
  | cons entry rest ih =>
    calc (findings.insertAll (entry :: rest)).fileAt? path
        = joinEntries ((findings.insert entry.1 entry.2).fileAt? path)
            (Ledger.fileAt? rest path) := ih (h.insert entry.1 entry.2)
      _ = joinEntries (findings.fileAt? path)
            (joinEntries (Ledger.fileAt? [entry] path) (Ledger.fileAt? rest path)) := by
          rw [h.fileAt?_insert, joinEntries_assoc]
      _ = joinEntries (findings.fileAt? path) (Ledger.fileAt? (entry :: rest) path) := by
          rw [← Ledger.fileAt?_append, List.singleton_append]

theorem perm_insertAll (findings : Findings) (ledger : Ledger) :
    ((findings.insertAll ledger).files.flatMap fun file => file.2).Perm
      ((findings.files ++ ledger).flatMap fun file => file.2) := by
  induction ledger generalizing findings with
  | nil => simp [Findings.insertAll]
  | cons entry rest ih =>
    refine (ih (findings.insert entry.1 entry.2)).trans ?_
    simp only [List.flatMap_append, List.flatMap_cons, ← List.append_assoc]
    exact (perm_insert findings entry.1 entry.2).append_right _

/-- Files in good order tell as a ledger what they hold. -/
theorem fileAt?_of_ascending (hfiles : files.Pairwise Before) (hne : ∀ file ∈ files, file.2 ≠ [])
    (path : Path) :
    Ledger.fileAt? files path = files.find? fun file => Path.same path file.1 := by
  induction files with
  | nil => rfl
  | cons head rest ih =>
    rw [List.pairwise_cons] at hfiles
    rw [List.forall_mem_cons] at hne
    have hhead : Ledger.fileAt? [head] path =
        if Path.same path head.1 then some head else none := by
      rw [Ledger.fileAt?_singleton]
      simp [hne.1]
    rw [← List.singleton_append, Ledger.fileAt?_append, ih hfiles.2 hne.2, hhead]
    cases hsame : Path.same path head.1 with
    | false => simp [hsame]
    | true =>
      rw [find?_eq_none_of_before hsame hfiles.1]
      simp [hsame]

/-- **Findings in good order are a ledger of their own.** -/
theorem IsKept.fileAt?_files (h : findings.IsKept) (path : Path) :
    Ledger.fileAt? findings.files path = findings.fileAt? path :=
  fileAt?_of_ascending h.ascending h.offenses_ne_nil path

/-! ## Merging -/

theorem merge_eq_insertAll (findings other : Findings) :
    findings.merge other = findings.insertAll other.files := rfl

theorem IsKept.merge (h : findings.IsKept) (other : Findings) : (findings.merge other).IsKept :=
  h.insertAll other.files

/-- **Merging joins the entries of each path.** -/
theorem IsKept.fileAt?_merge (h : findings.IsKept) (hother : other.IsKept) (path : Path) :
    (findings.merge other).fileAt? path =
      joinEntries (findings.fileAt? path) (other.fileAt? path) := by
  rw [merge_eq_insertAll, h.fileAt?_insertAll, hother.fileAt?_files]

theorem perm_merge (findings other : Findings) :
    ((findings.merge other).files.flatMap fun file => file.2).Perm
      ((findings.files.flatMap fun file => file.2) ++ other.files.flatMap fun file => file.2) := by
  rw [← List.flatMap_append]
  exact perm_insertAll findings other.files

theorem total_merge (findings other : Findings) :
    (findings.merge other).total = findings.total + other.total := by
  rw [total, (perm_merge findings other).length_eq, List.length_append]
  rfl

theorem corrected_merge (findings other : Findings) :
    (findings.merge other).corrected = findings.corrected + other.corrected := by
  rw [corrected, (perm_merge findings other).countP_eq, List.countP_append]
  rfl

theorem IsKept.empty_merge (h : findings.IsKept) : empty.merge findings = findings := by
  refine ext_of_isKept (isKept_empty.merge findings) h fun path => ?_
  rw [isKept_empty.fileAt?_merge h]
  rfl

/-- **Merging is associative**, the spelling of paths included. -/
theorem IsKept.merge_assoc {third : Findings} (h : findings.IsKept) (hother : other.IsKept)
    (hthird : third.IsKept) :
    (findings.merge other).merge third = findings.merge (other.merge third) := by
  refine ext_of_isKept ((h.merge other).merge third) (h.merge _) fun path => ?_
  rw [(h.merge other).fileAt?_merge hthird, h.fileAt?_merge hother,
    h.fileAt?_merge (hother.merge third), hother.fileAt?_merge hthird, joinEntries_assoc]

/-! ## Counts -/

theorem total_eq_sum (findings : Findings) :
    findings.total = (findings.files.map fun file => file.2.length).sum := List.length_flatMap

theorem corrected_eq_sum (findings : Findings) :
    findings.corrected = (findings.files.map fun file => file.2.countP Offense.corrected).sum :=
  List.countP_flatMap

/-- **As many files as paths**: one for each path under which the ledger holds offenses. -/
theorem IsKept.size_eq (h : findings.IsKept) {ledger : Ledger}
    (htells : ∀ path, findings.fileAt? path = ledger.fileAt? path) :
    findings.size = ((ledger.filter fun entry => !entry.2.isEmpty).map fun entry =>
      Path.components entry.1).dedup.length := by
  have hnodup : (findings.files.map fun file => Path.components file.1).Nodup := by
    refine List.pairwise_map.2 (h.ascending.imp fun hbefore heq => ?_)
    rw [← Path.same_iff, hbefore.same_eq_false] at heq
    simp at heq
  have hperm : (findings.files.map fun file => Path.components file.1).Perm
      ((ledger.filter fun entry => !entry.2.isEmpty).map fun entry =>
        Path.components entry.1).dedup := by
    refine (List.perm_ext_iff_of_nodup hnodup (List.nodup_dedup _)).2 fun components => ?_
    rw [List.mem_dedup]
    simp only [List.mem_map, List.mem_filter]
    constructor
    · rintro ⟨file, hfile, rfl⟩
      -- the list that first brought offenses under the path of the file
      have hentry := h.mem_iff.1 hfile
      rw [htells, Ledger.fileAt?, Option.map_eq_some_iff] at hentry
      obtain ⟨first, hfirst, -⟩ := hentry
      have hfound := List.find?_some hfirst
      rw [Bool.and_eq_true, Path.same_iff] at hfound
      exact ⟨first, ⟨List.mem_of_find?_eq_some hfirst, hfound.2⟩, hfound.1.symm⟩
    · rintro ⟨entry, ⟨hentry, hne⟩, rfl⟩
      cases hfile : findings.fileAt? entry.1 with
      | none =>
        rw [htells, Ledger.fileAt?, Option.map_eq_none_iff, Ledger.first?, List.find?_eq_none]
          at hfile
        have := hfile entry hentry
        simp [Path.same_refl, hne] at this
      | some file =>
        have hsame := Ledger.same_of_fileAt? (htells entry.1 ▸ hfile)
        exact ⟨file, mem_of_fileAt? hfile, (Path.same_iff.1 hsame).symm⟩
  rw [size, ← hperm.length_eq, List.length_map]

end Findings

/-! ## Histories -/

/-- **How findings come about**: from nothing, by adding the offenses of a file, and by merging
findings that came about apart. -/
inductive History where
  /-- Nothing was added. -/
  | empty
  /-- The offenses of a file were added last. -/
  | insert (history : History) (path : Path) (offenses : List Offense)
  /-- Findings with a history of their own were merged in last. -/
  | merge (history other : History)

namespace History

/-- The findings that come about. -/
def findings : History → Findings
  | empty => .empty
  | insert history path offenses => history.findings.insert path offenses
  | merge history other => history.findings.merge other.findings

/-- All that was added, in order. -/
def ledger : History → Ledger
  | empty => []
  | insert history path offenses => history.ledger ++ [(path, offenses)]
  | merge history other => history.ledger ++ other.ledger

theorem isKept_findings (history : History) : history.findings.IsKept := by
  induction history with
  | empty => exact Findings.isKept_empty
  | insert history path offenses ih => exact ih.insert path offenses
  | merge history other ih _ => exact ih.merge other.findings

/-- **Findings tell what the ledger of their history does.** -/
theorem fileAt?_findings (history : History) (path : Path) :
    history.findings.fileAt? path = history.ledger.fileAt? path := by
  induction history with
  | empty => rfl
  | insert history added offenses ih =>
    rw [findings, ledger, history.isKept_findings.fileAt?_insert, ih, Ledger.fileAt?_append]
  | merge history other ih ihother =>
    rw [findings, ledger, history.isKept_findings.fileAt?_merge other.isKept_findings, ih, ihother,
      Ledger.fileAt?_append]

/-- No offense is lost and none is added. -/
theorem perm_findings (history : History) :
    (history.findings.files.flatMap fun file => file.2).Perm
      (history.ledger.flatMap fun entry => entry.2) := by
  induction history with
  | empty => exact List.Perm.refl _
  | insert history path offenses ih =>
    refine (Findings.perm_insert history.findings path offenses).trans ?_
    rw [ledger, List.flatMap_append]
    simpa using ih.append_right offenses
  | merge history other ih ihother =>
    refine (Findings.perm_merge history.findings other.findings).trans ?_
    rw [ledger, List.flatMap_append]
    exact ih.append ihother

end History

/-- **Findings hold what was added, and merging is a monoid.** Whatever the history, no file is
without offenses; the files come in strictly ascending order, so no two are the same; the entry of a
path stands under the spelling that first brought offenses and holds all offenses added under any
spelling, in order; there are as many files as paths with offenses; and the counts are the sums over
the files and over all that was added. -/
theorem findings_of_history :
    (∀ history : History,
      (∀ file ∈ history.findings.files, file.2 ≠ []) ∧
      (history.findings.files.Pairwise fun a b =>
        Path.compare a.1 b.1 = .lt ∧ Path.same a.1 b.1 = false) ∧
      (∀ path, history.findings.fileAt? path =
        (history.ledger.first? path).map fun first => (first.1, history.ledger.filed path)) ∧
      history.findings.size = ((history.ledger.filter fun entry => !entry.2.isEmpty).map
        fun entry => Path.components entry.1).dedup.length ∧
      history.findings.total = (history.findings.files.map fun file => file.2.length).sum ∧
      history.findings.total = (history.ledger.map fun entry => entry.2.length).sum ∧
      history.findings.corrected =
        (history.findings.files.map fun file => file.2.countP Offense.corrected).sum ∧
      history.findings.corrected =
        (history.ledger.map fun entry => entry.2.countP Offense.corrected).sum) ∧
    ∀ a b c : History,
      (a.findings.merge b.findings).merge c.findings =
        a.findings.merge (b.findings.merge c.findings) ∧
      Findings.empty.merge a.findings = a.findings ∧
      a.findings.merge .empty = a.findings ∧
      (a.findings.merge b.findings).total = a.findings.total + b.findings.total ∧
      (a.findings.merge b.findings).corrected = a.findings.corrected + b.findings.corrected := by
  refine ⟨fun history => ?_, fun a b c => ?_⟩
  · have hkept := history.isKept_findings
    have hperm := history.perm_findings
    refine ⟨hkept.offenses_ne_nil, ?_, history.fileAt?_findings,
      hkept.size_eq history.fileAt?_findings, Findings.total_eq_sum _, ?_,
      Findings.corrected_eq_sum _, ?_⟩
    · exact hkept.ascending.imp fun hbefore => ⟨hbefore, hbefore.same_eq_false⟩
    · rw [Findings.total, hperm.length_eq, List.length_flatMap]
    · rw [Findings.corrected, hperm.countP_eq, List.countP_flatMap]
      rfl
  · exact ⟨a.isKept_findings.merge_assoc b.isKept_findings c.isKept_findings,
      a.isKept_findings.empty_merge, Findings.merge_empty _, Findings.total_merge _ _,
      Findings.corrected_merge _ _⟩

end Blurb
