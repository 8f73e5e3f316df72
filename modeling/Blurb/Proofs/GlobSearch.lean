import Blurb.Files.Glob
import Blurb.Proofs.PathSegments

/-! # What globs find

A search follows the patterns of a glob from where it starts, one name after the other. So what
every name leaves true of a path is true of all that is found, if it is true of the start: an
absolute glob finds absolute paths only.

* `Glob.parts?_of_plain` — a text without wildcards is a pattern for itself.
* `Glob.Persists` — what every step of a search leaves true; `Glob.Persists.files` — it is true of
  all that is found.
* `Glob.isAbsolute_of_mem_files` — an absolute glob finds absolute paths. -/

namespace Blurb

namespace Text

/-- Leaving out pieces leaves no more bytes. -/
theorem utf8Size_join_le (segments : List Text) :
    utf8Size (join ['/'] ((segments.filterMap Component.ofSegment?).map Component.text)) ≤
      utf8Size (join ['/'] segments) := by
  induction segments with
  | nil => exact Nat.le_refl _
  | cons segment segments ih =>
    have hrest : utf8Size (join ['/'] segments) ≤ utf8Size (join ['/'] (segment :: segments)) := by
      cases segments with
      | nil => simp [utf8Size]
      | cons next segments =>
        rw [join, utf8Size_append]
        omega
    cases hsegment : Component.ofSegment? segment with
    | none =>
      rw [List.filterMap_cons_none hsegment]
      exact ih.trans hrest
    | some component =>
      rw [List.filterMap_cons_some hsegment, List.map_cons, Component.text_of_ofSegment? hsegment]
      cases segments with
      | nil => exact Nat.le_refl _
      | cons next segments =>
        rw [join, utf8Size_append, utf8Size_append]
        cases hwritten : ((next :: segments).filterMap Component.ofSegment?).map Component.text with
        | nil =>
          rw [join_singleton]
          omega
        | cons piece pieces =>
          rw [hwritten] at ih
          rw [join, utf8Size_append, utf8Size_append]
          omega

end Text

namespace Glob

variable {host : Host} {glob : Glob}

/-! ## Patterns -/

/-- A character that stands for itself in a pattern. -/
def isPlain (c : Char) : Bool := c != '?' && c != '*' && c != '['

/-- **A text without wildcards** is a pattern of the characters themselves. -/
theorem parts?_of_plain {t : Text} (h : t.all isPlain = true) (atStart : Bool) :
    parts? atStart t = some (t.map .char) := by
  induction t generalizing atStart with
  | nil => rw [parts?, List.map_nil]
  | cons c t ih =>
    rw [List.all_cons, Bool.and_eq_true] at h
    obtain ⟨hplain, hrest⟩ := h
    have hne : (c ≠ '?' ∧ c ≠ '*') ∧ c ≠ '[' := by simpa [isPlain] using hplain
    rw [parts?, ih hrest]
    · rfl
    all_goals simp_all

/-- Names without wildcards are patterns one by one. -/
theorem mapM_parts?_of_plain {names : List Text} (h : ∀ name ∈ names, name.all isPlain = true) :
    names.mapM (parts? true) = some (names.map (List.map .char)) := by
  induction names with
  | nil => rfl
  | cons name names ih =>
    obtain ⟨hname, hnames⟩ := List.forall_mem_cons.1 h
    rw [List.mapM_cons, parts?_of_plain hname, ih hnames]
    rfl

/-- The bytes that the start of a glob takes of its text. -/
def startSize (t : Text) : Nat :=
  Text.utf8Size t - Text.utf8Size (Text.join ['/']
    (((Path.components t).filter (· != .root)).map Component.text))

/-- **The glob of a text**: what is behind the start is cut into patterns. -/
theorem ofText?_eq_some_iff {t : Text} :
    ofText? t = some glob ↔ (parts? true t).isSome = true ∧
      ∃ start rest patterns, Text.splitAtByte? (startSize t) t = some (start, rest) ∧
        (pieces rest).mapM (parts? true) = some patterns ∧
        glob = {
          start := if start.isEmpty then ['.'] else start
          patterns := if rest.isEmpty then patterns ++ [[]] else patterns
          onlyDirectories := t.getLast? == some '/' } := by
  simp only [ofText?, Option.bind_eq_bind, Option.bind_eq_some_iff, Option.some.injEq,
    Prod.exists, Option.isSome_iff_exists, exists_and_right]
  refine and_congr_right fun _ => ⟨?_, ?_⟩
  · rintro ⟨start, rest, hsplit, patterns, hpatterns, rfl⟩
    exact ⟨start, rest, patterns, hsplit, hpatterns, rfl⟩
  · rintro ⟨start, rest, patterns, hsplit, hpatterns, rfl⟩
    exact ⟨start, rest, hsplit, patterns, hpatterns, rfl⟩

/-- **An absolute glob starts at an absolute path**, since the root is no part of its patterns. -/
theorem isAbsolute_start {t : Text} (habsolute : Path.isAbsolute t = true)
    (h : ofText? t = some glob) : Path.isAbsolute glob.start = true := by
  obtain ⟨-, start, rest, patterns, hsplit, -, rfl⟩ := ofText?_eq_some_iff.1 h
  obtain ⟨ht, hsize⟩ := Text.splitAtByte?_eq_some_iff.1 hsplit
  rw [startSize] at hsize
  obtain ⟨below, rfl⟩ : ∃ below, t = '/' :: below := by
    cases t with
    | nil => cases habsolute
    | cons c below => exact ⟨below, by simpa [Path.isAbsolute] using habsolute⟩
  have hwritten : (Path.components ('/' :: below)).filter (· != .root) =
      (Path.segments below).filterMap Component.ofSegment? := by
    have hsegments : Path.segments ('/' :: below) = [] :: Path.segments below := rfl
    have hnone : (Path.written below).filter (· != .root) = Path.written below := by
      rw [List.filter_eq_self]
      intro component hmem
      have hne : component ≠ .root := fun heq => Path.root_notMem_written below (heq ▸ hmem)
      simpa using hne
    rw [Path.components_of_isAbsolute habsolute, Path.written, hsegments,
      List.filterMap_cons_none rfl, List.filter_cons_of_neg (by simp)]
    exact hnone
  have hless := Text.utf8Size_join_le (Path.segments below)
  rw [Path.segments, Text.join_splitOn] at hless
  rw [hwritten, Path.segments, Text.utf8Size] at hsize
  have hslash : 0 < '/'.utf8Size := Char.utf8Size_pos _
  cases start with
  | nil =>
    -- the separator in front of everything has a byte of its own
    rw [Text.utf8Size] at hsize
    omega
  | cons c start =>
    obtain ⟨rfl, -⟩ := List.cons.inj ht
    rfl

/-! ## Searching -/

/-- The path that a search has come to. -/
def Stop.path : Stop → Path
  | found path => path
  | pending path _ => path

/-- **What every step of a search leaves true** of a path. -/
structure Persists (holds : Path → Prop) : Prop where
  /-- It is left true by a step to a name. -/
  step : ∀ path name, holds path → holds (step path name)
  /-- It is left true where a name is joined. -/
  join : ∀ path name, holds path → holds (Path.join path name)

namespace Persists

variable {holds : Path → Prop} (h : Persists holds)
include h

/-- It is true at the next stops. -/
theorem stops {patterns : List (List Part)} {path : Path} {stop : Stop} (hpath : holds path)
    (hstop : stop ∈ stops host path patterns) : holds stop.path := by
  induction patterns generalizing path stop with
  | nil => simp [Glob.stops] at hstop
  | cons parts rest ih =>
    -- the search goes on from a path in one way only
    have hgo : ∀ next, holds next →
        stop ∈ (if rest.isEmpty then [Stop.found next] else Glob.stops host next rest) →
        holds stop.path := by
      intro next hnext hmem
      split at hmem
      · obtain rfl := List.mem_singleton.1 hmem
        exact hnext
      · exact ih hnext hmem
    rw [Glob.stops] at hstop
    dsimp only at hstop
    split at hstop
    · -- a name without wildcards
      split at hstop
      · split at hstop
        · exact hgo _ (h.step _ _ hpath) hstop
        · cases hstop
      · split at hstop
        · exact hgo _ (h.step _ _ hpath) hstop
        · cases hstop
    · -- the names in a directory, before them `.` and `..` where they may match
      split at hstop
      · obtain hspecial | hname := List.mem_append.1 hstop
        · split at hspecial
          · obtain ⟨name, -, hmem⟩ := List.mem_flatMap.1 hspecial
            exact hgo _ (h.join _ _ hpath) hmem
          · cases hspecial
        · obtain ⟨name, -, rfl⟩ := List.mem_map.1 hname
          exact h.step _ _ hpath
      · cases hstop

/-- It is true of all that a search comes to. -/
theorem follow {fuel : Nat} {stop : Stop} {path : Path} (hstop : holds stop.path)
    (hpath : path ∈ follow host fuel stop) : holds path := by
  induction fuel generalizing stop path with
  | zero => simp [Glob.follow] at hpath
  | succ fuel ih =>
    cases stop with
    | found other =>
      obtain rfl := List.mem_singleton.1 hpath
      exact hstop
    | pending other patterns =>
      have hnext : ∀ patterns, path ∈ (Glob.stops host other patterns).flatMap
          (Glob.follow host fuel) → holds path := by
        intro patterns hmem
        obtain ⟨next, hnext, hmem⟩ := List.mem_flatMap.1 hmem
        exact ih (h.stops hstop hnext) hmem
      -- the name of the path itself is matched
      have hname : ∀ (parts : List Part) (rest : List (List Part)) (name : Text),
          path ∈ (if matchName parts name then
            if rest.isEmpty then [other]
            else (Glob.stops host other rest).flatMap (Glob.follow host fuel)
          else []) → holds path := by
        intro parts rest name hmem
        split at hmem
        · split at hmem
          · obtain rfl := List.mem_singleton.1 hmem
            exact hstop
          · exact hnext _ hmem
        · cases hmem
      -- any number of directories is passed
      have hbelow : ∀ patterns, path ∈ (if host.isDir other then
          (Glob.stops host other patterns).flatMap (Glob.follow host fuel) else []) →
          holds path := by
        intro patterns hmem
        split at hmem
        · exact hnext _ hmem
        · cases hmem
      simp only [Glob.follow] at hpath
      split at hpath
      · cases hpath
      · split at hpath
        · split at hpath
          · split at hpath
            · obtain rfl | hmem := List.mem_cons.1 hpath
              · exact hstop
              · exact hnext _ hmem
            · cases hpath
          · obtain hmem | hmem := List.mem_append.1 hpath
            · split at hmem
              · cases hmem
              · split at hmem
                · exact hname _ _ _ hmem
                · cases hmem
            · exact hbelow _ hmem
        · split at hpath
          · exact hname _ _ _ hpath
          · cases hpath

/-- **It is true of all files that a glob finds.** -/
theorem files {path : Path} (hstart : holds glob.start) (hpath : path ∈ files host glob) :
    holds path := by
  obtain ⟨hfound, -⟩ := List.mem_filter.1 hpath
  obtain ⟨stop, hstop, hpath⟩ := List.mem_flatMap.1 hfound
  exact h.follow (h.stops hstart hstop) hpath

end Persists

/-- Names below an absolute path lead to absolute paths. -/
theorem persists_isAbsolute : Persists fun path => Path.isAbsolute path = true := by
  have hjoin : ∀ path name, Path.isAbsolute path = true →
      Path.isAbsolute (Path.join path name) = true := by
    intro path name hpath
    cases hname : Path.isAbsolute name with
    | true => rwa [Path.join, if_pos hname]
    | false => rwa [Path.isAbsolute_join path hname]
  refine ⟨fun path name hpath => ?_, hjoin⟩
  have hdot : Path.same path ['.'] = false := by
    rw [Path.same, Path.components_of_isAbsolute hpath]
    rfl
  rw [step, hdot]
  exact hjoin path name hpath

/-- **An absolute glob finds absolute paths.** -/
theorem isAbsolute_of_mem_files {t : Text} {path : Path} (habsolute : Path.isAbsolute t = true)
    (h : ofText? t = some glob) (hpath : path ∈ glob.files host) : Path.isAbsolute path = true :=
  persists_isAbsolute.files (isAbsolute_start habsolute h) hpath

/-- Only files are found. -/
theorem isFile_of_mem_files {path : Path} (hpath : path ∈ glob.files host) :
    host.isFile path = true := by
  have hkept := (List.mem_filter.1 hpath).2
  rw [Bool.and_eq_true] at hkept
  exact hkept.1

end Glob

end Blurb
