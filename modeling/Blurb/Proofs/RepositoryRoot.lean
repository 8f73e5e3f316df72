import Blurb.Config
import Blurb.Proofs.PathWalks

/-! # The root of a repository

The root is looked for among a path and its parents. The parents are read off the path as it is
written, and a relative path has none above the working directory. So the nearest root above a path
is found if the path is absolute, or if the root is not above the working directory; a root that is
above it is missed, and the path itself is returned as if it lay in no repository.

* `Path.Lineage` — a path, its parent, and so on up to one that has none.
* `Host.IsMarked`, `Host.IsNearestRoot` — roots of repositories, and the nearest one at or above a
  place.
* `Host.FindsNearestRoot` — what a search for the root is to find.
* `Config.detectRoot_eq` — the search ends, with the first root of the lineage.
* `Config.findsNearestRoot_iff` — which searches find what they are to find.
* `Config.not_forall_findsNearestRoot` — a root above the working directory is missed. -/

namespace Blurb

namespace Path

variable {path parent : Path} {cwd : Place}

/-! ## Lineages -/

/-- **The lineage of a path**: the path, its parent, and so on up to one that has none. -/
inductive Lineage : Path → List Path → Prop where
  /-- The path has no parent. -/
  | top {path : Path} (h : parent? path = none) : Lineage path [path]
  /-- The lineage of the parent goes on. -/
  | step {path parent : Path} {above : List Path} (h : parent? path = some parent)
    (rest : Lineage parent above) : Lineage path (path :: above)

/-- Every path has a lineage, since parents are shorter. -/
theorem exists_lineage (path : Path) : ∃ lineage, Lineage path lineage := by
  induction hn : path.length using Nat.strong_induction_on generalizing path with
  | _ n ih =>
    cases h : parent? path with
    | none => exact ⟨[path], .top h⟩
    | some parent =>
      have hshorter : parent.length < n := by
        rw [← hn]
        exact length_lt_of_parent? h
      obtain ⟨above, habove⟩ := ih parent.length hshorter parent rfl
      exact ⟨path :: above, .step h habove⟩

theorem Lineage.length_le {lineage : List Path} (h : Lineage path lineage) :
    lineage.length ≤ path.length + 1 := by
  induction h with
  | top => simp
  | step h rest ih =>
    have hshorter := length_lt_of_parent? h
    rw [List.length_cons]
    omega

/-! ## Where parents lead -/

/-- A path without parent leads nowhere else. -/
theorem placeFrom_of_parent?_eq_none (h : parent? path = none) :
    path.placeFrom cwd = path.origin cwd := by
  rw [placeFrom, parent?_eq_none_iff.1 h, origin]
  split <;> rfl

theorem origin_of_parent? (h : parent? path = some parent) :
    parent.origin cwd = path.origin cwd := by
  rw [origin, origin, isAbsolute_of_parent? h]

theorem parent_notMem_of_parent? (h : parent? path = some parent)
    (hdown : .parent ∉ path.components) : .parent ∉ parent.components := by
  obtain ⟨component, hcomponents⟩ := components_of_parent? h
  rw [hcomponents] at hdown
  exact fun hmem => hdown (List.mem_append_left _ hmem)

/-- **The parent of a path without `..` leads to all places above** where the path itself leads. -/
theorem prefix_placeFrom_iff (h : parent? path = some parent) (hdown : .parent ∉ path.components)
    {place : Place} :
    place <+: path.placeFrom cwd ↔
      place = path.placeFrom cwd ∨ place <+: parent.placeFrom cwd := by
  obtain ⟨component, hcomponents⟩ := components_of_parent? h
  have hlead : path.placeFrom cwd = Component.lead (parent.placeFrom cwd) component := by
    rw [placeFrom, hcomponents, List.foldl_append]
    rfl
  cases component with
  | root =>
    -- the root would stand behind another root
    have habsolute : isAbsolute path = true := root_mem_components_iff.1 (by simp [hcomponents])
    rw [← isAbsolute_of_parent? h] at habsolute
    obtain ⟨first, rest, hparent⟩ :=
      List.exists_cons_of_ne_nil (List.ne_nil_of_mem (root_mem_components_iff.2 habsolute))
    have htail := root_notMem_tail path
    rw [hcomponents, hparent] at htail
    simp at htail
  | current =>
    have hsame : path.placeFrom cwd = parent.placeFrom cwd := hlead
    rw [hsame]
    constructor
    · exact .inr
    · rintro (rfl | hstarts)
      · exact List.prefix_rfl
      · exact hstarts
  | parent => exact absurd (by simp [hcomponents]) hdown
  | name text =>
    have hbelow : path.placeFrom cwd = parent.placeFrom cwd ++ [text] := hlead
    rw [hbelow]
    exact List.prefix_concat_iff

end Path

namespace Host

/-! ## Roots -/

/-- What tells that a directory is the root of a repository. -/
def rootMarks : List Text :=
  ["desclint.toml".toList, "desclint.yaml".toList, "desclint.yml".toList, ".git".toList]

/-- **A directory is marked** as the root of a repository: it holds one of the marks. -/
def IsMarked (host : Host) (place : Place) : Prop :=
  host.tree.isDirAt place = true ∧
    ∃ mark ∈ rootMarks, (host.tree.at? (place ++ [mark])).isSome = true

instance (host : Host) (place : Place) : Decidable (host.IsMarked place) :=
  inferInstanceAs (Decidable (_ ∧ _))

/-- **The nearest root at or above a place.** -/
structure IsNearestRoot (host : Host) (place nearest : Place) : Prop where
  /-- It stands there. -/
  above : nearest <+: place
  /-- It is a root. -/
  marked : host.IsMarked nearest
  /-- All other roots stand above it. -/
  nearest : ∀ other, other <+: place → host.IsMarked other → other <+: nearest

/-- **What a search for the root is to find**: the nearest root at or above the place that the start
leads to, and the start itself if there is none. -/
structure FindsNearestRoot (host : Host) (start found : Path) : Prop where
  /-- The nearest root is found. -/
  denotes : ∀ nearest, host.IsNearestRoot (start.placeFrom host.cwd) nearest →
    host.Denotes found nearest
  /-- Without any root the start is returned. -/
  eq_start : (∀ place, place <+: start.placeFrom host.cwd → ¬ host.IsMarked place) → found = start

variable {host : Host} {place nearest : Place}

/-- There is only one nearest root. -/
theorem IsNearestRoot.unique {other : Place} (h : host.IsNearestRoot place nearest)
    (hother : host.IsNearestRoot place other) : nearest = other := by
  have hleft := hother.nearest nearest h.above h.marked
  have hright := h.nearest other hother.above hother.marked
  exact hleft.eq_of_length (hleft.length_le.antisymm hright.length_le)

/-- **Below a root there is a nearest one.** -/
theorem exists_isNearestRoot {root : Place} (hroot : host.IsMarked root) (hplace : root <+: place) :
    ∃ nearest, host.IsNearestRoot place nearest := by
  induction place using List.reverseRecOn with
  | nil =>
    obtain rfl := List.prefix_nil.1 hplace
    exact ⟨[], List.prefix_rfl, hroot, fun other hother _ => hother⟩
  | append_singleton place name ih =>
    by_cases hhere : host.IsMarked (place ++ [name])
    · exact ⟨place ++ [name], List.prefix_rfl, hhere, fun other hother _ => hother⟩
    have habove : ∀ other, other <+: place ++ [name] → host.IsMarked other → other <+: place := by
      intro other hother hmarked
      obtain rfl | hother := List.prefix_concat_iff.1 hother
      · exact absurd hmarked hhere
      · exact hother
    obtain ⟨nearest, hnearest⟩ := ih (habove root hplace hroot)
    exact ⟨nearest, hnearest.above.trans (List.prefix_append _ _), hnearest.marked,
      fun other hother hmarked => hnearest.nearest other (habove other hother hmarked) hmarked⟩

/-- **A start that is no root itself is not what is to be found below a root.** -/
theorem not_findsNearestRoot_start {start : Path} {root : Place} (hroot : host.IsMarked root)
    (habove : root <+: start.placeFrom host.cwd)
    (hstart : ¬ host.IsMarked (start.placeFrom host.cwd)) :
    ¬ host.FindsNearestRoot start start := by
  intro h
  obtain ⟨nearest, hnearest⟩ := exists_isNearestRoot hroot habove
  have hplace := eq_placeFrom_of_denotes (h.denotes nearest hnearest)
  rw [← hplace] at hstart
  exact hstart hnearest.marked

end Host

namespace Config

variable {host : Host} {start path found : Path} {lineage : List Path}

/-- **A path is a root if it denotes one.** -/
theorem isRoot_iff :
    isRoot host path = true ↔ ∃ place, host.Denotes path place ∧ host.IsMarked place := by
  have hmarks : ∀ mark ∈ Host.rootMarks, Path.segments mark = [mark] ∧
      Path.isAbsolute mark = false ∧ Component.ofSegment? mark = some (.name mark) := by
    decide
  have hany : isRoot host path =
      Host.rootMarks.any fun mark => host.holds (Path.join path mark) := by
    simp [isRoot, fileNames, Host.rootMarks, Bool.or_assoc]
  rw [hany, List.any_eq_true]
  constructor
  · rintro ⟨mark, hmem, hholds⟩
    obtain ⟨hsegments, hrelative, hname⟩ := hmarks mark hmem
    obtain ⟨place, hplace, hdir, hexists⟩ :=
      (Host.holds_join_iff hsegments hrelative hname).1 hholds
    exact ⟨place, hplace, hdir, mark, hmem, hexists⟩
  · rintro ⟨place, hplace, hdir, mark, hmem, hexists⟩
    obtain ⟨hsegments, hrelative, hname⟩ := hmarks mark hmem
    exact ⟨mark, hmem, (Host.holds_join_iff hsegments hrelative hname).2
      ⟨place, hplace, hdir, hexists⟩⟩

/-- Without `..` that hangs on the place only that the path leads to. -/
theorem isRoot_iff_isMarked (hwf : host.tree.IsWellFormed) (hdown : .parent ∉ path.components) :
    isRoot host path = true ↔ host.IsMarked (path.placeFrom host.cwd) := by
  rw [isRoot_iff]
  constructor
  · rintro ⟨place, hplace, hmarked⟩
    rwa [← Host.eq_placeFrom_of_denotes hplace]
  · exact fun hmarked => ⟨_, Host.denotes_placeFrom hwf hdown hmarked.1, hmarked⟩

/-! ## The search -/

theorem findRoot?_eq (h : Path.Lineage path lineage) {fuel : Nat} (hfuel : lineage.length ≤ fuel) :
    findRoot? host fuel path = lineage.find? (isRoot host) := by
  induction h generalizing fuel with
  | top h =>
    obtain ⟨fuel, rfl⟩ := Nat.exists_eq_add_of_le' hfuel
    rw [List.length_singleton, findRoot?, h, List.find?_singleton]
    rfl
  | step h rest ih =>
    rw [List.length_cons] at hfuel
    obtain ⟨fuel, rfl⟩ : ∃ n, fuel = n + 1 := ⟨fuel - 1, by omega⟩
    rw [findRoot?, h, Option.bind_some, List.find?_cons, ih (by omega)]
    cases isRoot host _ <;> rfl

/-- **The search ends with the first root of the lineage.** -/
theorem detectRoot_eq (h : Path.Lineage start lineage) :
    detectRoot host start = (lineage.find? (isRoot host)).getD start := by
  have hlength := h.length_le
  rw [detectRoot, findRoot?_eq h (by omega)]

/-- A path that is no root leads to none. -/
theorem not_isMarked_of_isRoot (hwf : host.tree.IsWellFormed) (hdown : .parent ∉ path.components)
    (h : isRoot host path = false) : ¬ host.IsMarked (path.placeFrom host.cwd) := by
  rw [← isRoot_iff_isMarked hwf hdown, h]
  simp

/-- A path that is a root is the nearest one itself. -/
theorem isNearestRoot_self (hwf : host.tree.IsWellFormed) (hdown : .parent ∉ path.components)
    (h : isRoot host path = true) :
    host.IsNearestRoot (path.placeFrom host.cwd) (path.placeFrom host.cwd) ∧
      host.Denotes path (path.placeFrom host.cwd) ∧
      path.origin host.cwd <+: path.placeFrom host.cwd := by
  have hmarked := (isRoot_iff_isMarked hwf hdown).1 h
  exact ⟨⟨List.prefix_rfl, hmarked, fun other hother _ => hother⟩,
    Host.denotes_placeFrom hwf hdown hmarked.1, Path.origin_prefix_placeFrom hdown⟩

/-- **What a lineage finds is the nearest root.** -/
theorem isNearestRoot_of_find? (hwf : host.tree.IsWellFormed) (hdown : .parent ∉ start.components)
    (h : Path.Lineage start lineage) (hfound : lineage.find? (isRoot host) = some found) :
    host.IsNearestRoot (start.placeFrom host.cwd) (found.placeFrom host.cwd) ∧
      host.Denotes found (found.placeFrom host.cwd) ∧
      start.origin host.cwd <+: found.placeFrom host.cwd := by
  -- along the lineage: the first path is the nearest root, or its parent has the same one above it
  induction h with
  | @top path h =>
    obtain rfl := List.mem_singleton.1 (List.mem_of_find?_eq_some hfound)
    exact isNearestRoot_self hwf hdown (List.find?_some hfound)
  | @step path parent above h rest ih =>
    cases hroot : isRoot host path with
    | true =>
      rw [List.find?_cons_of_pos hroot] at hfound
      cases hfound
      exact isNearestRoot_self hwf hdown hroot
    | false =>
      rw [List.find?_cons_of_neg (by simp [hroot])] at hfound
      obtain ⟨hnearest, hdenotes, horigin⟩ := ih (Path.parent_notMem_of_parent? h hdown) hfound
      rw [Path.origin_of_parent? h] at horigin
      have hbelow : found.placeFrom host.cwd <+: path.placeFrom host.cwd :=
        (Path.prefix_placeFrom_iff h hdown).2 (.inr hnearest.above)
      refine ⟨⟨hbelow, hnearest.marked, fun other hother hmarked => ?_⟩, hdenotes, horigin⟩
      obtain rfl | hother := (Path.prefix_placeFrom_iff h hdown).1 hother
      · exact absurd hmarked (not_isMarked_of_isRoot hwf hdown hroot)
      · exact hnearest.nearest other hother hmarked

/-- **A lineage without roots goes through all places down from where it starts.** -/
theorem not_isMarked_of_find? (hwf : host.tree.IsWellFormed) (hdown : .parent ∉ start.components)
    (h : Path.Lineage start lineage) (hnone : lineage.find? (isRoot host) = none) {place : Place}
    (horigin : start.origin host.cwd <+: place) (hplace : place <+: start.placeFrom host.cwd) :
    ¬ host.IsMarked place := by
  induction h with
  | @top path h =>
    have hroot : isRoot host path = false := by simpa using hnone
    -- the lineage has come to its origin
    rw [Path.placeFrom_of_parent?_eq_none h] at hplace
    have hsame := horigin.eq_of_length (horigin.length_le.antisymm hplace.length_le)
    rw [← hsame, ← Path.placeFrom_of_parent?_eq_none h]
    exact not_isMarked_of_isRoot hwf hdown hroot
  | @step path parent above h rest ih =>
    have hnever := List.find?_eq_none.1 hnone
    obtain ⟨hroot, habove⟩ := List.forall_mem_cons.1 hnever
    obtain rfl | hplace := (Path.prefix_placeFrom_iff h hdown).1 hplace
    · exact not_isMarked_of_isRoot hwf hdown (by simpa using hroot)
    · exact ih (Path.parent_notMem_of_parent? h hdown) (List.find?_eq_none.2 habove)
        (by rwa [Path.origin_of_parent? h]) hplace

/-- If no place down from the origin is a root, and none at or above the working directory either
unless the start is absolute, then none above the start is. -/
theorem not_isMarked_above (hdown : .parent ∉ start.components)
    (hpassed : ∀ place, start.origin host.cwd <+: place → place <+: start.placeFrom host.cwd →
      ¬ host.IsMarked place)
    (habove : Path.isAbsolute start = true ∨ ∀ root, root <+: host.cwd → ¬ host.IsMarked root)
    {place : Place} (hplace : place <+: start.placeFrom host.cwd) : ¬ host.IsMarked place := by
  obtain hup | hbelow :=
    List.prefix_or_prefix_of_prefix hplace (Path.origin_prefix_placeFrom hdown)
  · by_cases habsolute : Path.isAbsolute start = true
    · rw [Path.origin, if_pos habsolute] at hpassed
      exact hpassed place List.nil_prefix hplace
    · rw [Path.origin, if_neg habsolute] at hup
      exact habove.resolve_left habsolute place hup
  · exact hpassed place hbelow hplace

/-- **A search that finds a root finds what it is to find.** -/
theorem findsNearestRoot_of_isNearestRoot {nearest : Place}
    (h : host.IsNearestRoot (start.placeFrom host.cwd) nearest)
    (hfound : host.Denotes found nearest) : host.FindsNearestRoot start found where
  denotes other hother := by rwa [← h.unique hother]
  eq_start hnone := absurd h.marked (hnone nearest h.above)

/-- **What a search without result misses**: the roots above the working directory. -/
theorem findsNearestRoot_start_iff (hdown : .parent ∉ start.components)
    (hpassed : ∀ place, start.origin host.cwd <+: place → place <+: start.placeFrom host.cwd →
      ¬ host.IsMarked place) :
    host.FindsNearestRoot start start ↔
      Path.isAbsolute start = true ∨ ∀ root, root <+: host.cwd → ¬ host.IsMarked root := by
  constructor
  · intro h
    by_cases habsolute : Path.isAbsolute start = true
    · exact .inl habsolute
    have hstart : start.origin host.cwd <+: start.placeFrom host.cwd :=
      Path.origin_prefix_placeFrom hdown
    rw [Path.origin, if_neg habsolute] at hstart hpassed
    refine .inr fun root hroot hmarked => ?_
    exact Host.not_findsNearestRoot_start hmarked (hroot.trans hstart)
      (hpassed _ hstart List.prefix_rfl) h
  · intro habove
    have hnone : ∀ place, place <+: start.placeFrom host.cwd → ¬ host.IsMarked place :=
      fun place => not_isMarked_above hdown hpassed habove
    exact ⟨fun other hother => absurd hother.marked (hnone _ hother.above), fun _ => rfl⟩

/-- **Which searches find the root.** The search ends with the first root of the lineage, or with
the start if there is none. That is what it is to find exactly if the start is absolute, or a root
stands between the working directory and the start, or none stands at or above the working
directory; else the start is returned, though it lies in a repository. -/
theorem findsNearestRoot_iff (hwf : host.tree.IsWellFormed) (hdown : .parent ∉ start.components) :
    (∃ lineage, Path.Lineage start lineage ∧
      detectRoot host start = (lineage.find? (isRoot host)).getD start) ∧
    (host.FindsNearestRoot start (detectRoot host start) ↔
      Path.isAbsolute start = true ∨
      (∃ root, host.cwd <+: root ∧ root <+: start.placeFrom host.cwd ∧ host.IsMarked root) ∨
      ∀ root, root <+: host.cwd → ¬ host.IsMarked root) ∧
    (¬ host.FindsNearestRoot start (detectRoot host start) → detectRoot host start = start) := by
  obtain ⟨lineage, hlineage⟩ := Path.exists_lineage start
  have hdetect : detectRoot host start = (lineage.find? (isRoot host)).getD start :=
    detectRoot_eq hlineage
  refine ⟨⟨lineage, hlineage, hdetect⟩, ?_⟩
  cases hfind : lineage.find? (isRoot host) with
  | some found =>
    rw [hfind, Option.getD_some] at hdetect
    obtain ⟨hnearest, hdenotes, horigin⟩ := isNearestRoot_of_find? hwf hdown hlineage hfind
    have hfinds := findsNearestRoot_of_isNearestRoot hnearest hdenotes
    rw [hdetect]
    refine ⟨iff_of_true hfinds ?_, fun h => absurd hfinds h⟩
    by_cases habsolute : Path.isAbsolute start = true
    · exact .inl habsolute
    · rw [Path.origin, if_neg habsolute] at horigin
      exact .inr (.inl ⟨_, horigin, hnearest.above, hnearest.marked⟩)
  | none =>
    rw [hfind, Option.getD_none] at hdetect
    have hpassed : ∀ place, start.origin host.cwd <+: place →
        place <+: start.placeFrom host.cwd → ¬ host.IsMarked place :=
      fun place => not_isMarked_of_find? hwf hdown hlineage hfind
    -- no root stands between the working directory and the start
    have hbetween : ¬ ∃ root, host.cwd <+: root ∧ root <+: start.placeFrom host.cwd ∧
        host.IsMarked root := by
      rintro ⟨root, hroot, hplace, hmarked⟩
      exact hpassed root ((start.origin_isPrefix host.cwd).trans hroot) hplace hmarked
    rw [hdetect, findsNearestRoot_start_iff hdown hpassed]
    exact ⟨by simp only [hbetween, false_or], fun _ => rfl⟩

/-- A repository with a directory in it, seen from a working directory. -/
def repositoryFrom (cwd : Place) : Host where
  tree := ⟨[(["repo".toList], .dir), (["repo".toList, "desclint.toml".toList], .file [] false),
    (["repo".toList, "sub".toList], .dir)]⟩
  cwd := cwd
  searchPath := []

/-- From the directory of the repository the search finds it above `sub/new`, where nothing is. -/
theorem findsNearestRoot_iff_repository :
    (repositoryFrom ["repo".toList]).tree.IsWellFormed ∧
    .parent ∉ Path.components "sub/new".toList ∧
    (repositoryFrom ["repo".toList]).FindsNearestRoot "sub/new".toList
      (detectRoot (repositoryFrom ["repo".toList]) "sub/new".toList) := by
  have hwf : (repositoryFrom ["repo".toList]).tree.IsWellFormed := by decide
  have hdown : .parent ∉ Path.components "sub/new".toList := by decide
  have hbelow : ["repo".toList] <+:
      Path.placeFrom (repositoryFrom ["repo".toList]).cwd "sub/new".toList := by decide
  have hmarked : (repositoryFrom ["repo".toList]).IsMarked ["repo".toList] := by decide
  obtain ⟨-, hfinds, -⟩ := findsNearestRoot_iff hwf hdown
  exact ⟨hwf, hdown, hfinds.2 (.inr (.inl ⟨_, List.prefix_rfl, hbelow, hmarked⟩))⟩

/-- **A repository above the working directory is missed**: from the directory in it the search
returns `.`, where it starts. -/
theorem not_forall_findsNearestRoot :
    ¬ ∀ (host : Host) (start : Path), host.tree.IsWellFormed → .parent ∉ start.components →
      host.FindsNearestRoot start (detectRoot host start) := by
  intro h
  let host := repositoryFrom ["repo".toList, "sub".toList]
  have hfound : detectRoot host ['.'] = ['.'] := by decide
  have hmarked : host.IsMarked ["repo".toList] := by decide
  have habove : ["repo".toList] <+: Path.placeFrom host.cwd ['.'] := by decide
  have hstart : ¬ host.IsMarked (Path.placeFrom host.cwd ['.']) := by decide
  have hfinds := h host ['.'] (by decide) (by decide)
  rw [hfound] at hfinds
  exact Host.not_findsNearestRoot_start hmarked habove hstart hfinds

end Config

end Blurb
