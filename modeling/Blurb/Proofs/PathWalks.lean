import Blurb.Files.Tree
import Blurb.Proofs.PathSegments
import Mathlib.Data.List.Induction

/-! # Where paths lead

A path leads from the working directory to a place, component by component. A walk through a file
tree that ends at all ends there, and it does end there if a directory stands there and every node
of the tree stands in a directory.

* `Path.placeFrom` — where a path leads, whatever exists there.
* `FileTree.IsWellFormed` — every node stands in a directory.
* `Host.Denotes` — the walk along a path ends at a place.
* `Host.eq_placeFrom_of_denotes`, `Host.denotes_placeFrom` — a walk ends where the path leads.
* `Host.holds_join_iff` — a name exists in what a path denotes. -/

namespace Blurb

namespace Component

/-- **Where a component leads** from a place. -/
def lead (place : Place) : Component → Place
  | root => []
  | current => place
  | parent => place.dropLast
  | name text => place ++ [text]

/-- Names only lead further down. -/
theorem prefix_foldl_lead {components : List Component} (place : Place)
    (hroot : .root ∉ components) (hparent : .parent ∉ components) :
    place <+: components.foldl lead place := by
  induction components generalizing place with
  | nil => exact List.prefix_rfl
  | cons component components ih =>
    rw [List.mem_cons, not_or] at hroot hparent
    have hrest := ih (lead place component) hroot.2 hparent.2
    have hfirst : place <+: lead place component := by
      cases component with
      | root => exact absurd rfl hroot.1
      | current => exact List.prefix_rfl
      | parent => exact absurd rfl hparent.1
      | name text => exact List.prefix_append _ _
    exact hfirst.trans hrest

end Component

namespace Path

/-- Where a walk along a path starts. -/
def origin (cwd : Place) (path : Path) : Place := if isAbsolute path then [] else cwd

/-- A walk starts at the working directory or above it. -/
theorem origin_isPrefix (cwd : Place) (path : Path) : path.origin cwd <+: cwd := by
  unfold origin
  split
  · exact List.nil_prefix
  · exact List.prefix_rfl

/-- **The place that a path leads to** from a working directory, whatever exists there. -/
def placeFrom (cwd : Place) (path : Path) : Place := path.components.foldl Component.lead cwd

/-- A path leads on from its origin along what its segments write. -/
theorem placeFrom_eq (cwd : Place) (path : Path) :
    path.placeFrom cwd = path.written.foldl Component.lead (path.origin cwd) := by
  unfold placeFrom components written origin
  split
  · rfl
  · split <;> rfl

/-- A path without `..` leads down from its origin. -/
theorem origin_prefix_placeFrom {cwd : Place} {path : Path} (h : .parent ∉ path.components) :
    path.origin cwd <+: path.placeFrom cwd := by
  rw [placeFrom_eq]
  exact Component.prefix_foldl_lead _ path.root_notMem_written
    fun hmem => h (mem_components_of_mem_written hmem)

end Path

namespace FileTree

variable {tree : FileTree} {place other : Place}

/-! ## Walks -/

/-- Walking on from where a walk has ended. -/
theorem walk_append (tree : FileTree) (place : Place) (segments more : List Text) :
    tree.walk place (segments ++ more) =
      (tree.walk place segments).bind fun place => tree.walk place more := by
  induction segments generalizing place with
  | nil => rfl
  | cons segment segments ih =>
    rw [List.cons_append, walk, walk]
    split
    · split
      · exact ih place
      · split
        · exact ih _
        · dsimp only
          split
          · exact ih _
          · rfl
    · rfl

/-- **A walk ends where its segments lead.** -/
theorem eq_of_walk {segments : List Text} (h : tree.walk place segments = some other) :
    other = (segments.filterMap Component.ofSegment?).foldl Component.lead place := by
  induction segments generalizing place with
  | nil => exact (Option.some.inj h).symm
  | cons segment segments ih =>
    rw [walk] at h
    split at h
    · -- the segment leads nowhere else, one place up, or down to a name
      obtain ⟨hskip, hnone⟩ | ⟨hcounts, ⟨hup, hsome⟩ | ⟨hname, hsome⟩⟩ :=
        Component.ofSegment?_cases segment
      · rw [if_pos hskip] at h
        rw [List.filterMap_cons_none hnone]
        exact ih h
      · rw [if_neg (by simp [hcounts]), if_pos hup] at h
        rw [List.filterMap_cons_some hsome]
        exact ih h
      · rw [if_neg (by simp [hcounts]), if_neg (by simp [hname])] at h
        dsimp only at h
        rw [List.filterMap_cons_some hsome]
        split at h
        · exact ih h
        · cases h
    · cases h

/-- A walk along a name needs a directory that holds it. -/
theorem walk_name (tree : FileTree) (place : Place) {name : Text}
    (hname : Component.ofSegment? name = some (.name name)) :
    tree.walk place [name] =
      if tree.isDirAt place = true ∧ (tree.at? (place ++ [name])).isSome = true then
        some (place ++ [name]) else none := by
  have hsegment := Component.ofSegment?_cases name
  simp only [hname, reduceCtorEq, and_false, Option.some.injEq, false_or] at hsegment
  obtain ⟨hcounts, hdown, -⟩ := hsegment
  rw [walk, hcounts, hdown]
  by_cases hdir : tree.isDirAt place = true
  · simp [hdir, walk]
  · simp [hdir]

/-- An empty segment behind everything else asks for a directory. -/
theorem walk_empty (tree : FileTree) (place : Place) :
    tree.walk place [[]] = if tree.isDirAt place = true then some place else none := rfl

/-- What a path with a name behind it denotes has that name. -/
theorem eq_concat_of_resolve_join {cwd : Place} {left name : Path}
    (hsegments : Path.segments name = [name]) (hrelative : Path.isAbsolute name = false)
    (hname : Component.ofSegment? name = some (.name name))
    (h : tree.resolve cwd (Path.join left name) = some place) :
    ∃ above, place = above ++ [name] := by
  obtain ⟨segments, hjoin, -⟩ := Path.segments_join left hrelative
  -- wherever the walk starts, its last step goes to the name
  have hlast : ∀ start, tree.walk start (segments ++ [name]) = some place →
      ∃ above, place = above ++ [name] := by
    intro start hwalk
    rw [eq_of_walk hwalk, List.filterMap_append, List.foldl_append, List.filterMap_cons_some hname]
    exact ⟨_, rfl⟩
  rw [resolve, hjoin, hsegments] at h
  split at h
  · cases h
  · split at h
    · exact hlast _ h
    · exact hlast _ h

/-! ## Trees in which everything stands in a directory -/

/-- **Every node stands in a directory.** -/
def IsWellFormed (tree : FileTree) : Prop :=
  ∀ node ∈ tree.nodes, tree.isDirAt node.1.dropLast = true

instance (tree : FileTree) : Decidable tree.IsWellFormed :=
  inferInstanceAs (Decidable (∀ node ∈ tree.nodes, _))

/-- A directory is something. -/
theorem isSome_at?_of_isDirAt (h : tree.isDirAt place = true) : (tree.at? place).isSome = true := by
  unfold isDirAt at h
  split at h
  next node hnode => rw [hnode]; rfl
  next => cases h

/-- A directory stands in a directory. -/
theorem IsWellFormed.isDirAt_dropLast (h : tree.IsWellFormed) (hdir : tree.isDirAt place = true) :
    tree.isDirAt place.dropLast = true := by
  by_cases hroot : place = []
  · subst hroot
    rfl
  have hsome := isSome_at?_of_isDirAt hdir
  rw [at?, if_neg (by simp [hroot])] at hsome
  obtain ⟨node, hnode⟩ := Option.isSome_iff_exists.1 hsome
  obtain ⟨before, after, hnodes, -⟩ := List.lookup_eq_some_iff.1 hnode
  exact h (place, node) (by simp [hnodes])

/-- **All places above a directory are directories.** -/
theorem IsWellFormed.isDirAt_of_isPrefix (h : tree.IsWellFormed) (hdir : tree.isDirAt place = true)
    (hstarts : other <+: place) : tree.isDirAt other = true := by
  obtain ⟨rest, rfl⟩ := hstarts
  induction rest using List.reverseRecOn with
  | nil => simpa using hdir
  | append_singleton rest name ih =>
    have habove := h.isDirAt_dropLast hdir
    rw [← List.append_assoc, List.dropLast_concat] at habove
    exact ih habove

/-- **A walk down to a directory arrives.** -/
theorem IsWellFormed.walk_eq (h : tree.IsWellFormed) {segments : List Text}
    (hdown : .parent ∉ segments.filterMap Component.ofSegment?)
    (hdir : tree.isDirAt
      ((segments.filterMap Component.ofSegment?).foldl Component.lead place) = true) :
    tree.walk place segments =
      some ((segments.filterMap Component.ofSegment?).foldl Component.lead place) := by
  induction segments generalizing place with
  | nil => rfl
  | cons segment segments ih =>
    have hbelow : ∀ start, .parent ∉ segments.filterMap Component.ofSegment? →
        start <+: (segments.filterMap Component.ofSegment?).foldl Component.lead start :=
      fun start => Component.prefix_foldl_lead start (Component.root_notMem_ofSegment? segments)
    obtain ⟨hskip, hnone⟩ | ⟨hcounts, ⟨hup, hsome⟩ | ⟨hname, hsome⟩⟩ :=
      Component.ofSegment?_cases segment
    · rw [List.filterMap_cons_none hnone] at hdown hdir ⊢
      have hhere : tree.isDirAt place = true := h.isDirAt_of_isPrefix hdir (hbelow _ hdown)
      rw [walk, if_pos hhere, if_pos hskip]
      exact ih hdown hdir
    · rw [List.filterMap_cons_some hsome] at hdown
      exact absurd (List.mem_cons_self ..) hdown
    · rw [List.filterMap_cons_some hsome, List.mem_cons, not_or] at hdown
      rw [List.filterMap_cons_some hsome, List.foldl_cons] at hdir ⊢
      have hnext : tree.isDirAt (place ++ [segment]) = true :=
        h.isDirAt_of_isPrefix hdir (hbelow _ hdown.2)
      have hhere : tree.isDirAt place = true :=
        h.isDirAt_of_isPrefix hnext (List.prefix_append _ _)
      rw [walk, if_pos hhere, if_neg (by simp [hcounts]), if_neg (by simp [hname])]
      dsimp only
      rw [if_pos (isSome_at?_of_isDirAt hnext)]
      exact ih hdown.2 hdir

end FileTree

namespace Host

variable {host : Host} {path name : Path} {place : Place}

/-! ## What paths denote -/

/-- **A path denotes a place**: the walk along it ends there. The empty path denotes the working
directory, where a name that is joined to it is looked for. -/
def Denotes (host : Host) (path : Path) (place : Place) : Prop :=
  host.tree.walk (path.origin host.cwd) path.segments = some place

/-- A path denotes where it leads, if it denotes anything. -/
theorem eq_placeFrom_of_denotes (h : host.Denotes path place) :
    place = path.placeFrom host.cwd := by
  rw [Path.placeFrom_eq]
  exact FileTree.eq_of_walk h

/-- **A path without `..` denotes the directory that it leads to.** -/
theorem denotes_placeFrom (hwf : host.tree.IsWellFormed) (hdown : .parent ∉ path.components)
    (hdir : host.tree.isDirAt (path.placeFrom host.cwd) = true) :
    host.Denotes path (path.placeFrom host.cwd) := by
  rw [Path.placeFrom_eq] at hdir ⊢
  exact hwf.walk_eq (fun hmem => hdown (Path.mem_components_of_mem_written hmem)) hdir

/-- **A name exists in what a path denotes**, which is a directory then. -/
theorem holds_join_iff (hsegments : Path.segments name = [name])
    (hrelative : Path.isAbsolute name = false)
    (hname : Component.ofSegment? name = some (.name name)) :
    host.holds (Path.join path name) = true ↔
      ∃ place, host.Denotes path place ∧ host.tree.isDirAt place = true ∧
        (host.tree.at? (place ++ [name])).isSome = true := by
  obtain ⟨above, hjoin, hpath⟩ := Path.segments_join path hrelative
  rw [hsegments] at hjoin
  have hempty : (Path.join path name).isEmpty = false := by
    cases hsegment : Path.join path name with
    | nil =>
      -- the empty path has no name at its end
      rw [hsegment] at hjoin
      obtain rfl : name = [] := by
        have hlast := congrArg List.getLast? hjoin
        simpa [Path.segments, Text.splitOn, eq_comm] using hlast
      cases hname
    | cons c rest => rfl
  have hresolve : host.tree.resolve host.cwd (Path.join path name) =
      (host.tree.walk (path.origin host.cwd) above).bind
        fun place => host.tree.walk place [name] := by
    rw [FileTree.resolve, if_neg (by simp [hempty]), Path.isAbsolute_join path hrelative, hjoin,
      FileTree.walk_append, FileTree.walk_append, Path.origin]
    split <;> rfl
  have hdenotes : ∀ place, host.tree.isDirAt place = true →
      (host.Denotes path place ↔
        host.tree.walk (path.origin host.cwd) above = some place) := by
    intro place hdir
    unfold Denotes
    obtain hsame | hslash := hpath
    · rw [hsame]
    · rw [hslash, FileTree.walk_append, Option.bind_eq_some_iff]
      constructor
      · rintro ⟨other, hother, hstep⟩
        rw [FileTree.walk_empty] at hstep
        split at hstep
        · rwa [← Option.some.inj hstep]
        · cases hstep
      · exact fun hwalk => ⟨place, hwalk, by rw [FileTree.walk_empty, if_pos hdir]⟩
  rw [holds, FileTree.holds, FileTree.node?, hresolve]
  constructor
  · intro h
    obtain ⟨node, hnode⟩ := Option.isSome_iff_exists.1 h
    obtain ⟨there, hthere, -⟩ := Option.bind_eq_some_iff.1 hnode
    obtain ⟨place, hwalk, hstep⟩ := Option.bind_eq_some_iff.1 hthere
    rw [FileTree.walk_name _ _ hname] at hstep
    split at hstep
    case isTrue hexists => exact ⟨place, (hdenotes place hexists.1).2 hwalk, hexists⟩
    case isFalse => cases hstep
  · rintro ⟨place, hplace, hdir, hexists⟩
    rw [(hdenotes place hdir).1 hplace, Option.bind_some, FileTree.walk_name _ _ hname,
      if_pos ⟨hdir, hexists⟩, Option.bind_some]
    exact hexists

end Host

end Blurb
