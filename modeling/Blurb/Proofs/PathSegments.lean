import Blurb.Files.Path
import Mathlib.Data.List.TakeWhile

/-! # Segments of paths

A path is its segments with separators between them: cutting and joining undo each other. So what is
joined to a path follows its segments, and the parent of a path is what the segments before the last
component write.

* `Text.splitOn_join` — cutting undoes joining.
* `Path.segments_join`, `Path.written_join` — what is joined to a path follows its segments.
* `Path.components_eq_marked` — the components of a path, read off its segments one by one.
* `Path.parent?_eq_none_iff` — which paths have no parent.
* `Path.components_of_parent?`, `Path.isAbsolute_of_parent?`, `Path.length_lt_of_parent?` — a parent
  has all components but the last, is absolute if the path is, and is shorter. -/

namespace Blurb

namespace Text

variable {separator : Char}

/-! ## Cutting and joining -/

/-- Cutting a text cuts what stands before a separator and what stands behind it. -/
theorem splitOn_append_cons (separator : Char) (t u : Text) :
    splitOn separator (t ++ separator :: u) = splitOn separator t ++ splitOn separator u := by
  induction t with
  | nil => simp [splitOn]
  | cons c t ih =>
    rw [List.cons_append, splitOn, splitOn, ih]
    by_cases hc : c = separator
    · rw [if_pos hc, if_pos hc, List.cons_append]
    · rw [if_neg hc, if_neg hc]
      obtain ⟨piece, pieces, hpieces⟩ := List.exists_cons_of_ne_nil (splitOn_ne_nil separator t)
      rw [hpieces]
      rfl

/-- A text without separators is one piece. -/
theorem splitOn_of_notMem {t : Text} (h : separator ∉ t) : splitOn separator t = [t] := by
  induction t with
  | nil => rfl
  | cons c t ih =>
    have hc : ¬ c = separator := fun hc => h (by simp [hc])
    have hrest : separator ∉ t := fun hrest => h (List.mem_cons_of_mem _ hrest)
    rw [splitOn, if_neg hc, ih hrest]

/-- No piece holds a separator. -/
theorem notMem_of_mem_splitOn {t piece : Text} (h : piece ∈ splitOn separator t) :
    separator ∉ piece := by
  induction t generalizing piece with
  | nil => simp_all [splitOn]
  | cons c t ih =>
    obtain ⟨first, pieces, hpieces⟩ := List.exists_cons_of_ne_nil (splitOn_ne_nil separator t)
    rw [splitOn, hpieces] at h
    rw [hpieces] at ih
    by_cases hc : c = separator
    · rw [if_pos hc, List.mem_cons] at h
      obtain rfl | h := h
      · simp
      · exact ih h
    · rw [if_neg hc, List.mem_cons] at h
      obtain rfl | h := h
      · simpa [Ne.symm hc] using ih (List.mem_cons_self ..)
      · exact ih (List.mem_cons_of_mem _ h)

/-- What is joined behind something follows a separator. -/
theorem join_append (separator : Text) {left right : List Text} (hleft : left ≠ [])
    (hright : right ≠ []) :
    join separator (left ++ right) = join separator left ++ separator ++ join separator right := by
  induction left with
  | nil => exact absurd rfl hleft
  | cons t left ih =>
    cases left with
    | nil =>
      obtain ⟨u, right, rfl⟩ := List.exists_cons_of_ne_nil hright
      rfl
    | cons s left =>
      have hrest := ih (by simp)
      rw [List.cons_append] at hrest
      simp only [List.cons_append, join, hrest, List.append_assoc]

/-- **Cutting undoes joining**, if no piece holds a separator. -/
theorem splitOn_join {pieces : List Text} (hpieces : pieces ≠ [])
    (h : ∀ piece ∈ pieces, separator ∉ piece) :
    splitOn separator (join [separator] pieces) = pieces := by
  induction pieces with
  | nil => exact absurd rfl hpieces
  | cons piece pieces ih =>
    have hpiece : splitOn separator piece = [piece] :=
      splitOn_of_notMem (h piece (List.mem_cons_self ..))
    cases pieces with
    | nil => exact hpiece
    | cons next pieces =>
      have hrest := ih (by simp) fun piece hmem => h piece (List.mem_cons_of_mem _ hmem)
      rw [join, List.append_assoc, List.singleton_append, splitOn_append_cons, hpiece, hrest]
      rfl

end Text

/-! ## Components -/

namespace Component

/-- A segment writes the parent directory or a name, if anything. -/
theorem ofSegment?_cases (segment : Text) :
    ((segment.isEmpty || segment == ['.']) = true ∧ ofSegment? segment = none) ∨
    ((segment.isEmpty || segment == ['.']) = false ∧
      ((segment == ['.', '.']) = true ∧ ofSegment? segment = some parent ∨
      (segment == ['.', '.']) = false ∧ ofSegment? segment = some (name segment))) := by
  unfold ofSegment?
  cases segment.isEmpty || segment == ['.'] with
  | true => exact .inl ⟨rfl, rfl⟩
  | false =>
    cases segment == ['.', '.'] with
    | true => exact .inr ⟨rfl, .inl ⟨rfl, rfl⟩⟩
    | false => exact .inr ⟨rfl, .inr ⟨rfl, rfl⟩⟩

/-- No segment writes the root or the directory itself. -/
theorem ne_of_ofSegment? {segment : Text} {component : Component}
    (h : ofSegment? segment = some component) : component ≠ root ∧ component ≠ current := by
  obtain ⟨-, hnone⟩ | ⟨-, ⟨-, hsome⟩ | ⟨-, hsome⟩⟩ := ofSegment?_cases segment
  · rw [hnone] at h
    cases h
  · rw [hsome, Option.some.injEq] at h
    simp [← h]
  · rw [hsome, Option.some.injEq] at h
    simp [← h]

/-- A segment that writes a component is how the component is written. -/
theorem text_of_ofSegment? {segment : Text} {component : Component}
    (h : ofSegment? segment = some component) : component.text = segment := by
  obtain ⟨-, hnone⟩ | ⟨-, ⟨hup, hsome⟩ | ⟨-, hsome⟩⟩ := ofSegment?_cases segment
  · rw [hnone] at h
    cases h
  · rw [hsome, Option.some.injEq] at h
    rw [← h, beq_iff_eq.1 hup]
    rfl
  · rw [hsome, Option.some.injEq] at h
    rw [← h]
    rfl

theorem root_notMem_ofSegment? (segments : List Text) : root ∉ segments.filterMap ofSegment? := by
  intro h
  obtain ⟨segment, -, hsegment⟩ := List.mem_filterMap.1 h
  exact (ne_of_ofSegment? hsegment).1 rfl

end Component

namespace Path

variable {path parent : Path}

/-! ## Segments -/

theorem segments_ne_nil (path : Path) : segments path ≠ [] := Text.splitOn_ne_nil _ _

theorem segments_append_slash (left right : Path) :
    segments (left ++ '/' :: right) = segments left ++ segments right :=
  Text.splitOn_append_cons ..

/-- An absolute path has nothing before its first separator. -/
theorem isAbsolute_iff_segments :
    isAbsolute path = true ↔ ∃ second rest, segments path = [] :: second :: rest := by
  cases path with
  | nil => simp [isAbsolute, segments, Text.splitOn]
  | cons c path =>
    obtain ⟨piece, pieces, hpieces⟩ := List.exists_cons_of_ne_nil (segments_ne_nil path)
    rw [segments] at hpieces ⊢
    by_cases hc : c = '/'
    · simp [isAbsolute, Text.splitOn, hpieces, hc]
    · simp [isAbsolute, Text.splitOn, hpieces, hc]

/-- **What is joined to a path follows its segments**, but for an empty one behind a separator at
the end. -/
theorem segments_join (left : Path) {right : Path} (hrelative : isAbsolute right = false) :
    ∃ above, segments (join left right) = above ++ segments right ∧
      (segments left = above ∨ segments left = above ++ [[]]) := by
  rw [join, if_neg (by simp [hrelative])]
  by_cases hempty : left = []
  · exact ⟨[], by simp [hempty], .inr (by rw [hempty]; rfl)⟩
  by_cases hslash : left.getLast? = some '/'
  · obtain ⟨before, rfl⟩ := List.getLast?_eq_some_iff.1 hslash
    refine ⟨segments before, ?_, .inr (segments_append_slash before [])⟩
    rw [if_pos (by simp), List.append_assoc, List.singleton_append, segments_append_slash]
  · rw [if_neg (by simp [hempty, hslash])]
    exact ⟨segments left, segments_append_slash left right, .inl rfl⟩

/-- A relative path that is joined to another leaves it absolute or relative. -/
theorem isAbsolute_join (left : Path) {right : Path} (hrelative : isAbsolute right = false) :
    isAbsolute (join left right) = isAbsolute left := by
  rw [join, if_neg (by simp [hrelative])]
  cases left with
  | nil => simpa [isAbsolute] using hrelative
  | cons c left =>
    split
    · rfl
    · rfl

/-! ## What segments write -/

/-- The components that the segments of a path write. -/
def written (path : Path) : List Component := path.segments.filterMap Component.ofSegment?

theorem components_eq_written (path : Path) :
    path.components = (if isAbsolute path then [.root]
      else if path.segments.head? == some ['.'] then [.current] else []) ++ path.written := rfl

theorem components_of_isAbsolute (h : isAbsolute path = true) :
    path.components = .root :: path.written := by
  rw [components_eq_written, if_pos h]
  rfl

theorem mem_components_of_mem_written {component : Component} (h : component ∈ path.written) :
    component ∈ path.components :=
  List.mem_append_right _ h

theorem root_notMem_written (path : Path) : .root ∉ path.written :=
  Component.root_notMem_ofSegment? _

/-- Only absolute paths have the root among their components. -/
theorem root_mem_components_iff : .root ∈ path.components ↔ isAbsolute path = true := by
  have hwritten := root_notMem_written path
  rw [components_eq_written]
  by_cases habsolute : isAbsolute path = true
  · simp [habsolute]
  · rw [if_neg habsolute]
    split <;> simp [hwritten, habsolute]

/-- The root comes first or not at all. -/
theorem root_notMem_tail (path : Path) : .root ∉ path.components.tail := by
  have hwritten := root_notMem_written path
  rw [components_eq_written]
  split
  · exact hwritten
  · split
    · exact hwritten
    · exact fun h => hwritten (List.mem_of_mem_tail h)

/-- What the segments write shows in the components. -/
theorem written_eq_filter (path : Path) :
    path.written = path.components.filter fun c => c != .root && c != .current := by
  have hall : path.written.filter (fun c => c != .root && c != .current) = path.written := by
    rw [List.filter_eq_self]
    intro component hmem
    obtain ⟨segment, -, hsegment⟩ := List.mem_filterMap.1 hmem
    simpa using Component.ne_of_ofSegment? hsegment
  rw [components_eq_written, List.filter_append, hall]
  split
  · rfl
  · split <;> rfl

/-- **Joining puts together what the segments write.** -/
theorem written_join (left : Path) {right : Path} (hrelative : isAbsolute right = false) :
    (join left right).written = left.written ++ right.written := by
  obtain ⟨above, hjoin, hleft⟩ := segments_join left hrelative
  rw [written, written, written, hjoin, List.filterMap_append]
  obtain hleft | hleft := hleft
  · rw [hleft]
  · rw [hleft, List.filterMap_append, List.filterMap_cons_none rfl, List.filterMap_nil,
      List.append_nil]

/-- **What is joined to an absolute path** is what it writes, if it is not absolute itself. -/
theorem components_join {left right : Path} (hleft : isAbsolute left = true)
    (hright : isAbsolute right = false) :
    (join left right).components = left.components ++ right.written := by
  have hjoin : isAbsolute (join left right) = true := by rw [isAbsolute_join left hright, hleft]
  rw [components_of_isAbsolute hjoin, written_join left hright, components_of_isAbsolute hleft,
    List.cons_append]

/-! ## Components by segments -/

/-- **Segments with a mark** that tells whether they count as components. -/
def marked : List Text → List (Text × Bool)
  | [] => []
  | first :: rest => (first, counts true first) :: rest.map fun s => (s, counts false s)

/-- The component that a marked segment writes, if it counts. -/
def counted? (part : Text × Bool) : Option Component :=
  if part.2 then some (if part.1 = ['.'] then .current else
    if part.1 = ['.', '.'] then .parent else .name part.1)
  else none

/-- A part writes a component if it counts. -/
theorem counted?_eq_none_iff {part : Text × Bool} : counted? part = none ↔ part.2 = false := by
  unfold counted?
  cases part.2 <;> simp

/-- Parts that do not count write nothing. -/
theorem filterMap_counted?_eq_nil {parts : List (Text × Bool)}
    (h : ∀ part ∈ parts, part.2 = false) : parts.filterMap counted? = [] :=
  List.filterMap_eq_nil_iff.2 fun part hpart => counted?_eq_none_iff.2 (h part hpart)

@[simp] theorem map_fst_marked (segments : List Text) :
    (marked segments).map Prod.fst = segments := by
  cases segments with
  | nil => rfl
  | cons first rest => simp [marked, Function.comp_def]

/-- Marks do not hang on what follows. -/
theorem marked_of_isPrefix {kept : List (Text × Bool)} {segments : List Text}
    (h : kept <+: marked segments) : marked (kept.map Prod.fst) = kept := by
  cases segments with
  | nil => rw [List.prefix_nil.1 h]; rfl
  | cons first rest =>
    cases kept with
    | nil => rfl
    | cons part kept =>
      obtain ⟨rfl, hkept⟩ := List.cons_prefix_cons.1 h
      -- behind the first one all parts are marked alike
      have halike : ∀ other ∈ kept, other = (other.1, counts false other.1) := by
        intro other hother
        obtain ⟨s, -, rfl⟩ := List.mem_map.1 (hkept.subset hother)
        rfl
      have hmap : kept.map (fun other => (other.1, counts false other.1)) = kept :=
        List.map_congr_left (fun other hother => (halike other hother).symm) |>.trans
          (List.map_id kept)
      simp only [List.map_cons, marked, List.map_map, Function.comp_def, hmap]

/-- Behind the first segment a segment writes the component that it stands for. -/
theorem counted?_of_counts (segment : Text) :
    counted? (segment, counts false segment) = Component.ofSegment? segment := by
  unfold counted? counts Component.ofSegment?
  by_cases hempty : segment = []
  · simp [hempty]
  · by_cases hdot : segment = ['.']
    · simp [hdot]
    · by_cases hup : segment = ['.', '.'] <;> simp [hempty, hdot, hup]

/-- **The components of a path, read off its segments.** -/
theorem components_eq_marked (path : Path) :
    path.components = (if isAbsolute path then [.root] else []) ++
      (marked path.segments).filterMap counted? := by
  obtain ⟨first, rest, hsegments⟩ := List.exists_cons_of_ne_nil (segments_ne_nil path)
  have hrest : (rest.map fun s => (s, counts false s)).filterMap counted? =
      rest.filterMap Component.ofSegment? := by
    rw [List.filterMap_map]
    exact congrArg (List.filterMap · rest) (funext counted?_of_counts)
  unfold components
  simp only [hsegments, marked, List.filterMap_cons, hrest]
  by_cases habsolute : isAbsolute path = true
  · -- the root stands for itself, and the empty segment before it counts for nothing
    obtain ⟨second, others, hfirst⟩ := isAbsolute_iff_segments.1 habsolute
    obtain rfl : first = [] := by
      rw [hsegments] at hfirst
      exact (List.cons.inj hfirst).1
    simp [habsolute, counted?, counts, Component.ofSegment?]
  · -- only the first segment of a relative path may be a `.` that counts
    rw [if_neg habsolute, if_neg habsolute]
    by_cases hempty : first = []
    · simp [hempty, counted?, counts, Component.ofSegment?]
    · by_cases hdot : first = ['.']
      · simp [hdot, counted?, counts, Component.ofSegment?]
      · by_cases hup : first = ['.', '.'] <;>
          simp [hempty, hdot, hup, counted?, counts, Component.ofSegment?]

/-! ## Parents -/

/-- Dropping from the end stops at the last element that does not go. -/
theorem eq_append_of_dropWhile_reverse {α : Type} {drops : α → Bool} {l before : List α} {last : α}
    (h : l.reverse.dropWhile drops = last :: before) :
    drops last = false ∧
      ∃ dropped, l = before.reverse ++ last :: dropped ∧ ∀ a ∈ dropped, drops a = true := by
  have hlast : drops last = false := by
    have hhead := List.head?_dropWhile_not drops l.reverse
    rw [h] at hhead
    simpa using hhead
  refine ⟨hlast, (l.reverse.takeWhile drops).reverse, ?_, fun a ha => ?_⟩
  · have hl : (l.reverse.takeWhile drops ++ last :: before).reverse = l := by
      rw [← h, List.takeWhile_append_dropWhile, List.reverse_reverse]
    simpa using hl.symm
  · exact List.mem_takeWhile_imp (List.mem_reverse.1 ha)

/-- **The parts of a path with a parent**: those that the parent keeps, and behind them the last one
that counts with others around it that do not. -/
structure IsCut (path parent : Path) (kept : List (Text × Bool)) (last : Text × Bool)
    (before after : List (Text × Bool)) : Prop where
  /-- These are the parts of the path. -/
  parts : marked path.segments = kept ++ before ++ last :: after
  /-- Nothing counts right before the last component. -/
  skips : ∀ part ∈ before, part.2 = false
  /-- The last component counts. -/
  lastCounts : last.2 = true
  /-- Nothing counts behind it. -/
  ends : ∀ part ∈ after, part.2 = false
  /-- What is kept ends with a component. -/
  keptCounts : ∀ part ∈ kept.getLast?, part.2 = true
  /-- The parent is written with what is kept. -/
  eq_parent : parent = if kept = [] then if isAbsolute path then ['/'] else []
    else Text.join ['/'] (kept.map Prod.fst)

/-- **A path has a parent** if any of its parts counts, and is cut before the last one that does. -/
theorem parent?_cases (path : Path) :
    (parent? path = none ∧ ∀ part ∈ marked path.segments, part.2 = false) ∨
      ∃ parent kept last before after,
        parent? path = some parent ∧ IsCut path parent kept last before after := by
  obtain ⟨first, rest, hsegments⟩ := List.exists_cons_of_ne_nil (segments_ne_nil path)
  have hmarked : (first, counts true first) :: rest.map (fun s => (s, counts false s)) =
      marked path.segments := by
    rw [hsegments]
    rfl
  unfold parent?
  rw [hsegments]
  dsimp only
  -- what the parent is read off is the marked segments
  rw [← hsegments, hmarked]
  cases hdrop : (marked path.segments).reverse.dropWhile (fun part => !part.2) with
  | nil =>
    refine .inl ⟨rfl, fun part hpart => ?_⟩
    have hall := List.dropWhile_eq_nil_iff.1 hdrop part (List.mem_reverse.2 hpart)
    simpa using hall
  | cons last before =>
    obtain ⟨hlast, after, hparts, hafter⟩ := eq_append_of_dropWhile_reverse hdrop
    obtain ⟨kept, hkept⟩ : ∃ kept, (before.dropWhile fun part => !part.2).reverse = kept :=
      ⟨_, rfl⟩
    have hbefore : before.reverse =
        kept ++ (before.takeWhile fun part => !part.2).reverse := by
      rw [← hkept, ← List.reverse_append, List.takeWhile_append_dropWhile]
    refine .inr ⟨if kept = [] then if isAbsolute path then ['/'] else []
      else Text.join ['/'] (kept.map Prod.fst), kept, last,
      (before.takeWhile fun part => !part.2).reverse, after, ?_, ?_⟩
    · dsimp only
      rw [hkept]
      cases kept with
      | nil => rfl
      | cons part kept => exact (congrArg some (if_neg (List.cons_ne_nil part kept))).symm
    · exact {
        parts := by rw [hparts, hbefore]
        skips := fun part hpart => by
          have hdrops := List.mem_takeWhile_imp (List.mem_reverse.1 hpart)
          simpa using hdrops
        lastCounts := by simpa using hlast
        ends := fun part hpart => by simpa using hafter part hpart
        keptCounts := fun part hpart => by
          have hhead : (before.dropWhile fun part => !part.2).head? = some part := by
            rw [← hkept, List.getLast?_reverse] at hpart
            exact hpart
          have hdrops := List.head?_dropWhile_not (fun part : Text × Bool => !part.2) before
          rw [hhead] at hdrops
          simpa using hdrops
        eq_parent := rfl }

namespace IsCut

variable {kept before after : List (Text × Bool)} {last : Text × Bool}

/-- What is kept comes first. -/
theorem kept_isPrefix (h : IsCut path parent kept last before after) :
    kept <+: marked path.segments :=
  ⟨before ++ last :: after, by rw [h.parts, List.append_assoc]⟩

/-- The parent's parts are those that are kept. -/
theorem segments_parent (h : IsCut path parent kept last before after) (hkept : kept ≠ []) :
    segments parent = kept.map Prod.fst := by
  have hparent := h.eq_parent
  rw [if_neg hkept] at hparent
  rw [hparent]
  refine Text.splitOn_join (by simpa using hkept) fun piece hpiece => ?_
  have hsegment : piece ∈ segments path := by
    rw [← map_fst_marked (segments path)]
    exact (h.kept_isPrefix.map _).subset hpiece
  exact Text.notMem_of_mem_splitOn hsegment

/-- The parent of an absolute path is absolute, and of no other. -/
theorem isAbsolute_parent (h : IsCut path parent kept last before after) :
    isAbsolute parent = isAbsolute path := by
  by_cases hkept : kept = []
  · rw [h.eq_parent, if_pos hkept]
    cases isAbsolute path <;> rfl
  have hstarts : kept.map Prod.fst <+: segments path := by
    simpa using h.kept_isPrefix.map Prod.fst
  rw [Bool.eq_iff_iff, isAbsolute_iff_segments, isAbsolute_iff_segments, h.segments_parent hkept]
  constructor
  · rintro ⟨second, rest, hparent⟩
    rw [hparent] at hstarts
    obtain ⟨more, hpath⟩ := hstarts
    exact ⟨second, rest ++ more, hpath.symm⟩
  · rintro ⟨second, rest, hpath⟩
    -- the empty segment before the root does not count, so it is not the last one that is kept
    have hparts := h.kept_isPrefix
    rw [hpath] at hparts
    match kept, hparts with
    | [], _ => exact absurd rfl hkept
    | [part], hparts =>
      obtain ⟨rfl, -⟩ := List.cons_prefix_cons.1 hparts
      have hcounts := h.keptCounts _ rfl
      cases hcounts
    | part :: next :: kept, hparts =>
      obtain ⟨rfl, -⟩ := List.cons_prefix_cons.1 hparts
      exact ⟨next.1, kept.map Prod.fst, rfl⟩

/-- **The parent has all components but the last.** -/
theorem components_parent (h : IsCut path parent kept last before after) :
    ∃ component, path.components = parent.components ++ [component] := by
  obtain ⟨component, hcomponent⟩ : ∃ component, counted? last = some component := by
    have hwrites : counted? last ≠ none := by simp [counted?_eq_none_iff, h.lastCounts]
    exact Option.ne_none_iff_exists'.1 hwrites
  have hkept : (marked parent.segments).filterMap counted? = kept.filterMap counted? := by
    by_cases hkept : kept = []
    · rw [h.eq_parent, if_pos hkept, hkept]
      cases isAbsolute path <;> rfl
    · rw [h.segments_parent hkept, marked_of_isPrefix h.kept_isPrefix]
  refine ⟨component, ?_⟩
  rw [components_eq_marked, components_eq_marked, h.isAbsolute_parent, hkept, h.parts,
    List.filterMap_append, List.filterMap_append, filterMap_counted?_eq_nil h.skips,
    List.append_nil, List.filterMap_cons_some hcomponent, filterMap_counted?_eq_nil h.ends,
    List.append_assoc]

/-- A parent is shorter. -/
theorem length_parent (h : IsCut path parent kept last before after) :
    parent.length < path.length := by
  have hpath : path = Text.join ['/'] (segments path) := (Text.join_splitOn '/' path).symm
  have hsegments : segments path = kept.map Prod.fst ++ (before ++ last :: after).map Prod.fst := by
    rw [← map_fst_marked (segments path), h.parts, ← List.map_append, List.append_assoc]
  by_cases hkept : kept = []
  · -- the parent is empty or the root, and the path has one component more
    obtain ⟨component, hcomponents⟩ := h.components_parent
    rw [h.eq_parent, if_pos hkept] at hcomponents ⊢
    match path, hcomponents with
    | [], hcomponents => simp [components, segments, Text.splitOn, isAbsolute,
        Component.ofSegment?] at hcomponents
    | [c], hcomponents =>
      by_cases hc : c = '/'
      · subst hc
        simp [components, segments, Text.splitOn, isAbsolute,
          Component.ofSegment?] at hcomponents
      · simp [isAbsolute, hc]
    | c :: d :: path, _ => split <;> simp
  · have hrest : (before ++ last :: after).map Prod.fst ≠ [] := by simp
    rw [h.eq_parent, if_neg hkept, hpath, hsegments,
      Text.join_append _ (by simpa using hkept) hrest]
    simp

end IsCut

/-- **Which paths have no parent**: those without components, and the root. -/
theorem parent?_eq_none_iff :
    parent? path = none ↔ path.components = if isAbsolute path then [.root] else [] := by
  obtain ⟨hnone, hparts⟩ | ⟨parent, kept, last, before, after, hsome, hcut⟩ := parent?_cases path
  · simp [hnone, components_eq_marked, filterMap_counted?_eq_nil hparts]
  · obtain ⟨component, hcomponents⟩ := hcut.components_parent
    rw [hsome, hcomponents, components_eq_marked, hcut.isAbsolute_parent]
    simp [List.append_assoc]

variable (h : parent? path = some parent)
include h

theorem isCut_of_parent? :
    ∃ kept last before after, IsCut path parent kept last before after := by
  obtain ⟨hnone, -⟩ | ⟨other, kept, last, before, after, hsome, hcut⟩ := parent?_cases path
  · rw [hnone] at h
    cases h
  · rw [hsome, Option.some.injEq] at h
    subst h
    exact ⟨kept, last, before, after, hcut⟩

/-- **The parent of a path** has all its components but the last. -/
theorem components_of_parent? :
    ∃ component, path.components = parent.components ++ [component] := by
  obtain ⟨kept, last, before, after, hcut⟩ := isCut_of_parent? h
  exact hcut.components_parent

theorem isAbsolute_of_parent? : isAbsolute parent = isAbsolute path := by
  obtain ⟨kept, last, before, after, hcut⟩ := isCut_of_parent? h
  exact hcut.isAbsolute_parent

theorem length_lt_of_parent? : parent.length < path.length := by
  obtain ⟨kept, last, before, after, hcut⟩ := isCut_of_parent? h
  exact hcut.length_parent

end Path

end Blurb
