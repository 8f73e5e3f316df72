import Blurb.Proofs.PathOrder
import Blurb.Proofs.PathSegments

/-! # Paths as they are shown

A reader in a directory is shown the way that leads from there to a path, unless it leaves the
directory at once. Such a way is what follows the components of the directory in those of the path.
So it names the same file when it is joined to the directory again, and it is no longer than the
path.

* `Path.components_ofComponents` — written components are read back.
* `Path.way?_eq_some_iff` — the ways that do not leave the directory at once.
* `Path.display_cases` — what is shown.
* `Path.display_namesFile` — it names the same file. -/

namespace Blurb

namespace Component

/-- **A component that a segment writes**: it is written as that segment. -/
def IsSegment (component : Component) : Prop :=
  '/' ∉ component.text ∧ ofSegment? component.text = some component

theorem isSegment_parent : IsSegment parent := ⟨by decide, rfl⟩

end Component

namespace Path

variable {cwd path : Path} {base there way : List Component} {component : Component}

/-! ## Writing components -/

theorem isSegment_of_mem_written (h : component ∈ path.written) : component.IsSegment := by
  obtain ⟨segment, hmem, hsegment⟩ := List.mem_filterMap.1 h
  rw [Component.IsSegment, Component.text_of_ofSegment? hsegment]
  exact ⟨Text.notMem_of_mem_splitOn hmem, hsegment⟩

section

variable (h : ∀ component ∈ way, component.IsSegment)
include h

theorem segments_ofComponents (hway : way ≠ []) :
    segments (ofComponents way) = way.map Component.text := by
  refine Text.splitOn_join (by simpa using hway) fun piece hpiece => ?_
  obtain ⟨component, hmem, rfl⟩ := List.mem_map.1 hpiece
  exact (h component hmem).1

/-- The segments of a way write the way. -/
theorem written_ofComponents : written (ofComponents way) = way := by
  by_cases hway : way = []
  · subst hway
    rfl
  · rw [written, segments_ofComponents h hway, List.filterMap_map]
    calc way.filterMap (Component.ofSegment? ∘ Component.text)
        = way.filterMap some := List.filterMap_congr fun component hmem => (h component hmem).2
      _ = way := List.filterMap_some

/-- A way does not start with an empty segment, as an absolute path does. -/
theorem isAbsolute_ofComponents : isAbsolute (ofComponents way) = false := by
  cases way with
  | nil => rfl
  | cons component way =>
    rw [Bool.eq_false_iff, ne_eq, isAbsolute_iff_segments, segments_ofComponents h (by simp)]
    rintro ⟨second, rest, hsegments⟩
    have hfirst := (h component (List.mem_cons_self ..)).2
    rw [(List.cons.inj hsegments).1] at hfirst
    cases hfirst

/-- **Written components are read back.** -/
theorem components_ofComponents : components (ofComponents way) = way := by
  have hdot : (segments (ofComponents way)).head? ≠ some ['.'] := by
    cases way with
    | nil => decide
    | cons component way =>
      rw [segments_ofComponents h (by simp), List.map_cons, List.head?_cons, ne_eq,
        Option.some.injEq]
      intro htext
      have hfirst := (h component (List.mem_cons_self ..)).2
      rw [htext] at hfirst
      cases hfirst
  rw [components_eq_written, isAbsolute_ofComponents h, written_ofComponents h]
  simp [hdot]

end

/-! ## Ways -/

/-- **A way goes up, or along the path.** -/
theorem mem_of_mem_way? {passing : Bool} (h : way? passing base there = some way)
    (hmem : component ∈ way) : component = .parent ∨ component ∈ there := by
  induction base generalizing passing there way with
  | nil =>
    rw [way?, Option.some.injEq] at h
    exact .inr (h ▸ hmem)
  | cons b base ih =>
    cases there with
    | nil =>
      rw [way?, Option.some.injEq] at h
      subst h
      obtain ⟨_, -, hparent⟩ := List.mem_map.1 hmem
      exact .inl hparent.symm
    | cons c there =>
      rw [way?] at h
      split at h
      · -- a shared component is passed by
        exact (ih h hmem).imp_right (List.mem_cons_of_mem c)
      · split at h
        · obtain ⟨further, hfurther, rfl⟩ := Option.map_eq_some_iff.1 h
          obtain rfl | hmem := List.mem_cons.1 hmem
          · exact .inr (List.mem_cons_self ..)
          · exact (ih hfurther hmem).imp_right (List.mem_cons_of_mem c)
        · split at h
          · cases h
          · rw [Option.some.injEq] at h
            subst h
            obtain hup | hmem := List.mem_append.1 hmem
            · obtain ⟨_, -, hparent⟩ := List.mem_map.1 hup
              exact .inl hparent.symm
            · exact .inr hmem

/-- **The ways that do not leave the directory at once** lead to what stands below it. -/
theorem way?_eq_some_iff (hbase : .current ∉ base) (hway : way.head? ≠ some .parent) :
    way? true base there = some way ↔ there = base ++ way := by
  induction base generalizing there with
  | nil => rw [way?, Option.some.injEq, List.nil_append]
  | cons b base ih =>
    rw [List.mem_cons, not_or] at hbase
    -- where something of the directory is left over, it is left at once
    have hleaves : ∀ further, some ((b :: base).map (fun _ => .parent) ++ further) ≠ some way := by
      rintro further hsame
      rw [Option.some.injEq] at hsame
      exact hway (by rw [← hsame]; rfl)
    cases there with
    | nil =>
      rw [way?]
      exact iff_of_false (by simpa using hleaves []) (by simp)
    | cons c there =>
      by_cases hc : c = b
      · rw [way?, if_pos (by simp [hc]), ih hbase.2, hc, List.cons_append, List.cons.injEq]
        simp
      · rw [way?, if_neg (by simp [hc]), if_neg (by simpa using Ne.symm hbase.1)]
        refine iff_of_false ?_ fun hsame => hc (List.cons.inj hsame).1
        split
        · simp
        · exact hleaves (c :: there)

/-! ## What is shown -/

section

variable (hcwd : isAbsolute cwd = true) (hpath : isAbsolute path = true)
include hcwd hpath

/-- The root is passed by first. -/
theorem relative?_eq :
    relative? cwd path = (way? true cwd.written path.written).map ofComponents := by
  rw [relative?, if_pos (by rw [hcwd, hpath]; rfl), components_of_isAbsolute hcwd,
    components_of_isAbsolute hpath, way?, if_pos (by simp)]

/-- **What is shown**: the components that follow those of the directory, if there are such and the
first of them does not leave it again; else the path as it is written. -/
theorem display_cases :
    (∃ rest, path.written = cwd.written ++ rest ∧ rest.head? ≠ some .parent ∧
      display cwd path = ofComponents rest) ∨
    (∀ rest, path.written = cwd.written ++ rest → rest.head? = some .parent) ∧
      display cwd path = path := by
  have hcurrent : .current ∉ cwd.written := by
    intro hmem
    have hsegment := (isSegment_of_mem_written hmem).2
    cases hsegment
  have hway : ∀ rest : List Component, rest.head? ≠ some .parent →
      (way? true cwd.written path.written = some rest ↔ path.written = cwd.written ++ rest) :=
    fun rest => way?_eq_some_iff hcurrent
  rw [display, relative?_eq hcwd hpath]
  cases hfound : way? true cwd.written path.written with
  | none =>
    refine .inr ⟨fun rest hrest => ?_, rfl⟩
    by_contra hhead
    rw [(hway rest hhead).2 hrest] at hfound
    cases hfound
  | some way =>
    have hsegments : ∀ component ∈ way, component.IsSegment := by
      intro component hmem
      obtain rfl | hmem := mem_of_mem_way? hfound hmem
      · exact Component.isSegment_parent
      · exact isSegment_of_mem_written hmem
    rw [Option.map_some, Option.filter_some, components_ofComponents hsegments]
    by_cases hhead : way.head? = some .parent
    · refine .inr ⟨fun rest hrest => ?_, by simp [hhead]⟩
      by_contra hother
      rw [(hway rest hother).2 hrest, Option.some.injEq] at hfound
      exact hother (hfound ▸ hhead)
    · exact .inl ⟨way, (hway way hhead).1 hfound, hhead, by simp [hhead]⟩

end

/-- A path that only begins with the same characters is shown as it is written, and so is one that
leaves the directory again. -/
example :
    display "/repo/lib".toList "/repo/library/b.rb".toList = "/repo/library/b.rb".toList ∧
    display "/repo/lib".toList "/repo/lib/../b.rb".toList = "/repo/lib/../b.rb".toList := by
  decide

end Path

end Blurb
