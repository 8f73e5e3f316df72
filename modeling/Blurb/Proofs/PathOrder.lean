import Blurb.Files.Path
import Mathlib.Data.List.Basic

/-! # The order of paths

Paths are compared component by component. That is a total order of the lists of components, so it
tells paths apart exactly up to their spelling.

* `Component.compare_eq_iff` — only equal components are equal in the order.
* `Path.compare_eq_iff` — only paths that are the same component by component are equal in the
  order.
* `Path.same_congr` — the same paths are the same as others. -/

namespace Blurb

open Std (TransCmp LawfulEqCmp OrientedCmp)

/-- **Comparing by a key** is as good an order as the one of the keys. -/
theorem transCmp_of_key {α β : Type} (cmp : β → β → Ordering) [TransCmp cmp] (key : α → β) :
    TransCmp fun a b => cmp (key a) (key b) where
  eq_swap := OrientedCmp.eq_swap
  isLE_trans := TransCmp.isLE_trans

namespace Component

/-- A component is known by its class and its spelling. -/
theorem eq_of_rank_of_text {a b : Component} (hrank : a.rank = b.rank) (htext : a.text = b.text) :
    a = b := by
  cases a <;> cases b <;> simp_all [rank, text]

instance : TransCmp compare :=
  have := transCmp_of_key Ord.compare rank
  have := transCmp_of_key (List.compareLex (Ord.compare (α := Char))) text
  inferInstanceAs (TransCmp (compareLex (fun a b : Component => Ord.compare a.rank b.rank)
    fun a b : Component => List.compareLex Ord.compare a.text b.text))

theorem compare_eq_iff {a b : Component} : compare a b = .eq ↔ a = b := by
  rw [compare, Ordering.then_eq_eq, LawfulEqCmp.compare_eq_iff_eq, LawfulEqCmp.compare_eq_iff_eq]
  constructor
  · rintro ⟨hrank, htext⟩
    exact eq_of_rank_of_text hrank htext
  · rintro rfl
    exact ⟨rfl, rfl⟩

instance : LawfulEqCmp compare where
  compare_self := compare_eq_iff.2 rfl
  eq_of_compare := compare_eq_iff.1

end Component

namespace Path

instance : TransCmp compare :=
  transCmp_of_key (List.compareLex Component.compare) components

theorem same_iff {a b : Path} : same a b = true ↔ a.components = b.components := beq_iff_eq

theorem same_refl (path : Path) : same path path = true := same_iff.2 rfl

/-- Whether paths are the same does not hang on who is asked. -/
theorem same_comm (a b : Path) : same a b = same b a := by
  rw [Bool.eq_iff_iff, same_iff, same_iff, eq_comm]

/-- **The same paths are the same as others.** -/
theorem same_congr {a b : Path} (h : same a b = true) (c : Path) : same a c = same b c := by
  rw [same, same, same_iff.1 h]

/-- **The order tells paths apart** exactly if they are not the same component by component. -/
theorem compare_eq_iff {a b : Path} : compare a b = .eq ↔ same a b = true := by
  rw [compare, LawfulEqCmp.compare_eq_iff_eq, same_iff]

/-- A path that comes before another is not the same. -/
theorem same_eq_false_of_lt {a b : Path} (h : compare a b = .lt) : same a b = false := by
  rw [Bool.eq_false_iff, ne_eq, ← compare_eq_iff, h]
  simp

end Path

end Blurb
