/-! # Ranges of cased characters

A case mapping sends long runs of code points to runs of the same shape, so it is kept as a short
list of ranges instead of one line per character. -/

namespace Blurb

/-- **A run of code points with a case mapping**: `first`, `first + stride`, … up to `last` go to
`image`, `image + stride`, …. -/
structure CaseRange where
  /-- The lowest code point of the run. -/
  first : Nat
  /-- The highest code point of the run. -/
  last : Nat
  /-- The distance between two members of the run. -/
  stride : Nat
  /-- What the lowest code point is mapped to. -/
  image : Nat
deriving Repr, DecidableEq

namespace CaseRange

/-- The code points of the run. -/
def Holds (r : CaseRange) (n : Nat) : Prop :=
  r.first ≤ n ∧ n ≤ r.last ∧ (n - r.first) % r.stride = 0

instance (r : CaseRange) (n : Nat) : Decidable (r.Holds n) :=
  inferInstanceAs (Decidable (_ ∧ _ ∧ _))

/-- **Looking a code point up** in ranges that ascend: the first range that holds it gives its
image, and the search ends at the first range that starts above it. -/
def lookup (n : Nat) : List CaseRange → Option Nat
  | [] => none
  | r :: rs =>
    if n < r.first then none
    else if r.Holds n then some (r.image + (n - r.first))
    else lookup n rs

@[simp] theorem lookup_nil (n : Nat) : lookup n [] = none := rfl

end CaseRange

end Blurb
