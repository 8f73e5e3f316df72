import Blurb.Text.Basic

/-! # UTF-8

Texts as bytes: how many bytes a text takes, its bytes, and reading bytes back, either strictly or
with a replacement character for every ill-formed part. -/

namespace Blurb

/-- A sequence of bytes. -/
abbrev Bytes := List UInt8

namespace Text

/-- **The UTF-8 bytes of a text.** -/
def utf8 (t : Text) : Bytes := t.flatMap String.utf8EncodeChar

/-- The number of bytes of a text in UTF-8. -/
def utf8Size : Text → Nat
  | [] => 0
  | c :: rest => c.utf8Size + utf8Size rest

/-- **Cutting a text at a byte offset**: the text before it and the text from it on; nothing if the
offset lies inside a character or behind the end. -/
def splitAtByte? : Nat → Text → Option (Text × Text)
  | 0, t => some ([], t)
  | _ + 1, [] => none
  | n + 1, c :: rest =>
    if c.utf8Size ≤ n + 1 then
      (splitAtByte? (n + 1 - c.utf8Size) rest).map fun (before, after) => (c :: before, after)
    else none

@[simp] theorem splitAtByte?_zero (t : Text) : splitAtByte? 0 t = some ([], t) := by
  cases t <;> rfl

@[simp] theorem utf8Size_append (t u : Text) : utf8Size (t ++ u) = utf8Size t + utf8Size u := by
  induction t with
  | nil => rw [List.nil_append, utf8Size, Nat.zero_add]
  | cons c rest ih => rw [List.cons_append, utf8Size, utf8Size, ih, Nat.add_assoc]

theorem length_utf8 (t : Text) : (utf8 t).length = utf8Size t := by
  induction t with
  | nil => rfl
  | cons c rest ih =>
    rw [utf8, List.flatMap_cons, List.length_append, String.length_utf8EncodeChar, utf8Size, ← ih,
      utf8]

theorem utf8_cons (c : Char) (t : Text) : utf8 (c :: t) = String.utf8EncodeChar c ++ utf8 t :=
  List.flatMap_cons

theorem utf8_append (t u : Text) : utf8 (t ++ u) = utf8 t ++ utf8 u := List.flatMap_append

/-- Only the empty text takes no bytes. -/
theorem utf8Size_eq_zero_iff {t : Text} : utf8Size t = 0 ↔ t = [] := by
  cases t with
  | nil => simp [utf8Size]
  | cons c rest =>
    have := c.utf8Size_pos
    simp only [utf8Size, reduceCtorEq, iff_false]
    omega

theorem splitAtByte?_zero_eq_some_iff {t before after : Text} :
    splitAtByte? 0 t = some (before, after) ↔ t = before ++ after ∧ utf8Size before = 0 := by
  rw [splitAtByte?_zero, Option.some.injEq, Prod.mk.injEq, utf8Size_eq_zero_iff]
  constructor
  · rintro ⟨rfl, rfl⟩
    exact ⟨rfl, rfl⟩
  · rintro ⟨h, rfl⟩
    exact ⟨rfl, h⟩

/-- **Cutting at a byte offset** cuts between two characters, behind as many bytes. -/
theorem splitAtByte?_eq_some_iff {n : Nat} {t before after : Text} :
    splitAtByte? n t = some (before, after) ↔ t = before ++ after ∧ utf8Size before = n := by
  induction t generalizing n before with
  | nil =>
    cases n with
    | zero => exact splitAtByte?_zero_eq_some_iff
    | succ n =>
      simp only [splitAtByte?, reduceCtorEq, false_iff, not_and]
      intro h
      rw [(List.append_eq_nil_iff.1 h.symm).1, utf8Size]
      omega
  | cons c rest ih =>
    cases n with
    | zero => exact splitAtByte?_zero_eq_some_iff
    | succ n =>
      have hpos := c.utf8Size_pos
      rw [splitAtByte?]
      constructor
      · intro h
        split at h
        · next hle =>
          obtain ⟨⟨start, tail⟩, hsplit, heq⟩ := Option.map_eq_some_iff.1 h
          obtain ⟨rfl, rfl⟩ := Prod.mk.inj heq
          obtain ⟨rfl, hsize⟩ := ih.1 hsplit
          refine ⟨rfl, ?_⟩
          rw [utf8Size, hsize]
          omega
        · simp at h
      · rintro ⟨heq, hsize⟩
        cases before with
        | nil =>
          rw [utf8Size] at hsize
          omega
        | cons d start =>
          rw [List.cons_append, List.cons.injEq] at heq
          obtain ⟨rfl, rfl⟩ := heq
          rw [utf8Size] at hsize
          have hsplit : splitAtByte? (n + 1 - c.utf8Size) (start ++ after) = some (start, after) :=
            ih.2 ⟨rfl, by omega⟩
          rw [if_pos (by omega), hsplit]
          rfl

/-- A continuation byte in the given bounds, as its six bits. -/
def continuation? (low high : UInt8) : Bytes → Option (Nat × Bytes)
  | [] => none
  | b :: rest => if low ≤ b ∧ b ≤ high then some (b.toNat % 64, rest) else none

theorem length_of_continuation? {low high : UInt8} {bytes rest : Bytes} {n : Nat}
    (h : continuation? low high bytes = some (n, rest)) : rest.length ≤ bytes.length := by
  cases bytes with
  | nil => simp [continuation?] at h
  | cons b bs =>
    simp only [continuation?] at h
    split at h
    · simp only [Option.some.injEq, Prod.mk.injEq] at h
      simp [← h.2]
    · simp at h

/-- Reads the remaining `count` continuation bytes of a character whose bits so far are `bits`; an
ill-formed character ends where the first byte stands that cannot continue it. -/
def continueChar (bits : Nat) : Nat → UInt8 → UInt8 → Bytes → Option Char × Bytes
  | 0, _, _, bytes => (some (Char.ofNat bits), bytes)
  | count + 1, low, high, bytes =>
    match continuation? low high bytes with
    | none => (none, bytes)
    | some (six, rest) => continueChar (bits * 64 + six) count 0x80 0xBF rest

/-- **The first character of a byte sequence** that begins with `b`, or nothing if the sequence is
ill-formed there, and the bytes after the part that was read. -/
def nextChar (b : UInt8) (rest : Bytes) : Option Char × Bytes :=
  if b < 0x80 then (some (Char.ofNat b.toNat), rest)
  -- continuation bytes, and the first bytes of overlong pairs
  else if b < 0xC2 then (none, rest)
  else if b < 0xE0 then continueChar (b.toNat % 32) 1 0x80 0xBF rest
  -- the narrower bounds keep overlong forms out
  else if b = 0xE0 then continueChar 0 2 0xA0 0xBF rest
  -- and here the surrogates
  else if b = 0xED then continueChar 13 2 0x80 0x9F rest
  else if b < 0xF0 then continueChar (b.toNat % 16) 2 0x80 0xBF rest
  else if b = 0xF0 then continueChar 0 3 0x90 0xBF rest
  else if b < 0xF4 then continueChar (b.toNat % 8) 3 0x80 0xBF rest
  -- nothing lies beyond U+10FFFF
  else if b = 0xF4 then continueChar 4 3 0x80 0x8F rest
  else (none, rest)

theorem length_continueChar (bits count : Nat) (low high : UInt8) (bytes : Bytes) :
    (continueChar bits count low high bytes).2.length ≤ bytes.length := by
  induction count generalizing bits low high bytes with
  | zero => simp [continueChar]
  | succ count ih =>
    simp only [continueChar]
    split
    · simp
    · next six rest h =>
      exact Nat.le_trans (ih _ _ _ _) (length_of_continuation? h)

theorem length_nextChar (b : UInt8) (rest : Bytes) :
    (nextChar b rest).2.length ≤ rest.length := by
  unfold nextChar
  repeat' split
  all_goals first | exact Nat.le_refl _ | exact length_continueChar _ _ _ _ _

/-- The characters of a byte sequence, with nothing for every ill-formed part. -/
def decodeParts : Bytes → List (Option Char)
  | [] => []
  | b :: rest =>
    let next := nextChar b rest
    next.1 :: decodeParts next.2
termination_by bytes => bytes.length
decreasing_by
  simp only [List.length_cons]
  exact Nat.lt_succ_of_le (length_nextChar b rest)

/-- **Strict reading of UTF-8**: nothing unless every part is well-formed. -/
def ofUtf8? (bytes : Bytes) : Option Text := (decodeParts bytes).mapM id

/-- **Lenient reading of UTF-8**: U+FFFD for every ill-formed part. -/
def ofUtf8Lossy (bytes : Bytes) : Text := (decodeParts bytes).map (·.getD '\uFFFD')

end Text

end Blurb
