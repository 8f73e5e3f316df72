import Blurb.Files.Tree
import Mathlib.Data.List.Basic

/-! # Strict UTF-8

The strict reader of UTF-8 accepts the bytes of texts and nothing else, and gives the text back. It
takes one character at a time: what it accepts in front is the encoding of one character, neither
overlong nor of a surrogate, and every encoding is accepted whatever stands behind it.

* `nextChar_eq` — the reader of one character by the value of the first byte.
* `cons_eq_of_nextChar`, `nextChar_of_cons_eq` — what it accepts.
* `ofUtf8?_eq_some_iff` — the bytes that are text.
* `Host.HoldsText`, `FileTree.readText?_eq_some_iff` — the files that hold a text. -/

namespace Blurb

namespace Text

open String (utf8EncodeChar)

/-! ## Encodings of characters -/

section Encodings

variable {c : Char} {w x y z : UInt8}

theorem toNat_lt_of_char (c : Char) : c.toNat < 1114112 := by
  have hvalid := c.valid
  simp only [UInt32.isValidChar, Nat.isValidChar] at hvalid
  show c.val.toNat < 1114112
  omega

/-- The surrogates are no characters. -/
theorem toNat_not_surrogate (c : Char) : c.toNat < 55296 ∨ 57343 < c.toNat := by
  have hvalid := c.valid
  simp only [UInt32.isValidChar, Nat.isValidChar] at hvalid
  show c.val.toNat < 55296 ∨ 57343 < c.val.toNat
  omega

theorem toNat_ofNat_of_valid {n : Nat} (h : n.isValidChar) : (Char.ofNat n).toNat = n := by
  rw [Char.ofNat, dif_pos h]
  rfl

theorem utf8EncodeChar_eq_one_iff :
    utf8EncodeChar c = [x] ↔ c.toNat < 128 ∧ x.toNat = c.toNat := by
  have hc : c.val.toNat = c.toNat := rfl
  simp only [utf8EncodeChar, hc]
  split
  · simp [← UInt8.toNat_inj]
    omega
  · split <;> [skip; split] <;> simp <;> omega

theorem utf8EncodeChar_eq_two_iff :
    utf8EncodeChar c = [x, y] ↔ 128 ≤ c.toNat ∧ c.toNat < 2048 ∧
      x.toNat = c.toNat / 64 + 192 ∧ y.toNat = c.toNat % 64 + 128 := by
  have hc : c.val.toNat = c.toNat := rfl
  simp only [utf8EncodeChar, hc]
  split
  · simp
    omega
  · split
    · simp [← UInt8.toNat_inj]
      omega
    · split <;> simp <;> omega

theorem utf8EncodeChar_eq_three_iff :
    utf8EncodeChar c = [x, y, z] ↔ 2048 ≤ c.toNat ∧ c.toNat < 65536 ∧
      x.toNat = c.toNat / 4096 + 224 ∧ y.toNat = c.toNat / 64 % 64 + 128 ∧
      z.toNat = c.toNat % 64 + 128 := by
  have hc : c.val.toNat = c.toNat := rfl
  simp only [utf8EncodeChar, hc]
  split
  · simp
    omega
  · split <;> [skip; split]
    · simp
      omega
    · simp [← UInt8.toNat_inj]
      omega
    · simp
      omega

theorem utf8EncodeChar_eq_four_iff :
    utf8EncodeChar c = [w, x, y, z] ↔ 65536 ≤ c.toNat ∧
      w.toNat = c.toNat / 262144 + 240 ∧ x.toNat = c.toNat / 4096 % 64 + 128 ∧
      y.toNat = c.toNat / 64 % 64 + 128 ∧ z.toNat = c.toNat % 64 + 128 := by
  have hc : c.val.toNat = c.toNat := rfl
  have hmax := toNat_lt_of_char c
  simp only [utf8EncodeChar, hc]
  split
  · simp
    omega
  · split <;> [skip; split]
    · simp
      omega
    · simp
      omega
    · simp [← UInt8.toNat_inj]
      omega

end Encodings

/-! ## The next character -/

section NextChar

variable {b : UInt8} {bits count : Nat} {low high : UInt8} {bytes rest after : Bytes} {c : Char}

theorem continueChar_zero_iff :
    continueChar bits 0 low high bytes = (some c, after) ↔ Char.ofNat bits = c ∧ bytes = after := by
  simp [continueChar]

theorem continueChar_succ_iff :
    continueChar bits (count + 1) low high bytes = (some c, after) ↔
      ∃ b rest, bytes = b :: rest ∧ low.toNat ≤ b.toNat ∧ b.toNat ≤ high.toNat ∧
        continueChar (bits * 64 + b.toNat % 64) count 0x80 0xBF rest = (some c, after) := by
  cases bytes with
  | nil => simp [continueChar, continuation?]
  | cons b rest =>
    simp only [continueChar, continuation?, UInt8.le_iff_toNat_le]
    by_cases hb : low.toNat ≤ b.toNat ∧ b.toNat ≤ high.toNat
    · simp [hb]
    · rw [if_neg hb]
      simp only [Prod.mk.injEq, reduceCtorEq, false_and, List.cons.injEq, false_iff]
      rintro ⟨_, _, ⟨rfl, -⟩, hlow, hhigh, -⟩
      exact hb ⟨hlow, hhigh⟩

/-- **The next character by the value of the first byte**, which says how many bytes follow; the
first of them has narrower bounds where it would be overlong, a surrogate or too large. -/
theorem nextChar_eq (b : UInt8) (rest : Bytes) :
    nextChar b rest =
      if b.toNat < 128 then (some (Char.ofNat b.toNat), rest)
      else if b.toNat < 194 then (none, rest)
      else if b.toNat < 224 then continueChar (b.toNat % 32) 1 0x80 0xBF rest
      else if b.toNat < 240 then
        continueChar (b.toNat % 16) 2 (if b.toNat = 224 then 0xA0 else 0x80)
          (if b.toNat = 237 then 0x9F else 0xBF) rest
      else if b.toNat < 245 then
        continueChar (b.toNat % 8) 3 (if b.toNat = 240 then 0x90 else 0x80)
          (if b.toNat = 244 then 0x8F else 0xBF) rest
      else (none, rest) := by
  unfold nextChar
  simp only [UInt8.lt_iff_toNat_lt, ← UInt8.toNat_inj, UInt8.toNat_ofNat, Nat.reducePow,
    Nat.reduceMod]
  grind

theorem toNat_ite (p : Prop) [Decidable p] (x y : UInt8) :
    (if p then x else y).toNat = if p then x.toNat else y.toNat := apply_ite _ _ _ _

/-- **What is accepted in front is the encoding of one character.** -/
theorem cons_eq_of_nextChar (h : nextChar b rest = (some c, after)) :
    b :: rest = utf8EncodeChar c ++ after := by
  have hb := b.toNat_lt
  rw [nextChar_eq] at h
  split at h
  · simp only [Prod.mk.injEq, Option.some.injEq] at h
    obtain ⟨rfl, rfl⟩ := h
    have hvalue := toNat_ofNat_of_valid (n := b.toNat) (.inl (by omega))
    rw [(utf8EncodeChar_eq_one_iff (x := b)).2 (by rw [hvalue]; omega)]
    rfl
  split at h
  · cases h
  split at h
  · simp only [continueChar_succ_iff, continueChar_zero_iff, UInt8.toNat_ofNat] at h
    obtain ⟨x, rest, rfl, hlow, hhigh, rfl, rfl⟩ := h
    have hvalue := toNat_ofNat_of_valid (n := b.toNat % 32 * 64 + x.toNat % 64) (.inl (by omega))
    rw [(utf8EncodeChar_eq_two_iff (x := b) (y := x)).2 (by rw [hvalue]; omega)]
    rfl
  split at h
  · simp only [continueChar_succ_iff, continueChar_zero_iff, toNat_ite, UInt8.toNat_ofNat] at h
    obtain ⟨x, rest, rfl, hlow, hhigh, y, rest, rfl, hlow', hhigh', rfl, rfl⟩ := h
    have hlow : 128 ≤ x.toNat ∧ (b.toNat = 224 → 160 ≤ x.toNat) := by split at hlow <;> omega
    have hhigh : x.toNat ≤ 191 ∧ (b.toNat = 237 → x.toNat ≤ 159) := by split at hhigh <;> omega
    have hvalue := toNat_ofNat_of_valid
      (n := (b.toNat % 16 * 64 + x.toNat % 64) * 64 + y.toNat % 64)
      (by unfold Nat.isValidChar; omega)
    rw [(utf8EncodeChar_eq_three_iff (x := b) (y := x) (z := y)).2 (by rw [hvalue]; omega)]
    rfl
  split at h
  · simp only [continueChar_succ_iff, continueChar_zero_iff, toNat_ite, UInt8.toNat_ofNat] at h
    obtain ⟨x, rest, rfl, hlow, hhigh, y, rest, rfl, hlow', hhigh', z, rest, rfl, hlow'', hhigh'',
      rfl, rfl⟩ := h
    have hlow : 128 ≤ x.toNat ∧ (b.toNat = 240 → 144 ≤ x.toNat) := by split at hlow <;> omega
    have hhigh : x.toNat ≤ 191 ∧ (b.toNat = 244 → x.toNat ≤ 143) := by split at hhigh <;> omega
    have hvalue := toNat_ofNat_of_valid
      (n := ((b.toNat % 8 * 64 + x.toNat % 64) * 64 + y.toNat % 64) * 64 + z.toNat % 64)
      (by unfold Nat.isValidChar; omega)
    rw [(utf8EncodeChar_eq_four_iff (w := b) (x := x) (y := y) (z := z)).2 (by rw [hvalue]; omega)]
    rfl
  · cases h

/-- **Every encoding of a character is accepted**, whatever stands behind it. -/
theorem nextChar_of_cons_eq (h : b :: rest = utf8EncodeChar c ++ after) :
    nextChar b rest = (some c, after) := by
  have hsurrogate := toNat_not_surrogate c
  have hmax := toNat_lt_of_char c
  have hlength := String.length_utf8EncodeChar c
  have hself := c.ofNat_toNat
  rw [nextChar_eq]
  rcases c.utf8Size_eq with hsize | hsize | hsize | hsize <;> rw [hsize] at hlength
  · obtain ⟨x, hx⟩ := List.length_eq_one_iff.1 hlength
    rw [hx] at h
    obtain ⟨rfl, rfl⟩ := List.cons.inj h
    obtain ⟨hone, hvalue⟩ := utf8EncodeChar_eq_one_iff.1 hx
    rw [if_pos (by omega), hvalue, hself]
  · obtain ⟨x, y, hx⟩ := List.length_eq_two.1 hlength
    rw [hx] at h
    obtain ⟨rfl, rfl⟩ := List.cons.inj h
    obtain ⟨hfrom, hto, hb, hy⟩ := utf8EncodeChar_eq_two_iff.1 hx
    rw [if_neg (by omega), if_neg (by omega), if_pos (by omega)]
    simp only [continueChar_succ_iff, continueChar_zero_iff, UInt8.toNat_ofNat]
    refine ⟨y, after, rfl, by omega, by omega, ?_, rfl⟩
    rw [← hself]
    congr 1
    omega
  · obtain ⟨x, y, z, hx⟩ := List.length_eq_three.1 hlength
    rw [hx] at h
    obtain ⟨rfl, rfl⟩ := List.cons.inj h
    obtain ⟨hfrom, hto, hb, hy, hz⟩ := utf8EncodeChar_eq_three_iff.1 hx
    rw [if_neg (by omega), if_neg (by omega), if_neg (by omega), if_pos (by omega)]
    simp only [continueChar_succ_iff, continueChar_zero_iff, toNat_ite, UInt8.toNat_ofNat]
    refine ⟨y, z :: after, rfl, by split <;> omega, by split <;> omega, z, after, rfl, by omega,
      by omega, ?_, rfl⟩
    rw [← hself]
    congr 1
    omega
  · obtain ⟨w, x, y, z, hx⟩ := List.length_eq_four.1 hlength
    rw [hx] at h
    obtain ⟨rfl, rfl⟩ := List.cons.inj h
    obtain ⟨hfrom, hb, hx, hy, hz⟩ := utf8EncodeChar_eq_four_iff.1 hx
    rw [if_neg (by omega), if_neg (by omega), if_neg (by omega), if_neg (by omega),
      if_pos (by omega)]
    simp only [continueChar_succ_iff, continueChar_zero_iff, toNat_ite, UInt8.toNat_ofNat]
    refine ⟨x, y :: z :: after, rfl, by split <;> omega, by split <;> omega, y, z :: after, rfl,
      by omega, by omega, z, after, rfl, by omega, by omega, ?_, rfl⟩
    rw [← hself]
    congr 1
    omega

end NextChar

/-! ## Texts -/

section Texts

variable {bytes : Bytes} {text : Text}

theorem ofUtf8?_cons_eq_some_iff {b : UInt8} {rest : Bytes} :
    ofUtf8? (b :: rest) = some text ↔
      ∃ c after tail, nextChar b rest = (some c, after) ∧ ofUtf8? after = some tail ∧
        c :: tail = text := by
  rw [ofUtf8?, decodeParts]
  simp only [List.mapM_cons, id_eq, Option.pure_def, Option.bind_eq_bind, Option.bind_eq_some_iff,
    Option.some.injEq, ofUtf8?]
  constructor
  · rintro ⟨c, hc, tail, htail, rfl⟩
    exact ⟨c, _, tail, Prod.ext hc rfl, htail, rfl⟩
  · rintro ⟨c, after, tail, hnext, htail, rfl⟩
    rw [hnext]
    exact ⟨c, rfl, tail, htail, rfl⟩

theorem utf8_of_ofUtf8? (h : ofUtf8? bytes = some text) : bytes = utf8 text := by
  induction bytes using decodeParts.induct generalizing text with
  | case1 =>
    rw [ofUtf8?, decodeParts] at h
    obtain rfl := Option.some.inj h
    rfl
  | case2 b rest next =>
    rename_i ih
    obtain ⟨c, after, tail, hnext, htail, rfl⟩ := ofUtf8?_cons_eq_some_iff.1 h
    have hafter : next.2 = after := congrArg Prod.snd hnext
    rw [hafter] at ih
    rw [cons_eq_of_nextChar hnext, utf8_cons, ← ih htail]

theorem ofUtf8?_utf8 (text : Text) : ofUtf8? (utf8 text) = some text := by
  induction text with
  | nil => rw [show utf8 [] = [] from rfl, ofUtf8?, decodeParts]; rfl
  | cons c rest ih =>
    rw [utf8_cons]
    cases hbytes : utf8EncodeChar c ++ utf8 rest with
    | nil =>
      have hpos := c.utf8Size_pos
      rw [← String.length_utf8EncodeChar, (List.append_eq_nil_iff.1 hbytes).1] at hpos
      cases hpos
    | cons b tail =>
      have hnext := nextChar_of_cons_eq hbytes.symm
      exact ofUtf8?_cons_eq_some_iff.2 ⟨c, utf8 rest, rest, hnext, ih, rfl⟩

/-- **The bytes that are text** are those that a text is written with, and they are read as it. -/
theorem ofUtf8?_eq_some_iff : ofUtf8? bytes = some text ↔ bytes = utf8 text :=
  ⟨utf8_of_ofUtf8?, fun h => h ▸ ofUtf8?_utf8 text⟩

end Texts

end Text

/-! ## Files that hold a text -/

/-- **There is a file that holds a text**: its content is the text in UTF-8. -/
def Host.HoldsText (host : Host) (path : Path) (text : Text) : Prop :=
  host.tree.read? host.cwd path = some (Text.utf8 text)

variable {host : Host} {path : Path}

theorem FileTree.readText?_eq_some_iff {text : Text} :
    host.tree.readText? host.cwd path = some text ↔ host.HoldsText path text := by
  unfold readText? Host.HoldsText
  cases host.tree.read? host.cwd path with
  | none => simp
  | some bytes => simp [Text.ofUtf8?_eq_some_iff]

theorem FileTree.readText?_eq_none_iff :
    host.tree.readText? host.cwd path = none ↔ ∀ text, ¬ host.HoldsText path text := by
  rw [Option.eq_none_iff_forall_ne_some]
  exact forall_congr' fun text => not_congr readText?_eq_some_iff

end Blurb
