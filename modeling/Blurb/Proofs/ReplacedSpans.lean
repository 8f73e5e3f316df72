import Blurb.Proofs.Splicing

/-! # Replaced spans

A replacement looks up the two offsets of its span one by one. Where the span does not end before it
starts, its bytes are replaced and all others stay, so the slice that was cut out can be put back.
Where it does, what stands between the offsets belongs to both parts that are kept: nothing is cut
out, and the result repeats it.

* `Text.IsBoundary` — the offsets at which a character starts or the text ends;
  `Text.isBoundary_iff` — they lie between characters.
* `Replacement.exists_splice?_iff`, `Replacement.utf8_of_splice?` — which replacements have a
  result, and its bytes.
* `Replacement.ReplacesSpan` — what a replacement is to do to a host.
* `Replacement.replacesSpan_iff` — which replacements do so, and what the others do.
* `Replacement.not_replacesSpan_backwards` — a character that is repeated. -/

namespace Blurb

namespace Text

variable {t before after front back : Text} {n : Nat}

/-! ## Bytes and boundaries -/

/-- The first bytes of a text are those of its first characters. -/
theorem take_utf8_append (before after : Text) :
    (utf8 (before ++ after)).take (utf8Size before) = utf8 before := by
  rw [utf8_append, ← length_utf8, List.take_left]

/-- The bytes behind the first characters are those of the others. -/
theorem drop_utf8_append (before after : Text) :
    (utf8 (before ++ after)).drop (utf8Size before) = utf8 after := by
  rw [utf8_append, ← length_utf8, List.drop_left]

/-- **A boundary of a text**: an offset in bytes at which the text ends or the first byte of a
character stands. -/
def IsBoundary (t : Text) (n : Nat) : Prop :=
  n = (utf8 t).length ∨ ∃ b, (utf8 t)[n]? = some b ∧ b.IsUTF8FirstByte

theorem isBoundary_nil_iff : IsBoundary [] n ↔ n = 0 := by simp [IsBoundary, utf8]

/-- The boundaries of a text are its start and those of what stands behind its first character. -/
theorem isBoundary_cons_iff {c : Char} :
    IsBoundary (c :: t) n ↔ n = 0 ∨ c.utf8Size ≤ n ∧ IsBoundary t (n - c.utf8Size) := by
  have hlength := String.length_utf8EncodeChar c
  have hpos := c.utf8Size_pos
  rw [IsBoundary, IsBoundary, utf8_cons, List.length_append, hlength]
  by_cases hn : n < c.utf8Size
  · -- of the bytes of a character only the first one is a first byte
    have hshort : n < (String.utf8EncodeChar c).length := by omega
    have hbyte : (String.utf8EncodeChar c ++ utf8 t)[n]? = some (String.utf8EncodeChar c)[n] := by
      rw [List.getElem?_append_left hshort, List.getElem?_eq_getElem]
    rw [hbyte]
    simp only [Option.some.injEq, exists_eq_left', UInt8.isUTF8FirstByte_getElem_utf8EncodeChar]
    omega
  · have hend : n = c.utf8Size + (utf8 t).length ↔ n - c.utf8Size = (utf8 t).length := by omega
    have hstart : n ≠ 0 := by omega
    rw [List.getElem?_append_right (by omega), hlength, hend]
    simp [hstart, Nat.le_of_not_lt hn]

/-- **The boundaries of a text lie between its characters.** -/
theorem isBoundary_iff :
    IsBoundary t n ↔ ∃ before after, t = before ++ after ∧ utf8Size before = n := by
  induction t generalizing n with
  | nil =>
    rw [isBoundary_nil_iff]
    constructor
    · rintro rfl
      exact ⟨[], [], rfl, rfl⟩
    · rintro ⟨before, after, h, rfl⟩
      rw [(List.append_eq_nil_iff.1 h.symm).1, utf8Size]
  | cons c t ih =>
    rw [isBoundary_cons_iff, ih]
    constructor
    · rintro (rfl | ⟨hle, before, after, rfl, hsize⟩)
      · exact ⟨[], c :: t, rfl, rfl⟩
      · refine ⟨c :: before, after, rfl, ?_⟩
        rw [utf8Size, hsize]
        omega
    · rintro ⟨before, after, h, rfl⟩
      cases before with
      | nil => exact .inl rfl
      | cons d before =>
        obtain ⟨rfl, rfl⟩ := List.cons.inj h
        rw [utf8Size]
        exact .inr ⟨by omega, before, after, rfl, by omega⟩

theorem IsBoundary.le_utf8Size (h : IsBoundary t n) : n ≤ utf8Size t := by
  obtain ⟨before, after, rfl, rfl⟩ := isBoundary_iff.1 h
  rw [utf8Size_append]
  exact Nat.le_add_right _ _

/-- **Two cuts of a text** have a middle between them. -/
theorem exists_middle (h : before ++ after = front ++ back)
    (hle : utf8Size before ≤ utf8Size front) :
    ∃ middle, front = before ++ middle ∧ after = middle ++ back := by
  obtain ⟨middle, hfront, hafter⟩ | ⟨middle, hbefore, hback⟩ := List.append_eq_append_iff.1 h
  · exact ⟨middle, hfront, hafter⟩
  · -- the second cut is not before the first one, so nothing is between them
    rw [hbefore, utf8Size_append] at hle
    obtain rfl : middle = [] := utf8Size_eq_zero_iff.1 (by omega)
    exact ⟨[], by simpa using hbefore.symm, by simpa using hback.symm⟩

end Text

namespace Replacement

open Text

variable {replacement : Replacement} {host result : Text}

/-! ## Results -/

/-- **Which replacements have a result**: those of which both offsets are boundaries. -/
theorem exists_splice?_iff :
    (∃ result, replacement.splice? host = some result) ↔
      host.IsBoundary replacement.span.start ∧ host.IsBoundary replacement.span.stop := by
  rw [isBoundary_iff, isBoundary_iff]
  constructor
  · rintro ⟨result, h⟩
    obtain ⟨head, rest, front, tail, hhead, hfront, -⟩ := splice?_eq_some_iff.1 h
    exact ⟨⟨head, rest, hhead⟩, front, tail, hfront⟩
  · rintro ⟨⟨head, rest, hhead⟩, front, tail, hfront⟩
    exact ⟨_, splice?_eq_some_iff.2 ⟨head, rest, front, tail, hhead, hfront, rfl⟩⟩

/-- **The bytes of a result**, wherever the span ends. -/
theorem utf8_of_splice? (h : replacement.splice? host = some result) :
    utf8 result = (utf8 host).take replacement.span.start ++ utf8 replacement.text ++
      (utf8 host).drop replacement.span.stop := by
  obtain ⟨head, rest, front, tail, ⟨hrest, hstart⟩, ⟨htail, hstop⟩, rfl⟩ := splice?_eq_some_iff.1 h
  have htake : (utf8 host).take replacement.span.start = utf8 head := by
    rw [hrest, ← hstart, take_utf8_append]
  have hdrop : (utf8 host).drop replacement.span.stop = utf8 tail := by
    rw [htail, ← hstop, drop_utf8_append]
  rw [htake, hdrop, utf8_append, utf8_append]

/-- A span that does not end before it starts is cut out. -/
theorem exists_cut_of_splice? (hle : replacement.span.start ≤ replacement.span.stop)
    (h : replacement.splice? host = some result) :
    ∃ before slice after, host = before ++ slice ++ after ∧
      utf8Size before = replacement.span.start ∧
      utf8Size (before ++ slice) = replacement.span.stop ∧
      result = before ++ replacement.text ++ after := by
  obtain ⟨head, rest, front, tail, ⟨hrest, hstart⟩, ⟨htail, hstop⟩, rfl⟩ := splice?_eq_some_iff.1 h
  obtain ⟨slice, rfl, -⟩ := exists_middle (hrest.symm.trans htail) (by omega)
  exact ⟨head, slice, tail, htail, hstart, hstop, rfl⟩

/-- A span that ends before it starts is repeated. -/
theorem splice?_of_backwards {slice : Text}
    (h : Span.slice? ⟨replacement.span.stop, replacement.span.start⟩ host = some slice) :
    ∃ before after, host = before ++ slice ++ after ∧ utf8Size before = replacement.span.stop ∧
      replacement.splice? host =
        some (before ++ slice ++ replacement.text ++ (slice ++ after)) := by
  obtain ⟨before, after, rfl, hstop, hstart⟩ := Span.slice?_eq_some_iff.1 h
  refine ⟨before, after, rfl, hstop, splice?_eq_some_iff.2
    ⟨before ++ slice, after, before, slice ++ after, ⟨rfl, hstart⟩, ⟨?_, hstop⟩, rfl⟩⟩
  rw [List.append_assoc]

/-! ## Replacing a span -/

/-- **A replacement replaces its span** in a host. -/
structure ReplacesSpan (replacement : Replacement) (host : Text) : Prop where
  /-- There is a result exactly if the span goes from a boundary of the host to another one that is
  not before it. -/
  exists_iff : (∃ result, replacement.splice? host = some result) ↔
    replacement.span.start ≤ replacement.span.stop ∧ replacement.span.stop ≤ utf8Size host ∧
      host.IsBoundary replacement.span.start ∧ host.IsBoundary replacement.span.stop
  /-- The bytes of the text stand in the place of those of the span. -/
  bytes : ∀ result, replacement.splice? host = some result →
    utf8 result = (utf8 host).take replacement.span.start ++ utf8 replacement.text ++
      (utf8 host).drop replacement.span.stop
  /-- The host loses the length of the span and gains that of the text. -/
  size : ∀ result, replacement.splice? host = some result →
    utf8Size result = utf8Size host - (replacement.span.stop - replacement.span.start) +
      utf8Size replacement.text
  /-- The slice that was cut out, put in the place of the text, gives the host back. -/
  undo : ∀ result, replacement.splice? host = some result →
    ∃ slice, replacement.span.slice? host = some slice ∧
      splice? ⟨⟨replacement.span.start, replacement.span.start + utf8Size replacement.text⟩, slice⟩
        result = some host

/-- **A span that does not end before it starts is replaced.** -/
theorem replacesSpan_of_le (hle : replacement.span.start ≤ replacement.span.stop) :
    replacement.ReplacesSpan host where
  exists_iff := by
    rw [exists_splice?_iff]
    constructor
    · rintro ⟨hstart, hstop⟩
      exact ⟨hle, hstop.le_utf8Size, hstart, hstop⟩
    · rintro ⟨-, -, hstart, hstop⟩
      exact ⟨hstart, hstop⟩
  bytes _ h := utf8_of_splice? h
  size _ h := by
    obtain ⟨before, slice, after, rfl, hstart, hstop, rfl⟩ := exists_cut_of_splice? hle h
    rw [utf8Size_append] at hstop
    simp only [utf8Size_append]
    omega
  undo _ h := by
    obtain ⟨before, slice, after, rfl, hstart, hstop, rfl⟩ := exists_cut_of_splice? hle h
    refine ⟨slice, Span.slice?_eq_some_iff.2 ⟨before, after, rfl, hstart, hstop⟩, ?_⟩
    exact splice?_of_append hstart (by rw [utf8Size_append, hstart])

/-- **Which replacements replace their span**: all but those that have a result though the span ends
before it starts. There is a result exactly if both offsets are boundaries, and if the span ends
before it starts, what stands between them is repeated on the other side of the text. -/
theorem replacesSpan_iff (replacement : Replacement) (host : Text) :
    (replacement.ReplacesSpan host ↔ replacement.span.start ≤ replacement.span.stop ∨
      ¬ (host.IsBoundary replacement.span.start ∧ host.IsBoundary replacement.span.stop)) ∧
    ((∃ result, replacement.splice? host = some result) ↔
      host.IsBoundary replacement.span.start ∧ host.IsBoundary replacement.span.stop) ∧
    ∀ slice, Span.slice? ⟨replacement.span.stop, replacement.span.start⟩ host = some slice →
      ∃ before after, host = before ++ slice ++ after ∧
        utf8Size before = replacement.span.stop ∧
        replacement.splice? host =
          some (before ++ slice ++ replacement.text ++ (slice ++ after)) := by
  refine ⟨⟨fun h => ?_, ?_⟩, exists_splice?_iff, fun slice => splice?_of_backwards⟩
  · by_contra hnot
    rw [not_or, not_not] at hnot
    exact hnot.1 (h.exists_iff.1 (exists_splice?_iff.2 hnot.2)).1
  · rintro (hle | hnone)
    · exact replacesSpan_of_le hle
    · -- where there is no result, nothing is said about results
      have hnever : ∀ result, replacement.splice? host ≠ some result :=
        fun result h => hnone (exists_splice?_iff.1 ⟨result, h⟩)
      exact {
        exists_iff := iff_of_false (fun ⟨result, h⟩ => hnever result h) fun h => hnone h.2.2
        bytes := fun result h => absurd h (hnever result)
        size := fun result h => absurd h (hnever result)
        undo := fun result h => absurd h (hnever result) }

/-- **A character is repeated** where the span goes from its end back to its start. -/
theorem not_replacesSpan_backwards :
    splice? ⟨⟨2, 0⟩, []⟩ "é".toList = some "éé".toList ∧
    ¬ ReplacesSpan ⟨⟨2, 0⟩, []⟩ "é".toList := by
  have hsplice : splice? ⟨⟨2, 0⟩, []⟩ "é".toList = some "éé".toList := by decide
  refine ⟨hsplice, fun h => ?_⟩
  have hle := (h.exists_iff.1 ⟨_, hsplice⟩).1
  revert hle
  decide

end Replacement

end Blurb
