import Blurb.Text.Basic

/-! # White space

The characters that count as blank, and what texts look like at their ends up to blanks. -/

namespace Blurb

/-- **A blank character**: one with the Unicode property White_Space. -/
def isBlank (c : Char) : Bool :=
  let n := c.toNat
  (9 ≤ n && n ≤ 13) || n == 0x20 || n == 0x85 || n == 0xA0 || n == 0x1680 ||
  (0x2000 ≤ n && n ≤ 0x200A) || n == 0x2028 || n == 0x2029 || n == 0x202F || n == 0x205F ||
  n == 0x3000

namespace Text

/-- The blanks that a text starts with. -/
def leadingBlanks (t : Text) : Text := t.takeWhile isBlank

/-- The text without the blanks it starts with. -/
def trimStart (t : Text) : Text := t.dropWhile isBlank

/-- The text without the blanks it ends with. -/
def trimEnd (t : Text) : Text := (t.reverse.dropWhile isBlank).reverse

/-- The blanks that a text ends with. -/
def trailingBlanks (t : Text) : Text := (t.reverse.takeWhile isBlank).reverse

/-- **Trimming**: the text without the blanks at either end. -/
def trim (t : Text) : Text := trimEnd (trimStart t)

/-- The first word of a text: its first run of characters that are not blank, empty if there is
none. -/
def firstWord (t : Text) : Text := (trimStart t).takeWhile fun c => !isBlank c

theorem leadingBlanks_append_trimStart (t : Text) : leadingBlanks t ++ trimStart t = t :=
  List.takeWhile_append_dropWhile

theorem trimEnd_append_trailingBlanks (t : Text) : trimEnd t ++ trailingBlanks t = t := by
  unfold trimEnd trailingBlanks
  rw [← List.reverse_append, List.takeWhile_append_dropWhile, List.reverse_reverse]

end Text

end Blurb
