import Blurb.Text.Basic

/-! # Decimal numbers

Numbers written in decimal with an exponent, and what becomes of them in double precision. -/

namespace Blurb.Text

/-- A decimal digit. -/
def isDigit (c : Char) : Bool := '0' ≤ c && c ≤ '9'

/-- The digits a text starts with, and what follows them. -/
def digits (t : Text) : Text × Text := t.span isDigit

/-- The value of a run of decimal digits, zero for none. -/
def decimal (digits : Text) : Nat := (number? 10 digits).getD 0

/-- **The number `mantissa` times ten to the power `exponent` lies beyond the finite numbers of
double precision**: it is at least half a unit above the greatest of them. -/
def exceedsDouble (mantissa : Nat) (exponent : Int) : Bool :=
  let size := (ofNat mantissa).length + exponent
  -- so much is clear from the number of digits alone
  if mantissa = 0 || size < 300 then false
  else if 320 < size then true
  else
    -- half a unit above the greatest finite number
    let bound := bitBound 1024 - bitBound 970
    if 0 ≤ exponent then bound ≤ mantissa * Nat.pow 10 exponent.toNat
    else bound * Nat.pow 10 exponent.natAbs ≤ mantissa

/-- **The bits of a number in double precision**, nothing if it lies beyond the finite ones. Both
zeros have the same bits. -/
def doubleBits? (negative : Bool) (mantissa : Nat) (exponent : Int) : Option UInt64 :=
  let size := (ofNat mantissa).length + exponent
  if exceedsDouble mantissa exponent then none
  else if mantissa = 0 || size < -400 then some 0
  else
    let magnitude := Float.ofScientific mantissa (exponent < 0) exponent.natAbs
    if magnitude == 0.0 then some 0
    else some (if negative then -magnitude else magnitude).toBits

end Blurb.Text
