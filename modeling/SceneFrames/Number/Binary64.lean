import SceneFrames.Number.Rounding

/-!
Binary floating-point numbers of 64 bits: what their bits denote, and the one nearest to a
quotient of natural numbers.
-/

namespace SceneFrames.Number

/-- A floating-point number, by its bits. Two numbers are the same when all bits agree. -/
structure Binary64 where
  bits : UInt64
  deriving DecidableEq, Repr

/-- What a floating-point number denotes; a finite one is `mantissa * 2 ^ exponent`. -/
inductive Magnitude
  | finite (negative : Bool) (mantissa : Nat) (exponent : Int)
  | infinite (negative : Bool)
  | notANumber
  deriving DecidableEq, Repr

namespace Binary64

/-- The number that is computed with. -/
def toFloat (b : Binary64) : Float := Float.ofBits b.bits

/-- The bits of a computed number. -/
def ofFloat (x : Float) : Binary64 := ⟨x.toBits⟩

/-- The sign bit is set. -/
def isNegative (b : Binary64) : Bool := Nat.pow 2 63 ≤ b.bits.toNat

/-- The eleven exponent bits. -/
def exponentField (b : Binary64) : Nat := b.bits.toNat / Nat.pow 2 52 % Nat.pow 2 11

/-- The fifty-two fraction bits. -/
def fractionField (b : Binary64) : Nat := b.bits.toNat % Nat.pow 2 52

/-- Neither infinite nor the result of a meaningless operation. -/
def isFinite (b : Binary64) : Bool := b.exponentField != 2047

/-- What the bits denote. -/
def magnitude (b : Binary64) : Magnitude :=
  if b.exponentField = 2047 then
    if b.fractionField = 0 then .infinite b.isNegative else .notANumber
  else if b.exponentField = 0 then .finite b.isNegative b.fractionField (-1074)
  else .finite b.isNegative (Nat.pow 2 52 + b.fractionField) (b.exponentField - 1075)

/-- The sign bit alone. -/
def signBits (negative : Bool) : Nat := if negative then Nat.pow 2 63 else 0

/-- The infinity of a sign. -/
def infinity (negative : Bool) : Binary64 :=
  ⟨UInt64.ofNat (signBits negative + 2047 * Nat.pow 2 52)⟩

/-- The number that is no number, with a sign bit. -/
def notANumber (negative : Bool) : Binary64 :=
  ⟨UInt64.ofNat (signBits negative + 4095 * Nat.pow 2 51)⟩

/-- The zero of a sign. -/
def zero (negative : Bool) : Binary64 := ⟨UInt64.ofNat (signBits negative)⟩

/-- The quotient `num / 2 ^ e / den`, rounded. -/
def scaledRound (num den : Nat) (e : Int) : Nat :=
  if 0 ≤ e then roundDiv num (den * Nat.pow 2 e.toNat)
  else roundDiv (num * Nat.pow 2 (-e).toNat) den

/-- The exponent at which `num / den` has fifty-three binary digits before the point, but never
below that of the least positive number. -/
def exponentFor (num den : Nat) : Int :=
  let k : Int := (num.log2 : Int) - den.log2
  let e := k - 52
  let low : Bool := if 0 ≤ e then num < Nat.pow 2 52 * (den * Nat.pow 2 e.toNat)
    else num * Nat.pow 2 (-e).toNat < Nat.pow 2 52 * den
  max (if low then e - 1 else e) (-1074)

/-- The number nearest to `num / den`; a tie goes to the one whose last bit is zero, and what
is too large becomes infinite. A mantissa that rounds up to the next power of two carries into
the exponent by itself, since the exponent field stands right above it. -/
def nearest (negative : Bool) (num den : Nat) : Binary64 :=
  if num = 0 then zero negative
  else
    let e := exponentFor num den
    let bits := (e + 1074).toNat * Nat.pow 2 52 + scaledRound num den e
    if 2047 * Nat.pow 2 52 ≤ bits then infinity negative
    else ⟨UInt64.ofNat (signBits negative + bits)⟩

end Binary64

end SceneFrames.Number
