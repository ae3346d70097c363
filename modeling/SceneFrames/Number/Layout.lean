import SceneFrames.Number.Binary64

/-!
Number layouts: a floating-point number with a fixed number of places, with a power of ten, or
with six significant digits in the shorter of the two. The digits are those of the exact value
of the number, rounded once, a tie to the even neighbour.
-/

namespace SceneFrames.Number

/-- The digits of a natural number, with zeros in front up to the width. -/
def digitsPadded (width n : Nat) : List Char :=
  let ds := Nat.toDigits 10 n
  List.replicate (width - ds.length) '0' ++ ds

/-- A minus sign for a negative number. -/
def signText (negative : Bool) : List Char := if negative then ['-'] else []

/-- A finite number as a quotient of natural numbers. -/
def quotient (mantissa : Nat) (exponent : Int) : Nat × Nat :=
  if 0 ≤ exponent then (mantissa * Nat.pow 2 exponent.toNat, 1)
  else (mantissa, Nat.pow 2 (-exponent).toNat)

/-- Digits with a point before the last `places` of them. -/
def withPoint (places n : Nat) : List Char :=
  let ds := digitsPadded (places + 1) n
  let whole := ds.length - places
  if places = 0 then ds else ds.take whole ++ '.' :: ds.drop whole

/-- The quotient in units of the last of `places` places, rounded. -/
def fixedDigits (places num den : Nat) : Nat := roundDiv (num * Nat.pow 10 places) den

/-- The words for what is not finite. -/
def specialText : Magnitude → List Char
  | .infinite negative => signText negative ++ "inf".toList
  | _ => "nan".toList

/-- A number with a fixed number of places. -/
def fixedText (places : Nat) : Magnitude → List Char
  | .finite negative m e =>
    let (num, den) := quotient m e
    signText negative ++ withPoint places (fixedDigits places num den)
  | v => specialText v

/-- The quotient divided by a power of ten, rounded. -/
def roundAtPower (num den : Nat) (power : Int) : Nat :=
  if 0 ≤ power then roundDiv num (den * Nat.pow 10 power.toNat)
  else roundDiv (num * Nat.pow 10 (-power).toNat) den

/-- The greatest power of ten that is not above a positive quotient. -/
def decimalExponent (num den : Nat) : Int :=
  let k : Int := ((Nat.toDigits 10 num).length : Int) - (Nat.toDigits 10 den).length
  let above : Bool := if 0 ≤ k then num < den * Nat.pow 10 k.toNat
    else num * Nat.pow 10 (-k).toNat < den
  if above then k - 1 else k

/-- The digits of a quotient with `places` digits after the first, and the power of ten of the
first. -/
def scientificDigits (places num den : Nat) : Nat × Int :=
  if num = 0 then (0, 0)
  else
    let e := decimalExponent num den
    let n := roundAtPower num den (e - places)
    if n = Nat.pow 10 (places + 1) then (Nat.pow 10 places, e + 1) else (n, e)

/-- A power of ten: a sign and at least two digits. -/
def exponentText (e : Int) : List Char :=
  'e' :: (if e < 0 then '-' else '+') :: digitsPadded 2 e.natAbs

/-- A number with one digit before the point, `places` digits after it, and a power of ten. -/
def scientificText (places : Nat) : Magnitude → List Char
  | .finite negative m e =>
    let (num, den) := quotient m e
    let (n, power) := scientificDigits places num den
    signText negative ++ withPoint places n ++ exponentText power
  | v => specialText v

/-- The text without the zeros at the end of its places, nor a point that ends it. -/
def dropTrailingZeros (cs : List Char) : List Char :=
  if cs.contains '.' then
    let rest := cs.reverse.dropWhile (· = '0')
    (match rest with
      | '.' :: rest => rest
      | rest => rest).reverse
  else cs

/-- Six significant digits, without trailing zeros; with a power of ten when the first digit
stands for less than `1e-4`, or for `1e6` and more. -/
def generalText : Magnitude → List Char
  | .finite negative m e =>
    let (num, den) := quotient m e
    let (n, power) := scientificDigits 5 num den
    signText negative ++
      (if -4 ≤ power && power < 6 then
        dropTrailingZeros (withPoint (5 - power).toNat (roundAtPower num den (power - 5)))
      else dropTrailingZeros (withPoint 5 n) ++ exponentText power)
  | v => specialText v

/-- A computed number as it is shown: nine places without trailing zeros, or nine places and a
power of ten from a thousand on. A zero has no sign. -/
def measuredText : Magnitude → List Char
  | .finite negative m e =>
    let (num, den) := quotient m e
    let n := fixedDigits 9 num den
    if 1000 * Nat.pow 10 9 ≤ n then scientificText 9 (.finite negative m e)
    else signText (negative && n != 0) ++ dropTrailingZeros (withPoint 9 n)
  | v => specialText v

end SceneFrames.Number
