import SceneFrames.Number.Binary64
import SceneFrames.Text.DecimalDigit

/-!
Written real numbers: an optional sign, decimal digits of any script with an optional fraction
and exponent, or a word for infinity or for no number. Single underscores may stand between
digits. The value is the nearest floating-point number.
-/

namespace SceneFrames.Number

open SceneFrames.Text

/-- A real number as it is written. -/
inductive Numeral
  /-- The digits as a natural number, times a power of ten. -/
  | finite (negative : Bool) (digits : List Nat) (exponent : Int)
  | infinite (negative : Bool)
  | notANumber (negative : Bool)
  deriving DecidableEq, Repr

/-- An ASCII digit. -/
def isPlainDigit (c : Char) : Bool := '0' ≤ c && c ≤ '9'

/-- The value of an ASCII digit. -/
def plainDigitValue (c : Char) : Nat := c.toNat - '0'.toNat

/-- The ASCII character that stands for a character of a number: itself, or the digit of the
same value. -/
def plainChar? (c : Char) : Option Char :=
  if c.toNat < 0x80 then some c else (digitValue? c).map Nat.digitChar

/-- The text without its underscores, each of which stands between two digits; `last` is the
character before. -/
def withoutUnderscores? (last : Char) : List Char → Option (List Char)
  | [] => if last = '_' then none else some []
  | c :: cs =>
    if c = '_' then
      if isPlainDigit last then withoutUnderscores? c cs else none
    else if last = '_' && !isPlainDigit c then none
    else (withoutUnderscores? c cs).map (c :: ·)

/-- A sign in front, and what follows it. -/
def takeSign : List Char → Bool × List Char
  | '+' :: cs => (false, cs)
  | '-' :: cs => (true, cs)
  | cs => (false, cs)

/-- The digits in front, and what follows them. -/
def takeDigits (cs : List Char) : List Nat × List Char :=
  ((cs.takeWhile isPlainDigit).map plainDigitValue, cs.dropWhile isPlainDigit)

/-- The digits after a point in front, and what follows them. -/
def takeFraction : List Char → List Nat × List Char
  | '.' :: cs => takeDigits cs
  | cs => ([], cs)

/-- The exponent that is the whole of a text; the empty text is the exponent zero. -/
def exponent? : List Char → Option Int
  | [] => some 0
  | c :: cs =>
    if c = 'e' || c = 'E' then
      let (negative, rest) := takeSign cs
      let (ds, rest) := takeDigits rest
      if ds.isEmpty || !rest.isEmpty then none
      else some (if negative then -(digitsValue ds : Int) else digitsValue ds)
    else none

/-- A decimal number without its sign. -/
def decimal? (negative : Bool) (cs : List Char) : Option Numeral :=
  let (whole, rest) := takeDigits cs
  let (part, rest) := takeFraction rest
  if whole.isEmpty && part.isEmpty then none
  else (exponent? rest).map fun e => .finite negative (whole ++ part) (e - part.length)

/-- A number without its sign: a word, or a decimal number. -/
def unsigned? (negative : Bool) (cs : List Char) : Option Numeral :=
  let word := String.ofList (cs.map Char.toLower)
  if word = "inf" || word = "infinity" then some (.infinite negative)
  else if word = "nan" then some (.notANumber negative)
  else decimal? negative cs

/-- Reads a text without outer blanks as a real number. -/
def Numeral.read? (cs : List Char) : Option Numeral :=
  (cs.mapM plainChar?).bind fun plain =>
    (withoutUnderscores? ' ' plain).bind fun bare =>
      let (negative, rest) := takeSign bare
      unsigned? negative rest

/-- The floating-point number nearest to the written one. Powers of ten that are far outside
the range of floating-point numbers are not computed. -/
def Numeral.toBinary64 : Numeral → Binary64
  | .infinite negative => .infinity negative
  | .notANumber negative => .notANumber negative
  | .finite negative digits exponent =>
    let n := digitsValue digits
    if n = 0 then .zero negative
    else if 400 < exponent then .infinity negative
    else if exponent + digits.length < -400 then .zero negative
    else if 0 ≤ exponent then .nearest negative (n * Nat.pow 10 exponent.toNat) 1
    else .nearest negative n (Nat.pow 10 (-exponent).toNat)

/-- Reads a text without outer blanks as a floating-point number. -/
def readReal? (cs : List Char) : Option Binary64 := (Numeral.read? cs).map Numeral.toBinary64

end SceneFrames.Number
