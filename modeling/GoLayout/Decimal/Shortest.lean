import GoLayout.Decimal.Binary64

/-!
# Shortest decimals

The decimal with the fewest digits that reads back as a given binary number, and of those the nearest
one.  For each number of digits the only candidates are the two neighbours of the exact value on the
grid of decimals with that many digits.
-/

namespace GoLayout.Decimal

/-- The decimal `digits * 10 ^ exponent`. -/
structure Scaled where
  digits : Nat
  exponent : Int
deriving DecidableEq, Repr

/-- The value of a decimal. -/
def Scaled.value (d : Scaled) : Fraction := Fraction.scale ⟨d.digits, 1⟩ 10 d.exponent

/-- The number of decimal digits of a number. -/
def digitCount (n : Nat) : Nat := (Nat.toDigits 10 n).length

/-- The power of ten of the first digit of a fraction. -/
def leadingPower (x : Fraction) : Int :=
  let e := (digitCount x.num : Int) - digitCount x.den
  if Fraction.le (Fraction.scale ⟨1, 1⟩ 10 e) x then e else e - 1

namespace Binary64

/-- The smallest value that is rounded to a magnitude. -/
def lower (x : Binary64) : Fraction :=
  let gap := if x.mantissa = Nat.pow 2 (precision - 1) ∧ minExponent < x.exponent then 1 else 2
  Fraction.scale ⟨4 * x.mantissa - gap, 1⟩ 2 (x.exponent - 2)

/-- The largest value that is rounded to a magnitude. -/
def upper (x : Binary64) : Fraction := Fraction.scale ⟨4 * x.mantissa + 2, 1⟩ 2 (x.exponent - 2)

/-- Whether a fraction is rounded to a magnitude; the bounds are if the mantissa is even. -/
def contains (x : Binary64) (y : Fraction) : Bool :=
  if x.mantissa % 2 = 0 then x.lower.le y && y.le x.upper
  else !y.le x.lower && !x.upper.le y

/-- The decimal with `n` digits that is nearest to a magnitude, if one of its two neighbours reads
back; of two that are equally near, the even one. -/
def nearest? (x : Binary64) (n : Nat) : Option Scaled :=
  let e := leadingPower x.value - n + 1
  let y := x.value.scale 10 (-e)
  let below : Scaled := ⟨y.num / y.den, e⟩
  let above : Scaled := ⟨y.num / y.den + 1, e⟩
  match x.contains below.value, x.contains above.value with
  | true, true => some (if roundDiv y.num y.den = below.digits then below else above)
  | true, false => some below
  | false, true => some above
  | false, false => none

/-- The shortest decimal that reads back; 17 digits always do. -/
def shortest (x : Binary64) : Scaled :=
  if x.mantissa = 0 then ⟨0, 0⟩
  else ((List.range 17).findSome? fun n => x.nearest? (n + 1)).getD ⟨0, 0⟩

end Binary64

/-! ## Decimals as text -/

/-- How a decimal is laid out. -/
structure Format where
  /-- The smallest power of ten of a first digit that is written positionally. -/
  minPower : Int
  /-- The largest power of ten of a first digit that is written positionally. -/
  maxPower : Int
  /-- What stands before the exponent if it is not negative. -/
  exponentSign : List Char

/-- Digits laid out by the power of ten of the first one. -/
def layOut (format : Format) (digits : List Char) (power : Int) : List Char :=
  if format.minPower ≤ power ∧ power ≤ format.maxPower then
    if power < 0 then
      '0' :: '.' :: List.replicate (-power - 1).toNat '0' ++ digits
    else
      let whole := digits.take (power.toNat + 1)
      let fraction := digits.drop (power.toNat + 1)
      whole ++ List.replicate (power.toNat + 1 - whole.length) '0' ++ '.' ::
        (if fraction = [] then ['0'] else fraction)
  else
    let fraction := digits.drop 1
    let sign := if power < 0 then ['-'] else format.exponentSign
    digits.take 1 ++ (if fraction = [] then [] else '.' :: fraction) ++ 'e' :: sign ++
      Nat.toDigits 10 power.natAbs

/-- Digits without the zeros at their end; the first digit is kept. -/
def dropFinalZeros : List Char → List Char
  | [] => []
  | d :: digits => d :: (digits.reverse.dropWhile (· == '0')).reverse

/-- The shortest text that reads back as a binary number. -/
def Binary64.text (format : Format) (x : Binary64) : List Char :=
  let d := x.shortest
  let digits := Nat.toDigits 10 d.digits
  layOut format (dropFinalZeros digits) (d.exponent + digits.length - 1)

end GoLayout.Decimal
