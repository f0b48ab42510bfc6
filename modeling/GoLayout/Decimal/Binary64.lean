/-!
# Binary numbers of double precision

Magnitudes of 53 binary digits, by exact arithmetic on natural numbers.  Every operation computes its
exact result as a quotient and rounds it once, to the nearest number and a tie to the even one.
-/

namespace GoLayout.Decimal

/-- A quotient rounded to the nearest number; a tie goes to the even one. -/
def roundDiv (num den : Nat) : Nat :=
  let q := num / den
  let r := num % den
  if den < 2 * r ∨ (2 * r = den ∧ q % 2 = 1) then q + 1 else q

/-- A fraction of natural numbers. -/
structure Fraction where
  num : Nat
  den : Nat
deriving DecidableEq, Repr

namespace Fraction

/-- A fraction times a power of a base. -/
def scale (x : Fraction) (base : Nat) (exponent : Int) : Fraction :=
  if 0 ≤ exponent then ⟨x.num * base.pow exponent.toNat, x.den⟩
  else ⟨x.num, x.den * base.pow (-exponent).toNat⟩

/-- One fraction is at most another. -/
def le (x y : Fraction) : Bool := x.num * y.den ≤ y.num * x.den

end Fraction

/-- The magnitude `mantissa * 2 ^ exponent`. -/
structure Binary64 where
  mantissa : Nat
  exponent : Int
deriving DecidableEq, Repr

namespace Binary64

/-- The number of binary digits of a mantissa. -/
def precision : Nat := 53

/-- The exponent of the smallest numbers, whose mantissa may be shorter. -/
def minExponent : Int := -1074

/-- The exponent of the largest numbers. -/
def maxExponent : Int := 971

def zero : Binary64 := ⟨0, minExponent⟩

/-- The value of a magnitude. -/
def value (x : Binary64) : Fraction := Fraction.scale ⟨x.mantissa, 1⟩ 2 x.exponent

/-- The exponent with which a fraction has a mantissa of full length, or the smallest exponent. -/
def exponentOf (x : Fraction) : Int :=
  let e := (x.num.log2 : Int) - x.den.log2 - precision
  let long := Fraction.le ⟨Nat.pow 2 precision, 1⟩ (x.scale 2 (-e))
  max minExponent (if long then e + 1 else e)

/-- The magnitude nearest to a fraction, or nothing if the fraction is too large. -/
def round? (x : Fraction) : Option Binary64 :=
  if x.num = 0 then some zero
  else
    let e := exponentOf x
    let y := x.scale 2 (-e)
    let m := roundDiv y.num y.den
    let r : Binary64 := if m = Nat.pow 2 precision then ⟨Nat.pow 2 (precision - 1), e + 1⟩ else ⟨m, e⟩
    if maxExponent < r.exponent then none else some r

/-- The magnitude nearest to a natural number. -/
def ofNat? (n : Nat) : Option Binary64 := round? ⟨n, 1⟩

/-- The product of a magnitude and a fraction. -/
def times? (x : Binary64) (y : Fraction) : Option Binary64 :=
  round? ⟨x.value.num * y.num, x.value.den * y.den⟩

/-- The magnitude nearest to a power of ten. -/
def powerOfTen (n : Nat) : Fraction := ((ofNat? (Nat.pow 10 n)).getD zero).value

/-- The largest power of ten. -/
def maxPowerOfTen : Nat := 308

/-- A magnitude times a power of ten, by one multiplication. -/
def scaleUp? (x : Binary64) (n : Nat) : Option Binary64 :=
  if n ≤ maxPowerOfTen then x.times? (powerOfTen n)
  else if x.mantissa = 0 then some x
  else none

/-- A magnitude divided by a power of ten, by as few divisions as the largest power allows. -/
def scaleDown (x : Binary64) (n : Nat) : Binary64 :=
  let divided (k : Nat) : Binary64 :=
    (x.times? ⟨(powerOfTen k).den, (powerOfTen k).num⟩).getD zero
  if x.mantissa = 0 then x
  else if n ≤ maxPowerOfTen then divided n
  else scaleDown (divided maxPowerOfTen) (n - maxPowerOfTen)
termination_by n
decreasing_by
  simp only [maxPowerOfTen] at *
  omega

/-- The magnitude that is computed from a decimal `digits * 10 ^ exponent`, unless it is too large. -/
def ofDecimal? (digits : Nat) (exponent : Int) : Option Binary64 :=
  (ofNat? digits).bind fun x =>
    if 0 ≤ exponent then x.scaleUp? exponent.toNat else some (x.scaleDown (-exponent).toNat)

end Binary64

end GoLayout.Decimal
