/-!
# Double precision magnitudes

The finite nonnegative doubles as `mantissa * 2 ^ exponent`, and the nearest one to a ratio.
Arithmetic is exact on natural numbers and rounds once, to nearest, with ties to the even mantissa.
-/

set_option autoImplicit false

namespace IdentCase.Number

/-- A magnitude with a mantissa below `2 ^ 53` and an exponent from `-1074` to `971`. -/
structure Binary64 where
  mantissa : Nat
  exponent : Int
deriving DecidableEq, Repr

namespace Binary64

def zero : Binary64 := ⟨0, -1074⟩

def isZero (x : Binary64) : Bool := x.mantissa == 0

def roundQuotient (n d : Nat) : Nat :=
  let q := n / d
  let r := n % d
  if d < 2 * r || (2 * r == d && q % 2 == 1) then q + 1 else q

def scale (n d : Nat) (e : Int) : Nat × Nat :=
  if e < 0 then (n * Nat.pow 2 e.natAbs, d) else (n, d * Nat.pow 2 e.natAbs)

def exponentFor (n d : Nat) : Int :=
  let e : Int := (n.log2 : Int) - d.log2 - 52
  let (p, q) := scale n d e
  max (-1074) (if p / q < Nat.pow 2 52 then e - 1 else e)

def ofRatio? (n d : Nat) : Option Binary64 :=
  if n = 0 then some zero
  else
    let e := exponentFor n d
    let (p, q) := scale n d e
    let m := roundQuotient p q
    let x : Binary64 := if m = Nat.pow 2 53 then ⟨Nat.pow 2 52, e + 1⟩ else ⟨m, e⟩
    if 971 < x.exponent then none else some x

def toRatio (x : Binary64) : Nat × Nat :=
  if x.exponent < 0 then (x.mantissa, Nat.pow 2 x.exponent.natAbs)
  else (x.mantissa * Nat.pow 2 x.exponent.natAbs, 1)

def mul? (x y : Binary64) : Option Binary64 :=
  let (a, b) := x.toRatio
  let (c, d) := y.toRatio
  ofRatio? (a * c) (b * d)

def div? (x y : Binary64) : Option Binary64 :=
  let (a, b) := x.toRatio
  let (c, d) := y.toRatio
  ofRatio? (a * d) (b * c)

def powerOfTen? (k : Nat) : Option Binary64 := ofRatio? (Nat.pow 10 k) 1

def maxPower : Nat := 308

def divSmallPower? (k : Nat) (x : Binary64) : Option Binary64 := (powerOfTen? k).bind (div? x)

def divPower? (k : Nat) (x : Binary64) : Option Binary64 :=
  if _h : k ≤ maxPower then divSmallPower? k x
  else if x.isZero then some x
  else (divSmallPower? maxPower x).bind (divPower? (k - maxPower))
termination_by k
decreasing_by exact Nat.sub_lt (by omega) (by decide)

/-- The double read from a significand and a power of ten. Significand, power and result are rounded
one by one. Nothing, if the result is too large. -/
def ofDecimal? (significand : Nat) (exponent : Int) : Option Binary64 :=
  match ofRatio? significand 1 with
  | none => none
  | some x =>
    if 0 ≤ exponent then
      if exponent.toNat ≤ maxPower then (powerOfTen? exponent.toNat).bind (mul? x)
      else if x.isZero then some x
      else none
    else divPower? exponent.natAbs x

end Binary64

end IdentCase.Number
