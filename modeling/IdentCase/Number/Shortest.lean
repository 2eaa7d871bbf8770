import IdentCase.Number.Binary64

/-!
# Shortest decimal texts

The text of a double is the shortest decimal that reads back as it, and of these the nearest; a half
goes to the even digit. Its digits are counted from the magnitude of the double down, which is the
least power of ten above it. It is written with a point when the value lies between `10 ^ -5` and
`10 ^ 16`, and with an exponent otherwise.
-/

set_option autoImplicit false

namespace IdentCase.Number

structure Decimal where
  digits : Nat
  exponent : Int
deriving DecidableEq, Repr

namespace Decimal

def trim (x : Decimal) : Decimal :=
  if x.digits % 10 = 0 ∧ x.digits ≠ 0 then trim ⟨x.digits / 10, x.exponent + 1⟩ else x
termination_by x.digits
decreasing_by
  rename_i h
  exact Nat.div_lt_self (Nat.pos_of_ne_zero h.2) (by decide)

end Decimal

namespace Binary64

def magnitude (x : Binary64) : Int :=
  let (n, d) := x.toRatio
  if d ≤ n then (Nat.toDigits 10 (n / d)).length
  else 1 - ((Nat.toDigits 10 ((d - 1) / n)).length : Int)

def decimalWith? (x : Binary64) (count : Nat) : Option Decimal :=
  let power : Int := x.magnitude - count
  -- All quantities below are multiplied by `2 ^ twos * 10 ^ tens`, which makes them whole.
  let twos := (2 - x.exponent).toNat
  let tens := (-power).toNat
  let gap := Nat.pow 2 (x.exponent + twos).toNat * Nat.pow 10 tens
  let value := x.mantissa * gap
  let unit := Nat.pow 10 (power + tens).toNat * Nat.pow 2 twos
  let lowGap := if x.mantissa = Nat.pow 2 52 ∧ -1074 < x.exponent then gap / 4 else gap / 2
  let closed := x.mantissa % 2 == 0
  let readsBack (c : Nat) : Bool :=
    let v := c * unit
    if closed then value - lowGap ≤ v && v ≤ value + gap / 2
    else value - lowGap < v && v < value + gap / 2
  let low := value / unit
  let high := low + 1
  match readsBack low, readsBack high with
  | true, true => some ⟨roundQuotient value unit, power⟩
  | true, false => some ⟨low, power⟩
  | false, true => some ⟨high, power⟩
  | false, false => none

def shortest (x : Binary64) : Decimal :=
  match ((List.range 17).map (· + 1)).findSome? x.decimalWith? with
  | some decimal => decimal.trim
  | none => ⟨0, 0⟩

def text (x : Binary64) : String :=
  if x.isZero then "0.0"
  else
    let decimal := x.shortest
    let digits := Nat.toDigits 10 decimal.digits
    let length : Int := digits.length
    let point := length + decimal.exponent
    if 0 ≤ decimal.exponent ∧ point ≤ 16 then
      String.ofList (digits ++ List.replicate decimal.exponent.toNat '0') ++ ".0"
    else if 0 < point ∧ point ≤ 16 then
      String.ofList (digits.take point.toNat) ++ "." ++ String.ofList (digits.drop point.toNat)
    else if -5 < point ∧ point ≤ 0 then
      "0." ++ String.ofList (List.replicate point.natAbs '0' ++ digits)
    else
      let exponent := toString (point - 1)
      match digits with
      | [] => "0.0"
      | [d] => String.ofList [d] ++ "e" ++ exponent
      | d :: rest => String.ofList (d :: '.' :: rest) ++ "e" ++ exponent

end Binary64

end IdentCase.Number
