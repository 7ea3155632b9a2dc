/-!
# Binary floating-point numbers

Numbers with 53 significant bits, exactly: how a decimal number is rounded to
one of them, and the shortest decimal number that is rounded back to it.
-/

namespace FeatureGrant.Number

/-- A floating-point number. A finite one is `±mantissa * 2 ^ exponent`, its
mantissa below 2^53 and its exponent at least -1074. -/
inductive Binary64
  | nan
  | infinite (negative : Bool)
  | finite (negative : Bool) (mantissa : Nat) (exponent : Int)
  deriving DecidableEq, Repr

/-- The quotient rounded to the nearest integer, a half to the even one. -/
def roundDiv (num den : Nat) : Nat :=
  let q := num / den
  let r := num % den
  if den < 2 * r || (den == 2 * r && q % 2 == 1) then q + 1 else q

/-- `num / den * base ^ (-power)` as a ratio. -/
def scale (base num den : Nat) (power : Int) : Nat × Nat :=
  if 0 ≤ power then (num, den * Nat.pow base power.toNat)
  else (num * Nat.pow base (-power).toNat, den)

/-- The floating-point number nearest to `num / den`. -/
def Binary64.ofRatio (negative : Bool) (num den : Nat) : Binary64 :=
  if num == 0 then .finite negative 0 (-1074)
  else
    let guess : Int := (num.log2 : Int) - den.log2 - 52
    let (guessNum, guessDen) := scale 2 num den guess
    let exponent := max (-1074)
      (if guessNum < Nat.pow 2 52 * guessDen then guess - 1 else guess)
    let (scaledNum, scaledDen) := scale 2 num den exponent
    let mantissa := roundDiv scaledNum scaledDen
    let (mantissa, exponent) :=
      if mantissa == Nat.pow 2 53 then (Nat.pow 2 52, exponent + 1)
      else (mantissa, exponent)
    if 971 < exponent then .infinite negative else .finite negative mantissa exponent

/-- The floating-point number nearest to `digits * 10 ^ power`. -/
def Binary64.ofDecimal (negative : Bool) (digits : Nat) (power : Int) : Binary64 :=
  let size : Int := (Nat.toDigits 10 digits).length
  if digits == 0 || size + power < -330 then .finite negative 0 (-1074)
  else if 310 < size + power then .infinite negative
  else if 0 ≤ power then .ofRatio negative (digits * Nat.pow 10 power.toNat) 1
  else .ofRatio negative digits (Nat.pow 10 (-power).toNat)

/-- A finite magnitude as a ratio. -/
def ratio (mantissa : Nat) (exponent : Int) : Nat × Nat :=
  if 0 ≤ exponent then (mantissa * Nat.pow 2 exponent.toNat, 1)
  else (mantissa, Nat.pow 2 (-exponent).toNat)

/-- The integer that a floating-point number is, if it is one. -/
def Binary64.toInt? : Binary64 → Option Int
  | .finite negative mantissa exponent =>
    let (num, den) := ratio mantissa exponent
    if num % den == 0 then
      some (if negative then -((num / den : Nat) : Int) else ((num / den : Nat) : Int))
    else none
  | _ => none

/-- The power of ten at which a positive ratio starts: it is below
`10 ^ magnitude` and not below a tenth of that. -/
def magnitude (num den : Nat) : Int :=
  if den ≤ num then (Nat.toDigits 10 (num / den)).length
  else
    let q := den / num
    let zeros := (Nat.toDigits 10 q).length
    if q == Nat.pow 10 (zeros - 1) && den % num == 0 then 2 - zeros else 1 - zeros

/-- The shortest digits, and their power of ten, that are rounded to a finite
magnitude, trying `count` digits and then more. Of two that are equally short
the nearer one is taken, of two equally near the even one. -/
def shortestFrom (mantissa : Nat) (exponent : Int) : (more count : Nat) → Nat × Int
  | 0, _ => (mantissa, exponent)
  | more + 1, count =>
    let (num, den) := ratio mantissa exponent
    let power := magnitude num den - count
    let (scaledNum, scaledDen) := scale 10 num den power
    let below := scaledNum / scaledDen
    let hits := fun d =>
      Binary64.ofDecimal false d power == .finite false mantissa exponent
    let nearest := roundDiv scaledNum scaledDen
    let other := if nearest == below then below + 1 else below
    if hits nearest then (nearest, power)
    else if hits other then (other, power)
    else shortestFrom mantissa exponent more (count + 1)

/-- Digits with the point behind the first `point` of them. -/
def placePoint (digits : List Char) (point : Int) : List Char :=
  if point ≤ 0 then
    '0' :: '.' :: List.replicate (-point).toNat '0' ++ digits
  else
    let point := point.toNat
    if digits.length ≤ point then
      digits ++ List.replicate (point - digits.length) '0' ++ ['.', '0']
    else digits.take point ++ '.' :: digits.drop point

/-- Digits with the point behind the first of them and an exponent of at least
two digits. -/
def placeExponent (digits : List Char) (exponent : Int) : List Char :=
  let size := Nat.toDigits 10 exponent.natAbs
  digits.take 1 ++ (if digits.length ≤ 1 then [] else '.' :: digits.drop 1)
    ++ 'e' :: (if exponent < 0 then '-' else '+')
    :: List.replicate (2 - size.length) '0' ++ size

/-- A floating-point number by its shortest digits, positional from 10^-4 up
to 10^16. -/
def Binary64.text : Binary64 → String
  | .nan => "nan"
  | .infinite negative => if negative then "-inf" else "inf"
  | .finite negative mantissa exponent =>
    let shown :=
      if mantissa == 0 then ['0', '.', '0']
      else
        let (value, power) := shortestFrom mantissa exponent 17 1
        let written := Nat.toDigits 10 value
        let digits := (written.reverse.dropWhile (· == '0')).reverse
        let point := power + written.length
        if -4 < point && point ≤ 16 then placePoint digits point
        else placeExponent digits (point - 1)
    String.ofList (if negative then '-' :: shown else shown)

end FeatureGrant.Number
