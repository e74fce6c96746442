-- SUMMARY: Double-precision numbers, read from decimals and written with the fewest digits.

/-!
# Double-precision numbers

A finite number is `±mantissa × 2 ^ exponent`. Reading a decimal rounds to the
nearest such number, a tie to the even mantissa. Writing takes the fewest
decimal digits that read back, and of those the nearest ones.

Everything is exact natural arithmetic, so that the rules can be evaluated in
proofs.
-/

namespace Phrasebook

inductive Binary64 where
  | finite (negative : Bool) (mantissa : Nat) (exponent : Int)
  | infinite (negative : Bool)
  | nan
  deriving DecidableEq, Repr

namespace Binary64

/-! ## Reading -/

/-- The least exponent of a finite number. -/
def minExponent : Int := -1074

/-- The greatest exponent of a finite number. -/
def maxExponent : Int := 971

/-- `num / den` divided by `2 ^ e`, as numerator and denominator. -/
def scale (num den : Nat) (e : Int) : Nat × Nat :=
  if 0 ≤ e then (num, den * Nat.pow 2 e.toNat) else (num * Nat.pow 2 (-e).toNat, den)

/-- The integer nearest to `num / den`; of two the even one. -/
def roundHalfEven (num den : Nat) : Nat :=
  let q := num / den
  let r := num % den
  if 2 * r < den then q
  else if den < 2 * r then q + 1
  else if q % 2 = 0 then q else q + 1

/-- The number nearest to the quotient of two positive integers. -/
def ofQuotient (negative : Bool) (num den : Nat) : Binary64 :=
  let guess : Int := (Nat.log2 num : Int) - (Nat.log2 den : Int) - 53
  let (n, d) := scale num den guess
  let tight := if Nat.pow 2 53 ≤ n / d then guess + 1 else guess
  let e := max tight minExponent
  let (n, d) := scale num den e
  let m := roundHalfEven n d
  let (m, e) := if m = Nat.pow 2 53 then (Nat.pow 2 52, e + 1) else (m, e)
  if maxExponent < e then .infinite negative else .finite negative m e

/-- The number nearest to `digits × 10 ^ power`. Beyond `10 ^ ±400` the result is known without
computing the power. -/
def ofDecimal (negative : Bool) (digits : Nat) (power : Int) : Binary64 :=
  let count := (Nat.toDigits 10 digits).length
  if digits = 0 || power + count < -400 then .finite negative 0 minExponent
  else if 400 < power + count then .infinite negative
  else if 0 ≤ power then ofQuotient negative (digits * Nat.pow 10 power.toNat) 1
  else ofQuotient negative digits (Nat.pow 10 (-power).toNat)

/-! ## Comparing -/

/-- An integer, and the power of two that it is multiplied by. -/
abbrev Scaled := Int × Int

/-- A finite number as an integer multiplied by a power of two. -/
def scaled? : Binary64 → Option Scaled
  | .finite negative mantissa exponent =>
    some (if negative then -(mantissa : Int) else mantissa, exponent)
  | _ => none

/-- How two numbers are ordered. -/
def Scaled.order (x y : Scaled) : Ordering :=
  let least := min x.2 y.2
  compare (x.1 * (Nat.pow 2 (x.2 - least).toNat : Nat))
    (y.1 * (Nat.pow 2 (y.2 - least).toNat : Nat))

/-! ## Writing -/

/-- The place of the decimal point of `num / den`: the integer `k` with
`10 ^ (k - 1) ≤ num / den < 10 ^ k`. -/
def pointPlace (num den : Nat) : Int :=
  if den ≤ num then (Nat.toDigits 10 (num / den)).length
  else
    let l := (Nat.toDigits 10 (den / num)).length
    if den = num * Nat.pow 10 (l - 1) then 2 - (l : Int) else 1 - (l : Int)

/-- The bounds between which a decimal reads back as `mantissa × 2 ^ exponent`, and the number
itself, over the common denominator that comes last. -/
def interval (mantissa : Nat) (exponent : Int) : Nat × Nat × Nat × Nat :=
  let (num, den) := scale mantissa 1 (-exponent)
  let unit := if 0 ≤ exponent then Nat.pow 2 exponent.toNat else 1
  let below := if mantissa = Nat.pow 2 52 && minExponent < exponent then unit else 2 * unit
  (4 * num - below, 4 * num, 4 * num + 2 * unit, 4 * den)

/-- The digits nearest to the number on the grid of `count` digits, if they read back. -/
def digitsOn (mantissa : Nat) (exponent : Int) (count : Nat) : Option (Nat × Int) :=
  let (low, value, high, den) := interval mantissa exponent
  let power := pointPlace value den - count
  -- One step of the grid is `10 ^ power`; `n / d` counts steps.
  let steps (x : Nat) : Nat × Nat :=
    if 0 ≤ power then (x, den * Nat.pow 10 power.toNat) else (x * Nat.pow 10 (-power).toNat, den)
  let (n, d) := steps value
  let inside (q : Nat) : Bool :=
    let l := (steps low).1
    let h := (steps high).1
    if mantissa % 2 = 0 then l ≤ q * d && q * d ≤ h else l < q * d && q * d < h
  let q := n / d
  let r := n % d
  let near := if 2 * r < d || (2 * r = d && q % 2 = 0) then [q, q + 1] else [q + 1, q]
  (near.find? inside).map fun q => (q, power)

/-- The fewest decimal digits that read back, with the power of ten they are multiplied by. -/
def shortest (mantissa : Nat) (exponent : Int) : Nat × Int :=
  ((List.range 17).findSome? fun i => digitsOn mantissa exponent (i + 1)).getD (mantissa, exponent)

/-- Positional notation for numbers from `10 ^ -4` to below `10 ^ 16`, with at least one decimal;
scientific notation with at least two exponent digits beyond. -/
def layout (digits : List Char) (place : Int) : List Char :=
  let digits := match (digits.reverse.dropWhile (· = '0')).reverse with
    | [] => ['0']
    | ds => ds
  if place ≤ -4 || 16 < place then
    let e := place - 1
    let tail := (Nat.toDigits 10 e.natAbs).leftpad 2 '0'
    let mantissa := match digits with
      | [] => []
      | [d] => [d]
      | d :: ds => d :: '.' :: ds
    mantissa ++ 'e' :: (if e < 0 then '-' else '+') :: tail
  else if place ≤ 0 then '0' :: '.' :: (List.replicate (-place).toNat '0' ++ digits)
  else
    let whole := digits.take place.toNat
    let rest := digits.drop place.toNat
    whole ++ List.replicate (place.toNat - whole.length) '0' ++ '.' ::
      (if rest.isEmpty then ['0'] else rest)

/-- A number as text, with the given words for what is not finite. -/
def render (infinity notANumber : String) : Binary64 → String
  | .nan => notANumber
  | .infinite negative => (if negative then "-" else "") ++ infinity
  | .finite negative mantissa exponent =>
    let body :=
      if mantissa = 0 then ['0', '.', '0']
      else
        let (q, power) := shortest mantissa exponent
        let digits := Nat.toDigits 10 q
        layout digits (power + digits.length)
    (if negative then "-" else "") ++ String.ofList body

end Binary64

end Phrasebook
