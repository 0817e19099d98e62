import Webprint.Decimal.Binary64

set_option autoImplicit false

/-!
# Shortest decimals

The decimal with the fewest digits that reads back as a given double, and of several such decimals
the nearest. `NumberFormat` says how those digits are laid out.
-/

namespace Webprint.Decimal

structure Scientific where
  digits : Nat
  exponent : Int
deriving Repr, DecidableEq

/-- The fractions between which every number rounds to a double, with a common denominator: lower
end, the double itself, upper end. The ends belong to the double if its significand is even. -/
structure Neighbourhood where
  lower : Nat
  value : Nat
  upper : Nat
  den : Nat
  closed : Bool

def Binary64.neighbourhood (x : Binary64) : Neighbourhood :=
  let m := x.significand
  let atBoundary := m = Nat.pow 2 52 && 1 < x.biased
  let below := if atBoundary then 4 * m - 1 else 4 * m - 2
  let (factor, den) := scale 1 4 x.exponent
  ⟨below * factor, 4 * m * factor, (4 * m + 2) * factor, den, m % 2 = 0⟩

def Neighbourhood.contains (h : Neighbourhood) (num den : Nat) : Bool :=
  let at_ := num * h.den
  if h.closed then h.lower * den ≤ at_ && at_ ≤ h.upper * den
  else h.lower * den < at_ && at_ < h.upper * den

def scaleTen (n : Nat) (e : Int) : Nat × Nat :=
  if 0 ≤ e then (n * Nat.pow 10 e.toNat, 1) else (n, Nat.pow 10 (-e).toNat)

def leadingPlace (num den : Nat) : Int :=
  let guess : Int := ((Nat.toDigits 10 num).length : Int) - ((Nat.toDigits 10 den).length : Int)
  let (n, d) := scaleTen 1 guess
  if num * d < n * den then guess - 1 else guess

def dropZeros : Nat → Scientific → Scientific
  | 0, x => x
  | fuel + 1, x =>
    if x.digits ≠ 0 && x.digits % 10 = 0 then dropZeros fuel ⟨x.digits / 10, x.exponent + 1⟩ else x

/-- Of the two multiples of `10 ^ place` around the double, the one that reads back as it. -/
def Neighbourhood.onGrid? (h : Neighbourhood) (place : Int) : Option Scientific :=
  let (unit, unitDen) := scaleTen 1 place
  let down := h.value * unitDen / (h.den * unit)
  let fits (n : Nat) : Bool := h.contains (n * unit) unitDen
  let rest := 2 * (h.value * unitDen - down * (h.den * unit))
  let nearer := if rest < h.den * unit || (rest = h.den * unit && down % 2 = 0)
    then down else down + 1
  let farther := if nearer = down then down + 1 else down
  if fits nearer then some ⟨nearer, place⟩
  else if fits farther then some ⟨farther, place⟩
  else none

/-- Grids from coarse to fine until one of them has a number that reads back. -/
def Neighbourhood.search (h : Neighbourhood) : Nat → Int → Scientific
  | 0, place => (h.onGrid? place).getD ⟨0, place⟩
  | finer + 1, place =>
    match h.onGrid? place with
    | some x => x
    | none => h.search finer (place - 1)

def Binary64.shortest (x : Binary64) : Scientific :=
  if x.isZero then ⟨0, 0⟩
  else
    let h := x.neighbourhood
    dropZeros 20 (h.search 17 (leadingPlace h.value h.den))

/-- The least and greatest place of a leading digit that is written without an exponent, and the
sign that a positive exponent carries. -/
structure NumberFormat where
  leastPlace : Int
  greatestPlace : Int
  exponentSign : String

/-- Digits, point and exponent of a decimal; there is always a digit after the point, except
before an exponent. -/
def NumberFormat.layout (f : NumberFormat) (x : Scientific) : String :=
  let ds := Nat.toDigits 10 x.digits
  let place : Int := (ds.length : Int) + x.exponent - 1
  let zeros (n : Int) : List Char := List.replicate n.toNat '0'
  if x.digits = 0 then "0.0"
  else if f.leastPlace ≤ place && place ≤ f.greatestPlace then
    String.ofList <|
      if 0 ≤ x.exponent then ds ++ zeros x.exponent ++ ['.', '0']
      else if 0 ≤ place then ds.take (place + 1).toNat ++ '.' :: ds.drop (place + 1).toNat
      else '0' :: '.' :: zeros (-place - 1) ++ ds
  else
    let head := match ds with
      | [] => []
      | [d] => [d]
      | d :: rest => d :: '.' :: rest
    String.ofList head ++ "e" ++ (if 0 ≤ place then f.exponentSign else "") ++ toString place

def NumberFormat.text (f : NumberFormat) (x : Binary64) : String :=
  (if x.negative then "-" else "") ++ f.layout x.shortest

end Webprint.Decimal
