set_option autoImplicit false

/-!
# Binary floating point

Doubles as their 64 bits, with exact arithmetic on what they stand for: `ofRatio` is the double
nearest to a fraction, ties going to the even significand, and products and quotients are the
doubles nearest to the exact ones.
-/

namespace Webprint.Decimal

/-- A double in the interchange format: sign, eleven bits of exponent, fifty-two of fraction. -/
structure Binary64 where
  bits : UInt64
deriving Repr, DecidableEq

namespace Binary64

def negative (x : Binary64) : Bool := Nat.pow 2 63 ≤ x.bits.toNat

def biased (x : Binary64) : Nat := x.bits.toNat / Nat.pow 2 52 % Nat.pow 2 11

def fraction (x : Binary64) : Nat := x.bits.toNat % Nat.pow 2 52

/-- The size of a finite double is `significand * 2 ^ exponent`. -/
def significand (x : Binary64) : Nat :=
  if x.biased = 0 then x.fraction else x.fraction + Nat.pow 2 52

def exponent (x : Binary64) : Int :=
  if x.biased = 0 then -1074 else (x.biased : Int) - 1075

def scale (num den : Nat) (e : Int) : Nat × Nat :=
  if 0 ≤ e then (num * Nat.pow 2 e.toNat, den) else (num, den * Nat.pow 2 (-e).toNat)

def ratio (x : Binary64) : Nat × Nat := scale x.significand 1 x.exponent

def ofParts (negative : Bool) (size : Nat) : Binary64 :=
  ⟨UInt64.ofNat ((if negative then Nat.pow 2 63 else 0) + size)⟩

/-- The integer nearest to `num / den`, a half going to the even one. -/
def roundToEven (num den : Nat) : Nat :=
  let q := num / den
  let twice := 2 * (num % den)
  if twice < den then q
  else if den < twice then q + 1
  else if q % 2 = 0 then q else q + 1

/-- The exponent of a double near `num / den`: the one that leaves fifty-three bits before the
point, but never below the smallest. -/
def exponentFor (num den : Nat) : Int :=
  let guess : Int := (Nat.log2 num : Int) - (Nat.log2 den : Int) - 52
  let (n, d) := scale num den (-guess)
  let e := if n < d * Nat.pow 2 52 then guess - 1 else guess
  if e < -1074 then -1074 else e

def sizeFor (q : Nat) (e : Int) : Int :=
  if q < Nat.pow 2 52 then q else (e + 1075) * Nat.pow 2 52 + ((q : Int) - Nat.pow 2 52)

/-- The double nearest to `num / den`; nothing if that is beyond the largest one. -/
def ofRatio (negative : Bool) (num den : Nat) : Option Binary64 :=
  if num = 0 then some (ofParts negative 0)
  else
    let e := exponentFor num den
    let scaled := scale num den (-e)
    let size := sizeFor (roundToEven scaled.1 scaled.2) e
    if 2047 * Nat.pow 2 52 ≤ size then none else some (ofParts negative size.toNat)

def ofNat? (n : Nat) : Option Binary64 := ofRatio false n 1

def isZero (x : Binary64) : Bool := x.significand = 0

def negate (x : Binary64) : Binary64 :=
  ofParts (!x.negative) (x.bits.toNat % Nat.pow 2 63)

def mul? (x y : Binary64) : Option Binary64 :=
  let (a, b) := x.ratio
  let (c, d) := y.ratio
  ofRatio (x.negative != y.negative) (a * c) (b * d)

def div? (x y : Binary64) : Option Binary64 :=
  let (a, b) := x.ratio
  let (c, d) := y.ratio
  ofRatio (x.negative != y.negative) (a * d) (b * c)

/-- A key that orders doubles: negative ones first, and zeros by their sign. -/
def orderKey (x : Binary64) : Int :=
  if x.negative then -(x.bits.toNat % Nat.pow 2 63 : Nat) - 1 else x.bits.toNat

end Binary64

end Webprint.Decimal
