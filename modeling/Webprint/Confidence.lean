set_option autoImplicit false

/-!
# Confidences

Weights of evidence: integers of 64 bits. Sums and products that leave the range stay at its end.
-/

namespace Webprint

namespace Confidence

def least : Int := -9223372036854775808

def greatest : Int := 9223372036854775807

end Confidence

structure Confidence where
  value : Int
  lower : Confidence.least ≤ value
  upper : value ≤ Confidence.greatest
deriving DecidableEq, Repr

namespace Confidence

def clamp (i : Int) : Confidence :=
  if h : i < least then ⟨least, Int.le_refl _, by decide⟩
  else if h' : greatest < i then ⟨greatest, by decide, Int.le_refl _⟩
  else ⟨i, Int.not_lt.1 h, Int.not_lt.1 h'⟩

instance : Inhabited Confidence := ⟨clamp 0⟩

def standard : Confidence := clamp 100

def zero : Confidence := clamp 0

instance : Add Confidence := ⟨fun a b => clamp (a.value + b.value)⟩

instance : Sub Confidence := ⟨fun a b => clamp (a.value - b.value)⟩

instance : Mul Confidence := ⟨fun a b => clamp (a.value * b.value)⟩

/-- The same size with the other sign. The least confidence has no opposite in the range. -/
def opposite? (c : Confidence) : Option Confidence :=
  if h : c.value = least then none
  else some ⟨-c.value,
    by have := c.upper; unfold least greatest at *; omega,
    by have := c.lower; unfold least greatest at *; omega⟩

/-- The given percentage of a confidence, rounded down. The product is clamped before it is
divided. -/
def percent (weight base : Confidence) : Confidence :=
  clamp ((clamp (weight.value * base.value)).value / 100)

instance : ToString Confidence := ⟨fun c => toString c.value⟩

end Confidence

end Webprint
