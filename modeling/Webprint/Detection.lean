import Webprint.Catalogue
import Webprint.Decimal.Binary64
import Webprint.Evidence

set_option autoImplicit false

/-!
# Detections

What an analysis says about one technology: how much is to be said for it, in which versions, and
from which evidence.
-/

namespace Webprint

structure Detection where
  name : String
  /-- The technology's signature; none if it is only known from a relation. -/
  signature : Option Signature
  confidence : Confidence := .zero
  versions : List String := []
  bestVersion : Option String := none
  /-- It was not found itself, but follows from others. -/
  implied : Bool := false
  evidence : List Evidence := []

namespace Detection

def ofName (c : Catalogue) (name : String) : Detection := { name, signature := c.get? name }

def profile? (d : Detection) : Option Profile := d.signature.map (·.profile)

def doubleOf (i : Int) : Decimal.Binary64 :=
  (Decimal.Binary64.ofRatio (i < 0) i.natAbs 1).getD ⟨0⟩

def impliedDivisor : Decimal.Binary64 := ⟨0x3ff8000000000000⟩

/-- What detections are ranked by: the confidence as a double, divided by one and a half if the
detection is implied. -/
def rankScore (d : Detection) : Decimal.Binary64 :=
  let x := doubleOf d.confidence.value
  if d.implied then (x.div? impliedDivisor).getD x else x

def display (d : Detection) : String :=
  match d.bestVersion with
  | some v => d.name ++ " " ++ v ++ " (" ++ toString d.confidence ++ ")"
  | none => d.name ++ " (" ++ toString d.confidence ++ ")"

open Json (Value) in
/-- The report of a detection. What only a signature can tell is null without one. -/
def toJson (d : Detection) : Value :=
  let p := d.profile?
  .object
    [("name", .string d.name), ("confidence", .int d.confidence.value),
      ("versions", .strings d.versions), ("bestVersion", .ofOption .string d.bestVersion),
      ("implied", .bool d.implied),
      ("categories", .ofOption (fun p : Profile => .strings p.categories) p),
      ("icon", .ofOption (fun p : Profile => .string p.icon) p),
      ("slug", .ofOption (fun p : Profile => .string p.slug) p),
      ("cpe", .ofOption .string (p.bind (·.cpe))),
      ("website", .ofOption .string (p.bind (·.website))),
      ("description", .ofOption .string (p.bind (·.description))),
      ("raw", .array (d.evidence.map Evidence.toJson))]

end Detection

end Webprint
