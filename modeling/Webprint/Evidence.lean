import Webprint.Confidence
import Webprint.Field
import Webprint.Json.Value

set_option autoImplicit false

/-!
# Evidence

One reason to believe that a page uses a technology, or not to: a pattern that matched, or a relation
with another technology. The second kind is synthetic; it stands under the name of the technology
that it comes from and has no version.
-/

namespace Webprint

inductive Origin where
  | matched (f : Field)
  | implied
  | excluded
deriving DecidableEq, Repr

namespace Origin

def name : Origin → String
  | .matched f => f.name
  | .implied => "implied"
  | .excluded => "excluded"

def isSynthetic : Origin → Bool
  | .matched _ => false
  | .implied => true
  | .excluded => true

end Origin

structure Evidence where
  key : Option String
  origin : Origin
  technology : String
  confidence : Confidence
  versionTemplate : String
  version : String
deriving DecidableEq, Repr

namespace Evidence

def synthetic (origin : Origin) (referrer target : String) (confidence : Confidence) : Evidence :=
  ⟨some referrer, origin, target, confidence, "", ""⟩

def isSynthetic (e : Evidence) : Bool := e.origin.isSynthetic

def hasVersion (e : Evidence) : Bool := !e.version.isEmpty

def toJson (e : Evidence) : Json.Value :=
  .object
    [("key", .ofOption .string e.key), ("field", .string e.origin.name),
      ("techName", .string e.technology), ("confidence", .int e.confidence.value),
      ("versionTemplate", .string e.versionTemplate), ("resolvedVersion", .string e.version)]

end Evidence

end Webprint
