import Webprint.Matching
import Webprint.Relating

set_option autoImplicit false

/-!
# Analysis

From a page to ranked detections: match, gather the evidence by technology, apply the relations
between technologies, and rank.
-/

namespace Webprint.Analysis

/-- The weight that a relation passes on: its percentage of the referrer's own weight; none if the
referrer is not among the detections. -/
def referredWeight (base : DetectionSet) (e : Evidence) : Option Confidence :=
  e.key.bind fun referrer => (base.get? referrer).map fun d => e.confidence.percent d.confidence

def impliedWeight (base : DetectionSet) (es : List Evidence) : Confidence :=
  (((es.find? fun e => e.origin = .implied).bind (referredWeight base))).getD .zero

/-- An implication counts only if it is the first one; of the exclusions the first one whose referrer is
among the detections counts. -/
def excludedWeight (base : DetectionSet) (es : List Evidence) : Confidence :=
  ((es.filter fun e => e.origin = .excluded).findSome? (referredWeight base)).getD .zero

def adjust (base : DetectionSet) (d : Detection) : Detection :=
  { d with
    confidence := d.confidence + impliedWeight base d.evidence - excludedWeight base d.evidence
    bestVersion := Scoring.bestVersion d.evidence }

/-- Whether one detection stands before another that came later: unless it ranks lower. -/
def standsBefore (a b : Detection) : Bool := b.rankScore.orderKey ≤ a.rankScore.orderKey

/-- Weighs all evidence anew, applies what relations pass on, and sorts; detections with equal scores
keep their order. -/
def rank (s : DetectionSet) : List Detection :=
  let base := s.map (fun d => { d with confidence := Scoring.boosted d.evidence }) fun _ => rfl
  (base.map (adjust base) fun _ => rfl).detections.mergeSort standsBefore

def ofEvidence (c : Catalogue) (es : List Evidence) : List Detection :=
  rank (Relating.resolve c (Scoring.aggregate c es))

def analyze (c : Catalogue) (s : Snapshot) : List Detection :=
  ofEvidence c (Matching.evidence c s)

def log (c : Catalogue) (s : Snapshot) : List LogRecord :=
  let found := Matching.findings c s
  Matching.log found ++ Relating.log c (Scoring.aggregate c (found.map (·.evidence)))

def reports (ds : List Detection) : Json.Value := .array (ds.map Detection.toJson)

end Webprint.Analysis
