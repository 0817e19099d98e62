import Webprint.DetectionSet

set_option autoImplicit false

/-!
# Scoring

How much the evidence for a technology weighs, which versions it names, and which of them is the
best. Synthetic evidence has no weight of its own here.
-/

namespace Webprint.Scoring

def zeroBoost : Int := 25

def sum (cs : List Confidence) : Confidence := cs.foldl (· + ·) .zero

def ownWeights (es : List Evidence) : List Confidence :=
  (es.filter (!·.isSynthetic)).map (·.confidence)

/-- The sum of all weights, and a boost for each that is zero if any is positive. -/
def boosted (es : List Evidence) : Confidence :=
  let weights := ownWeights es
  let zeros := (weights.filter fun w => w.value = 0).length
  let boost := if weights.any fun w => 0 < w.value then Confidence.clamp (zeroBoost * zeros) else .zero
  sum weights + boost

def versions (es : List Evidence) : List String := (es.filter (·.hasVersion)).map (·.version)

def gather (c : Catalogue) (es : List Evidence) : DetectionSet :=
  es.foldl (fun (s : DetectionSet) e => s.addEvidence (.ofName c e.technology) e) .empty

def aggregate (c : Catalogue) (es : List Evidence) : DetectionSet :=
  (gather c es).map
    (fun d => { d with confidence := boosted d.evidence, versions := versions d.evidence })
    fun _ => rfl

/-! ## The best version -/

structure Ballot where
  version : String
  weight : Confidence
  count : Nat
deriving DecidableEq

def castVote (e : Evidence) : List Ballot → List Ballot
  | [] => [⟨e.version, e.confidence, 1⟩]
  | b :: rest =>
    if b.version = e.version then ⟨b.version, b.weight + e.confidence, b.count + 1⟩ :: rest
    else b :: castVote e rest

def ballots (es : List Evidence) : List Ballot := es.foldl (fun bs e => castVote e bs) []

def uniqueMax? {α : Type} (score : α → Int) (as : List α) : Option α :=
  match (as.map score).max? with
  | none => none
  | some m =>
    match as.filter fun a => score a = m with
    | [a] => some a
    | _ => none

/-- The version with the greatest weight, or else the one named most often, if there is just one. -/
def vote (es : List Evidence) : Option String :=
  let bs := ballots es
  ((uniqueMax? (fun b => b.weight.value) bs).or (uniqueMax? (fun b => (b.count : Int)) bs)).map
    (·.version)

/-- The version that wins among all evidence, or among that of global variables, or among that of
scripts; if none does, the first one. -/
def bestVersion (es : List Evidence) : Option String :=
  let named := es.filter (·.hasVersion)
  let among (f : Field) := vote (named.filter fun e => e.origin = .matched f)
  (((vote named).or (among .js)).or (among .scripts)).or (named.head?.map (·.version))

end Webprint.Scoring
