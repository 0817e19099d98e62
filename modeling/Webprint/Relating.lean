import Webprint.Scoring

set_option autoImplicit false

/-!
# Relations between detections

What detections say about other technologies. Only detections that were there before speak. An
implied technology that was not detected becomes a detection of its own, which counts for the last
one that implies it; an excluded technology that was not detected stays out.
-/

namespace Webprint.Relating

def referrers (s : DetectionSet) : List (String × Signature) :=
  s.detections.filterMap fun d =>
    d.signature.bind fun sig => if sig.hasRelations then some (d.name, sig) else none

structure State where
  present : DetectionSet
  pending : DetectionSet

def imply (c : Catalogue) (referrer : String) (st : State) (r : Relation) : State :=
  let e := Evidence.synthetic .implied referrer r.target r.confidence
  if st.present.contains r.target then { st with present := st.present.appendEvidence r.target e }
  else { st with
    pending := st.pending.replace
      { Detection.ofName c r.target with
        implied := true, confidence := r.confidence, evidence := [e] } }

def exclude (referrer : String) (st : State) (r : Relation) : State :=
  { st with
    present := st.present.appendEvidence r.target
      (.synthetic .excluded referrer r.target r.confidence) }

def speak (c : Catalogue) (st : State) (referrer : String × Signature) : State :=
  let st := referrer.2.implies.foldl (imply c referrer.1) st
  referrer.2.excludes.foldl (exclude referrer.1) st

def resolve (c : Catalogue) (s : DetectionSet) : DetectionSet :=
  if !c.hasRelations then s
  else
    let st := (referrers s).foldl (speak c) ⟨s, .empty⟩
    st.pending.detections.foldl (fun s d => s.insert d) st.present

def log (c : Catalogue) (s : DetectionSet) : List LogRecord :=
  let record (referrer verb : String) (r : Relation) : LogRecord :=
    ⟨.debug, referrer ++ " " ++ verb ++ " " ++ r.target ++ " (confidence "
      ++ toString r.confidence ++ ")"⟩
  if !c.hasRelations then []
  else (referrers s).flatMap fun (referrer, sig) =>
    sig.implies.map (record referrer "implies")
      ++ (sig.excludes.filter fun r => s.contains r.target).map (record referrer "excludes")

end Webprint.Relating
