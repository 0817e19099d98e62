import Webprint.Analysis
import Webprint.Proofs.Relating
import Webprint.Proofs.Scoring

set_option autoImplicit false

/-!
# The outcome for each technology

What an analysis says about a technology, from the evidence about it and from what the others say.
The detections are these outcomes in some order.
-/

namespace Webprint.Analysis

open Relating Scoring

variable (c : Catalogue) (es : List Evidence)

/-! ## Sayings of detected technologies -/

theorem known_aggregate : Known c (aggregate c es) := by
  intro d hd
  rw [aggregate_detections] at hd
  obtain ⟨n, -, rfl⟩ := List.mem_map.1 hd
  rfl

def said : List Evidence := allSayings (aggregate c es)

theorem said_eq_flatMap :
    said c es = (subjects es).flatMap fun n => ((c.get? n).map (sayings n)).getD [] := by
  rw [said, allSayings_eq_told, told, aggregate_detections, List.flatMap_map]
  rfl

/-! ## Outcomes -/

/-- The evidence of others in the outcome for a technology. One that evidence is about hears all
that is said about it; another one only keeps the last implication. -/
def hearsay (name : String) : List Evidence :=
  if name ∈ subjects es then about name (said c es)
  else ((about name (said c es)).filter fun e => e.origin = .implied).getLast?.toList

theorem mem_of_mem_hearsay {c : Catalogue} {es : List Evidence} {name : String} {e : Evidence}
    (h : e ∈ hearsay c es name) : e ∈ about name (said c es) := by
  unfold hearsay at h
  by_cases hdirect : name ∈ subjects es
  · rwa [if_pos hdirect] at h
  · rw [if_neg hdirect, Option.mem_toList] at h
    exact (List.mem_filter.1 (List.mem_of_getLast? h)).1

theorem synthetic_hearsay {name : String} :
    ∀ e ∈ hearsay c es name, e.isSynthetic = true ∧ e.version = "" := by
  intro e he
  exact synthetic_of_mem_allSayings (mem_about.1 (mem_of_mem_hearsay he)).1

def reweigh (d : Detection) : Detection := { d with confidence := boosted d.evidence }

def base : DetectionSet := (resolve c (aggregate c es)).map reweigh fun _ => rfl

def unadjusted (name : String) : Detection :=
  { Detection.ofName c name with
    confidence := boosted (about name es)
    versions := versions (about name es)
    implied := name ∉ subjects es
    evidence := about name es ++ hearsay c es name }

/-- What an analysis says about a technology. -/
def outcome (name : String) : Detection := adjust (base c es) (unadjusted c es name)

/-- The technologies that there are outcomes for: those that evidence is about, and then those that
are only implied. -/
def outcomeNames : List String :=
  subjects es ++ subjects (unmet (aggregate c es) (said c es))

theorem boosted_hearsay (name : String) :
    boosted (about name es ++ hearsay c es name) = boosted (about name es) :=
  boosted_append_synthetic _ fun e he => (synthetic_hearsay c es e he).1

theorem about_unmet {name : String} (h : name ∉ subjects es) :
    about name (unmet (aggregate c es) (said c es)) =
      (about name (said c es)).filter fun e => e.origin = .implied := by
  rw [about, unmet, about, List.filter_filter, List.filter_filter]
  refine List.filter_congr fun e _ => ?_
  rw [names_aggregate]
  by_cases hname : e.technology = name
  · simp [hname, h]
  · simp [hname]

theorem reweigh_heard {name : String} (h : name ∈ subjects es) :
    reweigh (heard (said c es) (weighed c name (about name es))) = unadjusted c es name := by
  have hheard : about name (said c es) = hearsay c es name := (if_pos h).symm
  have hweight := boosted_hearsay c es name
  simp [reweigh, heard, weighed, unadjusted, Detection.ofName, hheard, hweight, h]

theorem reweigh_newcomer {name : String} (h : name ∉ subjects es) :
    reweigh (newcomer c name (about name (unmet (aggregate c es) (said c es))).getLast?) =
      unadjusted c es name := by
  have hheard : (about name (unmet (aggregate c es) (said c es))).getLast?.toList =
      hearsay c es name := by
    rw [about_unmet c es h, hearsay, if_neg h]
  have hweight := boosted_hearsay c es name
  have hnone := about_eq_nil.2 h
  rw [hnone, List.nil_append] at hweight
  simp [reweigh, newcomer, unadjusted, Detection.ofName, hheard, hweight, hnone, h, versions]

theorem base_detections : (base c es).detections = (outcomeNames c es).map (unadjusted c es) := by
  have hresolve : (resolve c (aggregate c es)).detections =
      (aggregate c es).detections.map (heard (said c es)) ++
        (subjects (unmet (aggregate c es) (said c es))).map fun n =>
          newcomer c n (about n (unmet (aggregate c es) (said c es))).getLast? :=
    resolve_detections (known_aggregate c es)
  change (resolve c (aggregate c es)).detections.map reweigh = _
  rw [hresolve, aggregate_detections, outcomeNames, List.map_append, List.map_append, List.map_map,
    List.map_map, List.map_map]
  congr 1
  · exact List.map_congr_left fun n hn => reweigh_heard c es hn
  · refine List.map_congr_left fun n hn => reweigh_newcomer c es ?_
    obtain ⟨e, he, rfl⟩ := mem_subjects.1 hn
    rw [← names_aggregate c es]
    exact (mem_unmet.1 he).2.2

theorem ofEvidence_eq :
    ofEvidence c es = ((outcomeNames c es).map (outcome c es)).mergeSort standsBefore := by
  have hsorted : ofEvidence c es =
      ((base c es).detections.map (adjust (base c es))).mergeSort standsBefore := rfl
  rw [hsorted, base_detections, List.map_map]
  rfl

theorem ofEvidence_perm : (ofEvidence c es).Perm ((outcomeNames c es).map (outcome c es)) := by
  rw [ofEvidence_eq]
  exact List.mergeSort_perm ..

theorem mem_ofEvidence {c : Catalogue} {es : List Evidence} {d : Detection} :
    d ∈ ofEvidence c es ↔ ∃ n ∈ outcomeNames c es, outcome c es n = d := by
  rw [(ofEvidence_perm c es).mem_iff, List.mem_map]

theorem names_ofEvidence :
    ((ofEvidence c es).map Detection.name).Perm (outcomeNames c es) := by
  have hnames : ((outcomeNames c es).map (outcome c es)).map Detection.name =
      outcomeNames c es := by
    rw [List.map_map]
    exact List.map_id _
  rw [← hnames]
  exact (ofEvidence_perm c es).map _

theorem nodup_outcomeNames : (outcomeNames c es).Nodup := by
  have hdistinct := (base c es).distinct
  rw [base_detections, List.map_map] at hdistinct
  simpa [Function.comp_def, unadjusted, Detection.ofName] using hdistinct

theorem get?_base {c : Catalogue} {es : List Evidence} {name : String}
    (h : name ∈ outcomeNames c es) :
    (base c es).get? name = some (unadjusted c es name) := by
  have hin : unadjusted c es name ∈ (base c es).detections := by
    rw [base_detections]
    exact List.mem_map_of_mem h
  exact DetectionSet.get?_eq_some.2 ⟨hin, rfl⟩

/-- A technology that evidence is about passes on a percentage of what that evidence weighs; what is
said about it does not count. -/
theorem referredWeight_base {e : Evidence} {referrer : String} (h : referrer ∈ subjects es)
    (he : e.key = some referrer) :
    referredWeight (base c es) e =
      some (e.confidence.percent (boosted (about referrer es))) := by
  have hget := get?_base (c := c) (List.mem_append.2 (.inl h))
  rw [referredWeight, he, Option.bind_some, hget]
  rfl

end Webprint.Analysis
