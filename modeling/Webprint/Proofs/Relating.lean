import Webprint.Proofs.Catalogue
import Webprint.Proofs.Gathering
import Webprint.Relating

set_option autoImplicit false

/-!
# What relations do to detections

All that the detections say about other technologies is taken as one list of synthetic evidence.
Applying it adds to each detection the evidence about it, and then a detection for each technology
that is only implied, which counts for the last one that implies it.
-/

namespace Webprint.Relating

/-! ## Sayings -/

def sayings (referrer : String) (sig : Signature) : List Evidence :=
  sig.implies.map (fun r => .synthetic .implied referrer r.target r.confidence)
    ++ sig.excludes.map fun r => .synthetic .excluded referrer r.target r.confidence

theorem sayings_of_not_hasRelations (referrer : String) {sig : Signature}
    (h : sig.hasRelations = false) : sayings referrer sig = [] := by
  have hnone : sig.implies = [] ∧ sig.excludes = [] := by
    simpa [Signature.hasRelations] using h
  rw [sayings, hnone.1, hnone.2]
  rfl

theorem mem_sayings {referrer : String} {sig : Signature} {e : Evidence} :
    e ∈ sayings referrer sig ↔
      (∃ r ∈ sig.implies, .synthetic .implied referrer r.target r.confidence = e) ∨
        ∃ r ∈ sig.excludes, .synthetic .excluded referrer r.target r.confidence = e := by
  rw [sayings, List.mem_append, List.mem_map, List.mem_map]

def related (o : Origin) (sig : Signature) : List Relation :=
  match o with
  | .matched _ => []
  | .implied => sig.implies
  | .excluded => sig.excludes

/-- The relations of some signatures onto a technology, each with the name of its signature. -/
def onto (relations : Signature → List Relation) (target : String) (sigs : List Signature) :
    List (String × Relation) :=
  sigs.flatMap fun sig =>
    ((relations sig).filter fun r => r.target = target).map fun r => (sig.name, r)

def saying (o : Origin) (x : String × Relation) : Evidence :=
  .synthetic o x.1 x.2.target x.2.confidence

theorem mem_onto {relations : Signature → List Relation} {target : String} {sigs : List Signature}
    {x : String × Relation} (h : x ∈ onto relations target sigs) :
    ∃ sig ∈ sigs, sig.name = x.1 ∧ x.2 ∈ relations sig ∧ x.2.target = target := by
  obtain ⟨sig, hsig, hx⟩ := List.mem_flatMap.1 h
  obtain ⟨r, hr, rfl⟩ := List.mem_map.1 hx
  obtain ⟨hin, htarget⟩ := List.mem_filter.1 hr
  exact ⟨sig, hsig, rfl, hin, by simpa using htarget⟩

theorem filter_about_sayings (o : Origin) (target : String) (sig : Signature) :
    (about target (sayings sig.name sig)).filter (fun e => e.origin = o) =
      (((related o sig).filter fun r => r.target = target).map fun r => (sig.name, r)).map
        (saying o) := by
  rw [about, sayings, List.filter_filter, List.filter_append, List.filter_map, List.filter_map,
    List.map_map]
  cases o <;> simp [related, saying, Evidence.synthetic, Function.comp_def]

/-- What signatures say about a technology comes from their relations onto it, in order. -/
theorem filter_about_flatMap_sayings (o : Origin) (target : String) (sigs : List Signature) :
    (about target (sigs.flatMap fun sig => sayings sig.name sig)).filter (fun e => e.origin = o) =
      (onto (related o) target sigs).map (saying o) := by
  induction sigs with
  | nil => rfl
  | cons sig sigs ih =>
    rw [List.flatMap_cons, about_append, List.filter_append, ih, filter_about_sayings,
      ← List.map_append]
    rfl

/-- What all detections say about other technologies. -/
def allSayings (s : DetectionSet) : List Evidence :=
  (referrers s).flatMap fun r => sayings r.1 r.2

/-- What some detections say about other technologies, by the detections in order. A signature
without relations says nothing. -/
def told (s : DetectionSet) : List Evidence :=
  s.detections.flatMap fun d => (d.signature.map (sayings d.name)).getD []

theorem allSayings_eq_told (s : DetectionSet) : allSayings s = told s := by
  rw [allSayings, referrers, told]
  induction s.detections with
  | nil => rfl
  | cons d ds ih =>
    rw [List.flatMap_cons, ← ih, List.filterMap_cons]
    cases d.signature with
    | none => rfl
    | some sig =>
      by_cases h : sig.hasRelations
      · simp [h]
      · have hnone := sayings_of_not_hasRelations d.name (by simpa using h)
        simp [h, hnone]

def newcomer (c : Catalogue) (name : String) (saying : Option Evidence) : Detection :=
  { Detection.ofName c name with
    implied := true
    confidence := (saying.map (·.confidence)).getD .zero
    evidence := saying.toList }

/-- One saying is heard: by the detection that it is about or, if there is none and it is an
implication, by those that wait to be added. -/
def hear (c : Catalogue) (st : State) (e : Evidence) : State :=
  if st.present.contains e.technology then
    { st with present := st.present.appendEvidence e.technology e }
  else if e.origin = .implied then
    { st with pending := st.pending.replace (newcomer c e.technology (some e)) }
  else st

theorem synthetic_of_mem_allSayings {s : DetectionSet} {e : Evidence} (h : e ∈ allSayings s) :
    e.isSynthetic = true ∧ e.version = "" := by
  obtain ⟨r, -, he⟩ := List.mem_flatMap.1 h
  obtain ⟨t, -, rfl⟩ | ⟨t, -, rfl⟩ := mem_sayings.1 he
  · exact ⟨rfl, rfl⟩
  · exact ⟨rfl, rfl⟩

theorem imply_eq_hear (c : Catalogue) (referrer : String) (st : State) (r : Relation) :
    imply c referrer st r = hear c st (.synthetic .implied referrer r.target r.confidence) := by
  unfold imply hear
  simp only [Evidence.synthetic, ↓reduceIte]
  rfl

theorem exclude_eq_hear (c : Catalogue) (referrer : String) (st : State) (r : Relation) :
    exclude referrer st r = hear c st (.synthetic .excluded referrer r.target r.confidence) := by
  unfold exclude hear
  by_cases h : st.present.contains r.target
  · simp [Evidence.synthetic, h]
  · have hmem : r.target ∉ st.present.names := by rwa [← DetectionSet.contains_iff]
    simp [Evidence.synthetic, h, DetectionSet.appendEvidence,
      DetectionSet.modify_of_not_mem hmem]

theorem speak_eq_hear (c : Catalogue) (st : State) (referrer : String × Signature) :
    speak c st referrer = (sayings referrer.1 referrer.2).foldl (hear c) st := by
  have himply : imply c referrer.1 =
      fun st r => hear c st (.synthetic .implied referrer.1 r.target r.confidence) := by
    funext st r
    exact imply_eq_hear c referrer.1 st r
  have hexclude : exclude referrer.1 =
      fun st r => hear c st (.synthetic .excluded referrer.1 r.target r.confidence) := by
    funext st r
    exact exclude_eq_hear c referrer.1 st r
  rw [speak, sayings, List.foldl_append, List.foldl_map, List.foldl_map, himply, hexclude]

theorem foldl_speak_eq_hear (c : Catalogue) (st : State) (rs : List (String × Signature)) :
    rs.foldl (speak c) st = (rs.flatMap fun r => sayings r.1 r.2).foldl (hear c) st := by
  induction rs generalizing st with
  | nil => rfl
  | cons r rs ih => rw [List.foldl_cons, List.flatMap_cons, List.foldl_append, ih, speak_eq_hear]

/-! ## What is heard -/

def heard (es : List Evidence) (d : Detection) : Detection :=
  { d with evidence := d.evidence ++ about d.name es }

/-- The implications of technologies that were not detected. -/
def unmet (s : DetectionSet) (es : List Evidence) : List Evidence :=
  es.filter fun e => e.origin = .implied ∧ e.technology ∉ s.names

theorem heard_append (es : List Evidence) (e : Evidence) (d : Detection) :
    heard (es ++ [e]) d =
      if d.name = e.technology then
        { heard es d with evidence := (heard es d).evidence ++ [e] } else heard es d := by
  by_cases h : d.name = e.technology
  · simp [heard, h]
  · simp [heard, h, about_append_other h]

theorem unmet_append (s : DetectionSet) (es : List Evidence) (e : Evidence) :
    unmet s (es ++ [e]) =
      if e.origin = .implied ∧ e.technology ∉ s.names then unmet s es ++ [e] else unmet s es := by
  by_cases h : e.origin = .implied ∧ e.technology ∉ s.names
  · rw [if_pos h]
    simp [unmet, h.1, h.2]
  · rw [if_neg h]
    simp only [unmet, List.filter_append, List.filter_cons, List.filter_nil]
    simp [h]

/-- Replacing again and again leaves a detection for each technology, made for the last evidence. -/
theorem replace_newcomer {c : Catalogue} {p : DetectionSet} {es : List Evidence} {e : Evidence}
    (hp : p.detections = (subjects es).map fun n => newcomer c n (about n es).getLast?) :
    (p.replace (newcomer c e.technology (some e))).detections =
      (subjects (es ++ [e])).map fun n => newcomer c n (about n (es ++ [e])).getLast? := by
  have hnames : p.names = subjects es := DetectionSet.names_of_detections hp fun _ => rfl
  by_cases h : e.technology ∈ subjects es
  · have hin : (newcomer c e.technology (some e)).name ∈ p.names := by rw [hnames]; exact h
    rw [DetectionSet.detections_replace hin, hp, subjects_append_of_mem h, List.map_map]
    refine List.map_congr_left fun n _ => ?_
    by_cases hn : n = e.technology
    · subst hn
      simp [newcomer, Detection.ofName]
    · simp [newcomer, Detection.ofName, about_append_other hn, hn]
  · have hnot : (newcomer c e.technology (some e)).name ∉ p.names := by rw [hnames]; exact h
    rw [DetectionSet.replace_of_not_mem hnot, DetectionSet.detections_insert hnot, hp,
      subjects_append_of_not_mem h, List.map_append]
    congr 1
    · refine List.map_congr_left fun n hn => ?_
      rw [about_append_other (ne_of_mem_of_not_mem hn h)]
    · simp

structure Heard (c : Catalogue) (s : DetectionSet) (es : List Evidence) (st : State) : Prop where
  present : st.present.detections = s.detections.map (heard es)
  pending : st.pending.detections =
    (subjects (unmet s es)).map fun n => newcomer c n (about n (unmet s es)).getLast?

theorem Heard.names {c : Catalogue} {s : DetectionSet} {es : List Evidence} {st : State}
    (h : Heard c s es st) : st.present.names = s.names := by
  rw [DetectionSet.names, h.present, List.map_map]
  rfl

theorem heard_nil (c : Catalogue) (s : DetectionSet) : Heard c s [] ⟨s, .empty⟩ where
  present := by
    have hid : heard [] = id := by
      funext d
      simp [heard, about]
    rw [hid, List.map_id]
  pending := rfl

theorem heard_step {c : Catalogue} {s : DetectionSet} {es : List Evidence} {st : State}
    (h : Heard c s es st) (e : Evidence) : Heard c s (es ++ [e]) (hear c st e) := by
  have hnames := h.names
  by_cases hin : e.technology ∈ s.names
  · have hc : st.present.contains e.technology = true := by simpa [hnames] using hin
    rw [hear, if_pos hc]
    refine ⟨?_, ?_⟩
    · rw [DetectionSet.appendEvidence, DetectionSet.detections_modify, h.present, List.map_map]
      refine List.map_congr_left fun d _ => ?_
      rw [heard_append]
      rfl
    · rw [unmet_append, if_neg fun hn => hn.2 hin]
      exact h.pending
  · have hc : ¬ st.present.contains e.technology = true := by simpa [hnames] using hin
    have hpresent : s.detections.map (heard (es ++ [e])) = s.detections.map (heard es) := by
      refine List.map_congr_left fun d hd => ?_
      have hne : d.name ≠ e.technology := fun heq => hin (List.mem_map.2 ⟨d, hd, heq⟩)
      rw [heard_append, if_neg hne]
    rw [hear, if_neg hc]
    by_cases himp : e.origin = .implied
    · rw [if_pos himp]
      refine ⟨h.present.trans hpresent.symm, ?_⟩
      rw [unmet_append, if_pos ⟨himp, hin⟩]
      exact replace_newcomer h.pending
    · rw [if_neg himp]
      refine ⟨h.present.trans hpresent.symm, ?_⟩
      rw [unmet_append, if_neg fun hn => himp hn.1]
      exact h.pending

theorem heard_run (c : Catalogue) (s : DetectionSet) (es : List Evidence) :
    Heard c s es (es.foldl (hear c) ⟨s, .empty⟩) := by
  induction es using List.reverseRecOn with
  | nil => exact heard_nil c s
  | append_singleton es e ih =>
    rw [List.foldl_append]
    exact heard_step ih e

/-! ## All relations -/

/-- Detections carry the signatures that the catalogue has for their names. -/
def Known (c : Catalogue) (s : DetectionSet) : Prop :=
  ∀ d ∈ s.detections, d.signature = c.get? d.name

theorem detections_foldl_insert (ds : List Detection) (s : DetectionSet)
    (hnew : ∀ d ∈ ds, d.name ∉ s.names) (hdistinct : (ds.map Detection.name).Nodup) :
    (ds.foldl (fun s d => s.insert d) s).detections = s.detections ++ ds := by
  induction ds generalizing s with
  | nil => simp
  | cons d ds ih =>
    obtain ⟨hd, hds⟩ := List.nodup_cons.1 hdistinct
    have hinsert := DetectionSet.detections_insert (hnew d (by simp))
    have hrest : ∀ e ∈ ds, e.name ∉ (s.insert d).names := by
      intro e he
      have hne : e.name ≠ d.name := fun heq => hd (List.mem_map.2 ⟨e, he, heq⟩)
      have hold := hnew e (by simp [he])
      simp only [DetectionSet.names, hinsert, List.map_append] at hold ⊢
      simp [hold, hne]
    rw [List.foldl_cons, ih (s.insert d) hrest hds, hinsert]
    simp

/-- In a catalogue without relations nobody speaks. -/
theorem referrers_of_not_hasRelations {c : Catalogue} {s : DetectionSet} (hs : Known c s)
    (h : c.hasRelations = false) : referrers s = [] := by
  refine List.filterMap_eq_nil_iff.2 fun d hd => ?_
  cases hsig : d.signature with
  | none => rfl
  | some sig =>
    have hmem : sig ∈ c.signatures := (Catalogue.get?_eq_some.1 ((hs d hd).symm.trans hsig)).1
    have hrel : sig.hasRelations = false := by
      rw [c.hasRelations_eq, List.any_eq_false] at h
      simpa using h sig hmem
    simp [hrel]

theorem mem_unmet {s : DetectionSet} {es : List Evidence} {e : Evidence} :
    e ∈ unmet s es ↔ e ∈ es ∧ e.origin = .implied ∧ e.technology ∉ s.names := by
  simp [unmet]

/-- The relations of all detections, applied without asking first whether there are any. -/
def resolveAll (c : Catalogue) (s : DetectionSet) : DetectionSet :=
  let st := (referrers s).foldl (speak c) ⟨s, .empty⟩
  st.pending.detections.foldl (fun s d => s.insert d) st.present

/-- To ask first changes nothing, as long as the detections are of the catalogue. -/
theorem resolve_eq_resolveAll {c : Catalogue} {s : DetectionSet} (hs : Known c s) :
    resolve c s = resolveAll c s := by
  by_cases h : c.hasRelations
  · exact if_neg (by simp [h])
  · rw [resolve, if_pos (by simpa using h), resolveAll,
      referrers_of_not_hasRelations hs (by simpa using h)]
    rfl

theorem detections_resolveAll (c : Catalogue) (s : DetectionSet) :
    (resolveAll c s).detections =
      s.detections.map (heard (allSayings s)) ++
        (subjects (unmet s (allSayings s))).map fun n =>
          newcomer c n (about n (unmet s (allSayings s))).getLast? := by
  have hrun := heard_run c s (allSayings s)
  have hstate : (referrers s).foldl (speak c) ⟨s, .empty⟩ =
      (allSayings s).foldl (hear c) ⟨s, .empty⟩ := foldl_speak_eq_hear c _ _
  rw [resolveAll, hstate, detections_foldl_insert, hrun.present, hrun.pending]
  · rw [hrun.pending, hrun.names]
    intro d hd
    obtain ⟨n, hn, rfl⟩ := List.mem_map.1 hd
    obtain ⟨e, he, rfl⟩ := mem_subjects.1 hn
    exact (mem_unmet.1 he).2.2
  · exact DetectionSet.distinct _

/-- What relations leave: every detection with what it has heard, and then a detection for each
technology that is implied and was not detected, made for the last one that implies it. -/
theorem resolve_detections {c : Catalogue} {s : DetectionSet} (hs : Known c s) :
    (resolve c s).detections =
      s.detections.map (heard (allSayings s)) ++
        (subjects (unmet s (allSayings s))).map fun n =>
          newcomer c n (about n (unmet s (allSayings s))).getLast? := by
  rw [resolve_eq_resolveAll hs, detections_resolveAll]

end Webprint.Relating
