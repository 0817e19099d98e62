import Webprint.Proofs.Relating

set_option autoImplicit false

/-!
# Implied technologies

The relations of some detections leave each of them in its place, with the evidence about it that the
relations give. What comes behind are the technologies that are implied and were not there, and each
of them holds nothing but the last implication of it.
-/

namespace Webprint.Relating

variable {c : Catalogue} {s : DetectionSet}

/-! ## Targets -/

/-- One of the detections implies a technology. -/
def Implies (s : DetectionSet) (target : String) : Prop :=
  ∃ d ∈ s.detections, ∃ sig, d.signature = some sig ∧ ∃ r ∈ sig.implies, r.target = target

theorem mem_told {e : Evidence} :
    e ∈ told s ↔ ∃ d ∈ s.detections, ∃ sig, d.signature = some sig ∧ e ∈ sayings d.name sig := by
  rw [told, List.mem_flatMap]
  refine exists_congr fun d => and_congr_right fun _ => ?_
  cases d.signature with
  | none => simp
  | some sig => simp

theorem exists_implication_iff {target : String} :
    (∃ e ∈ told s, e.origin = .implied ∧ e.technology = target) ↔ Implies s target := by
  constructor
  · rintro ⟨e, he, horigin, rfl⟩
    obtain ⟨d, hd, sig, hsig, he⟩ := mem_told.1 he
    obtain ⟨r, hr, rfl⟩ | ⟨r, -, rfl⟩ := mem_sayings.1 he
    · exact ⟨d, hd, sig, hsig, r, hr, rfl⟩
    · cases horigin
  · rintro ⟨d, hd, sig, hsig, r, hr, rfl⟩
    exact ⟨_, mem_told.2 ⟨d, hd, sig, hsig, mem_sayings.2 (.inl ⟨r, hr, rfl⟩)⟩, rfl, rfl⟩

theorem mem_subjects_unmet_told {name : String} :
    name ∈ subjects (unmet s (told s)) ↔ name ∉ s.names ∧ Implies s name := by
  rw [mem_subjects, ← exists_implication_iff]
  constructor
  · rintro ⟨e, he, rfl⟩
    obtain ⟨he, horigin, hnew⟩ := mem_unmet.1 he
    exact ⟨hnew, e, he, horigin, rfl⟩
  · rintro ⟨hnew, e, he, horigin, rfl⟩
    exact ⟨e, mem_unmet.2 ⟨he, horigin, hnew⟩, rfl⟩

/-! ## Newcomers -/

/-- What a detection looks like that was only made for some implication of it. -/
def madeFor (c : Catalogue) (name : String) (e : Evidence) : Detection where
  name := name
  signature := c.get? name
  confidence := e.confidence
  versions := []
  bestVersion := none
  implied := true
  evidence := [e]

theorem newcomer_unmet (c : Catalogue) {name : String} {es : List Evidence}
    (h : name ∈ subjects (unmet s es)) :
    ∃ e, (about name (unmet s es)).getLast? = some e ∧ e.origin = .implied ∧
      newcomer c name (about name (unmet s es)).getLast? = madeFor c name e := by
  have hne : about name (unmet s es) ≠ [] := fun hnil => about_eq_nil.1 hnil h
  have hlast := List.getLast?_eq_some_getLast hne
  have hmem := (mem_about.1 (List.getLast_mem hne)).1
  exact ⟨_, hlast, (mem_unmet.1 hmem).2.1, by rw [hlast]; rfl⟩

/-- What relations do, whether or not there are any. Detections stay where they are and gain the
evidence about them, by referrer and with its implications first. Behind them stand the technologies
that one of them implies and that were not there, in the order in which they are implied first and
each made for the last implication of it. -/
theorem resolve_keeps_and_adds (h : Known c s) :
    resolve c s = resolveAll c s ∧
      ∃ news, (resolve c s).detections =
          s.detections.map (fun d => { d with evidence := d.evidence ++ about d.name (told s) })
            ++ news ∧
        news.map Detection.name = subjects (unmet s (told s)) ∧
        (∀ name, name ∈ news.map Detection.name ↔ name ∉ s.names ∧ Implies s name) ∧
        ∀ d ∈ news, ∃ e, (about d.name (unmet s (told s))).getLast? = some e ∧
          e.origin = .implied ∧ d = madeFor c d.name e := by
  have hresult := resolve_detections h
  rw [allSayings_eq_told] at hresult
  -- a newcomer is named for the technology that it is made for
  have hnames : ((subjects (unmet s (told s))).map fun n =>
      newcomer c n (about n (unmet s (told s))).getLast?).map Detection.name =
        subjects (unmet s (told s)) := by
    rw [List.map_map]
    exact List.map_id _
  refine ⟨resolve_eq_resolveAll h, _, hresult, hnames, fun name => ?_, fun d hd => ?_⟩
  · rw [hnames, mem_subjects_unmet_told]
  · obtain ⟨n, hn, rfl⟩ := List.mem_map.1 hd
    obtain ⟨e, hlast, horigin, hnew⟩ := newcomer_unmet c hn
    exact ⟨e, hlast, horigin, hnew⟩

def bare (name : String) (implies excludes : List Relation) : Signature where
  profile := { name, slug := name, icon := "default.svg" }
  matchers := .empty
  implies := implies
  excludes := excludes

/-- Two technologies that imply a third one. The first also implies itself and the second, which
excludes it. -/
def tangle : Catalogue :=
  .ofSignatures
    [bare "A" [⟨"X", .clamp 50⟩, ⟨"B", .clamp 40⟩, ⟨"A", .clamp 30⟩] [],
      bare "B" [⟨"Y", .clamp 20⟩, ⟨"X", .clamp 70⟩] [⟨"A", .clamp 10⟩, ⟨"Z", .clamp 60⟩],
      bare "X" [⟨"Z", .clamp 80⟩] [⟨"B", .clamp 90⟩]]

def tangled : DetectionSet :=
  (DetectionSet.empty.push (.ofName tangle "B") rfl).push (.ofName tangle "A") (by decide +kernel)

theorem resolve_keeps_and_adds_tangle :
    Known tangle tangled ∧
      (resolve tangle tangled).detections.map (fun d => (d.name, d.evidence)) =
        [("B", [.synthetic .implied "A" "B" (.clamp 40)]),
          ("A", [.synthetic .excluded "B" "A" (.clamp 10),
            .synthetic .implied "A" "A" (.clamp 30)]),
          ("Y", [.synthetic .implied "B" "Y" (.clamp 20)]),
          ("X", [.synthetic .implied "A" "X" (.clamp 50)])] := by
  have hknown : Known tangle tangled := by
    intro d hd
    obtain rfl | rfl : d = .ofName tangle "B" ∨ d = .ofName tangle "A" := by
      simpa [tangled, DetectionSet.push, DetectionSet.empty] using hd
    · rfl
    · rfl
  obtain ⟨-, news, hresult, hnames, -, hnews⟩ := resolve_keeps_and_adds hknown
  have hsubjects : subjects (unmet tangled (told tangled)) = ["Y", "X"] := by decide +kernel
  have hevidence : news.map Detection.evidence =
      (news.map Detection.name).map fun n =>
        (about n (unmet tangled (told tangled))).getLast?.toList := by
    rw [List.map_map]
    refine List.map_congr_left fun d hd => ?_
    obtain ⟨e, hlast, -, hd⟩ := hnews d hd
    rw [Function.comp_apply, hlast, hd]
    rfl
  rw [hnames] at hevidence
  have hpairs : news.map (fun d => (d.name, d.evidence)) =
      (news.map Detection.name).zip (news.map Detection.evidence) := (List.zip_map' ..).symm
  refine ⟨hknown, ?_⟩
  rw [hresult, List.map_append, hpairs, hnames, hevidence]
  decide +kernel

end Webprint.Relating
