import Webprint.Matching
import Webprint.Proofs.Catalogue
import Webprint.Proofs.Gathering

set_option autoImplicit false

/-!
# The order of discovery

Evidence from a page is never synthetic and comes signature by signature, so the technologies that
it is about come up in the order of the catalogue.
-/

namespace Webprint.Matching

/-! ## What a finding says -/

def Concerns (technology : String) (f : Field) (x : Finding) : Prop :=
  x.evidence.technology = technology ∧ x.evidence.origin = .matched f

theorem eq_of_mem_test {technology : String} {f : Field} {key : Option String} {p : Pattern}
    {c : Candidate} {x : Finding} (hx : x ∈ test technology f key p c) :
    ∃ version,
      x = ⟨p, ⟨key, .matched f, technology, p.spec.confidence, p.spec.version, version⟩⟩ := by
  cases c with
  | absent => simp [test] at hx
  | presence => exact ⟨"", by simpa [test] using hx⟩
  | text s =>
    by_cases h : p.isMatch s
    · exact ⟨versionIn p s, by simpa [test, h] using hx⟩
    · simp [test, h] at hx

theorem concerns_test {technology : String} {f : Field} {key : Option String} {p : Pattern}
    {c : Candidate} : ∀ x ∈ test technology f key p c, Concerns technology f x := by
  intro x hx
  obtain ⟨version, rfl⟩ := eq_of_mem_test hx
  exact ⟨rfl, rfl⟩

theorem concerns_matchKeyed {α : Type} {candidate : α → Candidate} {technology : String} {f : Field}
    {es : List KeyedPatterns} {values : MultiMap α} :
    ∀ x ∈ matchKeyed candidate technology f es values, Concerns technology f x := by
  intro x hx
  simp only [matchKeyed, List.mem_flatMap] at hx
  obtain ⟨e, -, p, -, v, -, hx⟩ := hx
  exact concerns_test x hx

theorem concerns_matchField {technology : String} {s : Snapshot} {f : Field} {m : Matcher} :
    ∀ x ∈ matchField technology s f m, Concerns technology f x := by
  intro x hx
  cases m with
  | scalar ps =>
    simp only [matchField] at hx
    split at hx
    · simp at hx
    · obtain ⟨p, -, hx⟩ := List.mem_flatMap.1 hx
      exact concerns_test x hx
  | list ps =>
    simp only [matchField, List.mem_flatMap] at hx
    obtain ⟨text, -, p, -, hx⟩ := hx
    exact concerns_test x hx
  | keyed es =>
    simp only [matchField] at hx
    split at hx
    · split at hx
      · simp at hx
      · exact concerns_matchKeyed x hx
    · split at hx
      · simp at hx
      · exact concerns_matchKeyed x hx

def signatureEvidence (s : Snapshot) (sig : Signature) : List Evidence :=
  (matchSignature s sig).map (·.evidence)

theorem evidence_eq_flatMap (c : Catalogue) (s : Snapshot) :
    evidence c s = c.signatures.flatMap (signatureEvidence s) := by
  rw [evidence, findings, List.map_flatMap]
  rfl

theorem signatureEvidence_spec {s : Snapshot} {sig : Signature} :
    ∀ e ∈ signatureEvidence s sig, e.technology = sig.name ∧ e.isSynthetic = false := by
  intro e he
  obtain ⟨x, hx, rfl⟩ := List.mem_map.1 he
  obtain ⟨⟨f, m⟩, -, hx⟩ := List.mem_flatMap.1 hx
  obtain ⟨htechnology, horigin⟩ := concerns_matchField x hx
  refine ⟨htechnology, ?_⟩
  rw [Evidence.isSynthetic, horigin]
  rfl

theorem not_isSynthetic_evidence {c : Catalogue} {s : Snapshot} {e : Evidence}
    (h : e ∈ evidence c s) : e.isSynthetic = false := by
  rw [evidence_eq_flatMap] at h
  obtain ⟨sig, -, he⟩ := List.mem_flatMap.1 h
  exact (signatureEvidence_spec e he).2

/-! ## Who is found -/

theorem subjects_of_forall_eq {name : String} {es : List Evidence} (hne : es ≠ [])
    (h : ∀ e ∈ es, e.technology = name) : subjects es = [name] := by
  cases es with
  | nil => exact absurd rfl hne
  | cons e es =>
    have he : e.technology = name := h e (by simp)
    have hrest : (es.map (·.technology)).filter (fun n => !n == e.technology) = [] := by
      refine List.filter_eq_nil_iff.2 fun n hn => ?_
      obtain ⟨d, hd, rfl⟩ := List.mem_map.1 hn
      simp [he, h d (by simp [hd])]
    rw [subjects, List.map_cons, List.eraseDups_cons, hrest, he]
    rfl

theorem subjects_append_of_disjoint {es fs : List Evidence}
    (h : ∀ e ∈ es, ∀ f ∈ fs, f.technology ≠ e.technology) :
    subjects (es ++ fs) = subjects es ++ subjects fs := by
  have hremove : (fs.map (·.technology)).removeAll (es.map (·.technology)) =
      fs.map (·.technology) := by
    refine List.filter_eq_self.2 fun n hn => ?_
    obtain ⟨f, hf, rfl⟩ := List.mem_map.1 hn
    have hnot : f.technology ∉ es.map (·.technology) := by
      intro hmem
      obtain ⟨e, he, heq⟩ := List.mem_map.1 hmem
      exact h e he f hf heq.symm
    simpa using hnot
  rw [subjects, List.map_append, List.eraseDups_append, hremove]
  rfl

theorem subjects_flatMap {f : Signature → List Evidence} {ss : List Signature}
    (hf : ∀ sig ∈ ss, ∀ e ∈ f sig, e.technology = sig.name)
    (hdistinct : (ss.map Signature.name).Nodup) :
    subjects (ss.flatMap f) = (ss.filter fun sig => !(f sig).isEmpty).map Signature.name := by
  induction ss with
  | nil => rfl
  | cons sig ss ih =>
    obtain ⟨hsig, hss⟩ := List.nodup_cons.1 hdistinct
    have hrest := ih (fun t ht => hf t (by simp [ht])) hss
    have hown := hf sig (by simp)
    have hdisjoint : ∀ e ∈ f sig, ∀ d ∈ ss.flatMap f, d.technology ≠ e.technology := by
      intro e he d hd heq
      obtain ⟨t, ht, hd⟩ := List.mem_flatMap.1 hd
      rw [hown e he, hf t (by simp [ht]) d hd] at heq
      exact hsig (List.mem_map.2 ⟨t, ht, heq⟩)
    rw [List.flatMap_cons, subjects_append_of_disjoint hdisjoint, hrest]
    by_cases hempty : f sig = []
    · simp [hempty, subjects]
    · rw [subjects_of_forall_eq hempty hown]
      simp [hempty]

def Direct (c : Catalogue) (s : Snapshot) (name : String) : Prop :=
  ∃ e ∈ evidence c s, e.technology = name

instance (c : Catalogue) (s : Snapshot) (name : String) : Decidable (Direct c s name) :=
  inferInstanceAs (Decidable (∃ e ∈ evidence c s, e.technology = name))

def found (c : Catalogue) (s : Snapshot) : List Signature :=
  c.signatures.filter fun sig => Direct c s sig.name

theorem mem_found {c : Catalogue} {s : Snapshot} {sig : Signature} :
    sig ∈ found c s ↔ sig ∈ c.signatures ∧ Direct c s sig.name := by
  simp [found]

theorem ascending_found (c : Catalogue) (s : Snapshot) : Ascending Signature.name (found c s) :=
  c.ascending.filter _

@[simp] theorem mem_subjects_evidence {c : Catalogue} {s : Snapshot} {name : String} :
    name ∈ subjects (evidence c s) ↔ Direct c s name :=
  mem_subjects

theorem signatureEvidence_ne_nil {c : Catalogue} {s : Snapshot} {sig : Signature}
    (h : sig ∈ c.signatures) :
    signatureEvidence s sig ≠ [] ↔ Direct c s sig.name := by
  rw [Direct, evidence_eq_flatMap]
  constructor
  · intro hne
    obtain ⟨e, he⟩ := List.exists_mem_of_ne_nil _ hne
    exact ⟨e, List.mem_flatMap.2 ⟨sig, h, he⟩, (signatureEvidence_spec e he).1⟩
  · rintro ⟨e, he, hname⟩ hnil
    obtain ⟨t, ht, he⟩ := List.mem_flatMap.1 he
    have hts : t.name = sig.name := (signatureEvidence_spec e he).1.symm.trans hname
    rw [Catalogue.eq_of_name ht h hts, hnil] at he
    simp at he

theorem subjects_evidence (c : Catalogue) (s : Snapshot) :
    subjects (evidence c s) = (found c s).map Signature.name := by
  have hfound : found c s = c.signatures.filter fun sig => !(signatureEvidence s sig).isEmpty := by
    refine List.filter_congr fun sig hsig => ?_
    have hne := signatureEvidence_ne_nil (s := s) hsig
    rw [Bool.eq_iff_iff]
    simpa using hne.symm
  rw [hfound, evidence_eq_flatMap]
  exact subjects_flatMap (fun sig _ e he => (signatureEvidence_spec e he).1) c.names_nodup

end Webprint.Matching
