import Mathlib.Data.List.Nodup
import Webprint.Proofs.Confidence
import Webprint.Proofs.FirstOccurrence
import Webprint.Scoring

set_option autoImplicit false

/-!
# Votes

A vote counts the evidence for each version that is named, whatever stands between. It goes to the
version that weighs more than every other, or else to the one that is named more often than every
other.
-/

namespace Webprint.Scoring

/-! ## Ballots -/

def naming (v : String) (es : List Evidence) : List Evidence := es.filter fun e => e.version = v

def ballotFor (es : List Evidence) (v : String) : Ballot :=
  ⟨v, sum ((naming v es).map (·.confidence)), (naming v es).length⟩

theorem ballotFor_version (es : List Evidence) (v : String) : (ballotFor es v).version = v := rfl

theorem naming_append_own (es : List Evidence) (e : Evidence) :
    naming e.version (es ++ [e]) = naming e.version es ++ [e] := by
  simp [naming]

theorem naming_append_other {v : String} {e : Evidence} (h : e.version ≠ v) (es : List Evidence) :
    naming v (es ++ [e]) = naming v es := by
  simp [naming, h]

theorem naming_eq_nil {v : String} {es : List Evidence} :
    naming v es = [] ↔ v ∉ es.map (·.version) := by
  simp [naming]

theorem ballotFor_append_own (es : List Evidence) (e : Evidence) :
    ballotFor (es ++ [e]) e.version =
      ⟨e.version, (ballotFor es e.version).weight + e.confidence,
        (ballotFor es e.version).count + 1⟩ := by
  simp [ballotFor, naming_append_own, sum]

theorem ballotFor_append_other {v : String} {e : Evidence} (h : e.version ≠ v)
    (es : List Evidence) : ballotFor (es ++ [e]) v = ballotFor es v := by
  rw [ballotFor, naming_append_other h]
  rfl

theorem map_ballotFor_append_other {vs : List String} {e : Evidence} (h : e.version ∉ vs)
    (es : List Evidence) : vs.map (ballotFor (es ++ [e])) = vs.map (ballotFor es) :=
  List.map_congr_left fun _ hv => ballotFor_append_other (ne_of_mem_of_not_mem hv h).symm es

theorem ballotFor_append_new {es : List Evidence} {e : Evidence}
    (h : e.version ∉ es.map (·.version)) :
    ballotFor (es ++ [e]) e.version = ⟨e.version, e.confidence, 1⟩ := by
  have hweight : sum [e.confidence] = e.confidence := by
    apply Confidence.ext
    change Confidence.value (.zero + e.confidence) = _
    rw [Confidence.value_add]
    change Confidence.saturate (0 + e.confidence.value) = _
    rw [Int.zero_add, Confidence.saturate_value]
  rw [ballotFor, naming_append_own, naming_eq_nil.2 h]
  exact congrArg (Ballot.mk e.version · 1) hweight

theorem castVote_of_not_mem {e : Evidence} {bs : List Ballot} (h : e.version ∉ bs.map (·.version)) :
    castVote e bs = bs ++ [⟨e.version, e.confidence, 1⟩] := by
  induction bs with
  | nil => rfl
  | cons b bs ih =>
    rw [List.map_cons, List.mem_cons, not_or] at h
    rw [castVote, if_neg (Ne.symm h.1), ih h.2]
    rfl

theorem castVote_of_mem {es : List Evidence} {e : Evidence} {vs : List String} (hvs : vs.Nodup)
    (h : e.version ∈ vs) :
    castVote e (vs.map (ballotFor es)) = vs.map (ballotFor (es ++ [e])) := by
  induction vs with
  | nil => cases h
  | cons v vs ih =>
    obtain ⟨hv, hvs⟩ := List.nodup_cons.1 hvs
    rw [List.map_cons, castVote, ballotFor_version]
    by_cases heq : v = e.version
    · -- no other ballot is for this version
      subst heq
      rw [if_pos rfl, List.map_cons, ballotFor_append_own, map_ballotFor_append_other hv]
    · have hin : e.version ∈ vs := by simpa [Ne.symm heq] using h
      rw [if_neg heq, ih hvs hin, List.map_cons, ballotFor_append_other (Ne.symm heq)]

/-- The ballots after any evidence: one for each version, in the order in which they come up first. -/
theorem ballots_eq (es : List Evidence) :
    ballots es = (es.map (·.version)).eraseDups.map (ballotFor es) := by
  induction es using List.reverseRecOn with
  | nil => rfl
  | append_singleton es e ih =>
    have hstep : ballots (es ++ [e]) = castVote e (ballots es) := by simp [ballots]
    rw [hstep, ih, List.map_append, List.map_singleton]
    by_cases h : e.version ∈ es.map (·.version)
    · rw [castVote_of_mem (nodup_eraseDups _) (List.mem_eraseDups.2 h), eraseDups_append_of_mem h]
    · have hnew : e.version ∉ (es.map (·.version)).eraseDups := fun hin =>
        h (List.mem_eraseDups.1 hin)
      have hversions : ((es.map (·.version)).eraseDups.map (ballotFor es)).map (·.version) =
          (es.map (·.version)).eraseDups := by
        rw [List.map_map]
        exact List.map_id _
      rw [castVote_of_not_mem (hversions.symm ▸ hnew), eraseDups_append_of_not_mem h,
        List.map_append, map_ballotFor_append_other hnew, List.map_singleton,
        ballotFor_append_new h]

/-! ## Sole winners -/

def Leads {α : Type} (score : α → Int) (as : List α) (a : α) : Prop :=
  a ∈ as ∧ ∀ b ∈ as, b ≠ a → score b < score a

theorem Leads.congr {α : Type} {score : α → Int} {as bs : List α} {a : α}
    (h : ∀ b, b ∈ as ↔ b ∈ bs) : Leads score as a ↔ Leads score bs a := by
  simp only [Leads, h]

theorem uniqueMax?_map {α β : Type} (score : β → Int) (f : α → β) (as : List α) :
    uniqueMax? score (as.map f) = (uniqueMax? (fun a => score (f a)) as).map f := by
  simp only [uniqueMax?, List.map_map, List.filter_map, Function.comp_def]
  cases (as.map fun a => score (f a)).max? with
  | none => rfl
  | some m =>
    dsimp only
    rcases as.filter fun a => score (f a) = m with - | ⟨a, - | ⟨b, rest⟩⟩ <;> rfl

theorem uniqueMax?_eq_some_iff {α : Type} {score : α → Int} {as : List α} (has : as.Nodup) {a : α} :
    uniqueMax? score as = some a ↔ Leads score as a := by
  unfold uniqueMax?
  cases hmax : (as.map score).max? with
  | none =>
    have hnil : as = [] := List.map_eq_nil_iff.1 (List.max?_eq_none_iff.1 hmax)
    simp [hnil, Leads]
  | some m =>
    obtain ⟨hm, hle⟩ := List.max?_eq_some_iff.1 hmax
    have hbound : ∀ b ∈ as, score b ≤ m := fun b hb => hle _ (List.mem_map_of_mem hb)
    constructor
    · intro h
      have hone : (as.filter fun b => score b = m) = [a] := by
        simp only at h
        split at h
        · rename_i heq
          cases h
          exact heq
        · cases h
      have htop {b : α} : b = a ↔ b ∈ as ∧ score b = m := by
        rw [← List.mem_singleton, ← hone]
        simp
      obtain ⟨ha, rfl⟩ := htop.1 rfl
      refine ⟨ha, fun b hb hne => Int.lt_iff_le_and_ne.2 ⟨hbound b hb, fun heq => ?_⟩⟩
      exact hne (htop.2 ⟨hb, heq⟩)
    · rintro ⟨ha, hlead⟩
      obtain ⟨top, htop, rfl⟩ := List.mem_map.1 hm
      have hsame : top = a := by
        by_contra hne
        exact absurd (hbound a ha) (Int.not_le.2 (hlead top htop hne))
      subst hsame
      have hperm : (as.filter fun b => score b = score top).Perm [top] := by
        rw [List.perm_ext_iff_of_nodup (has.filter _) (List.nodup_singleton top)]
        intro b
        rw [List.mem_filter, decide_eq_true_eq, List.mem_singleton]
        constructor
        · rintro ⟨hb, heq⟩
          by_contra hne
          exact absurd heq (Int.ne_of_lt (hlead b hb hne))
        · rintro rfl
          exact ⟨ha, rfl⟩
      simp only [List.perm_singleton.1 hperm]

/-! ## Votes -/

/-- What the evidence for a version weighs: its weights added in order, each sum kept within 64 bits. -/
def weightFor (es : List Evidence) (v : String) : Int :=
  (sum ((naming v es).map (·.confidence))).value

def timesNamed (es : List Evidence) (v : String) : Int := (naming v es).length

/-- A version weighs more than every other one, or else, if none does, it is named more often than
every other one. -/
def Elected (es : List Evidence) (v : String) : Prop :=
  Leads (weightFor es) (es.map (·.version)) v ∨
    (∀ w, ¬ Leads (weightFor es) (es.map (·.version)) w) ∧
      Leads (timesNamed es) (es.map (·.version)) v

theorem vote_eq_some_iff {es : List Evidence} {v : String} : vote es = some v ↔ Elected es v := by
  have hleads {score : String → Int} {w : String} :
      uniqueMax? score (es.map (·.version)).eraseDups = some w ↔
        Leads score (es.map (·.version)) w :=
    (uniqueMax?_eq_some_iff (nodup_eraseDups _)).trans (Leads.congr fun _ => List.mem_eraseDups)
  have hvote : vote es = (uniqueMax? (weightFor es) (es.map (·.version)).eraseDups).or
      (uniqueMax? (timesNamed es) (es.map (·.version)).eraseDups) := by
    unfold vote
    simp only [ballots_eq, uniqueMax?_map, ← Option.map_or]
    rw [Option.map_map]
    exact Option.map_id'
  rw [hvote, Option.or_eq_some_iff, Option.eq_none_iff_forall_ne_some]
  simp only [Ne, hleads]
  rfl

theorem Elected.mem {es : List Evidence} {v : String} (h : Elected es v) :
    v ∈ es.map (·.version) := by
  rcases h with h | ⟨-, h⟩
  · exact h.1
  · exact h.1

end Webprint.Scoring
