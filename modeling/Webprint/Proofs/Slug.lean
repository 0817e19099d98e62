import Webprint.Proofs.Utf8
import Webprint.Proofs.Words
import Webprint.Slug

set_option autoImplicit false

/-!
# Slugs by words

A slug is written in one pass that only remembers whether a separator is pending. What it comes to
are the words of the name, each character folded, with single hyphens between them. So a name is a
slug already exactly if its slug is the name, and separators between two names only part their slugs.
-/

namespace Webprint

open Text (words)

/-- The characters of words: ASCII letters, digits, underscores and the Latin letters that lose an
accent. -/
def isKept (c : Char) : Bool := c.isAlphanum || c == '_' || (foldAccent? c).isSome

def folded (c : Char) : List Char :=
  if c.isAlphanum || c == '_' then [c.toLower] else ((foldAccent? c).getD "").toList

def slugWords (name : String) : List String :=
  (words isKept name.toList).map fun w => String.ofList (w.flatMap folded)

def isSlugChar (c : Char) : Bool := ('a' ≤ c && c ≤ 'z') || ('0' ≤ c && c ≤ '9') || c == '_'

/-- Words of slug characters with single hyphens between them, or nothing at all. -/
def IsSlug (s : String) : Prop :=
  ∃ ws : List String, (∀ w ∈ ws, w ≠ "" ∧ ∀ c ∈ w.toList, isSlugChar c = true) ∧
    s = "-".intercalate ws

/-- Texts put together with hyphens between those of them that are not empty. -/
def joinedSlugs (ss : List String) : String := "-".intercalate (ss.filter (· ≠ ""))

/-! ## Characters -/

theorem slugPiece?_of_isKept {c : Char} (h : isKept c = true) : slugPiece? c = some (folded c) := by
  by_cases hc : (c.isAlphanum || c == '_') = true
  · simp_all [slugPiece?, folded]
  · cases haccent : foldAccent? c with
    | none => simp_all [isKept]
    | some letters => simp_all [slugPiece?, folded]

theorem slugPiece?_of_not_isKept {c : Char} (h : isKept c = false) : slugPiece? c = none := by
  simp_all [isKept, slugPiece?]

theorem toNat_lt_of_isAlphanum {c : Char} (h : c.isAlphanum = true) : c.toNat < 0x80 := by
  have hranges : (decide ('A'.val ≤ c.val ∧ c.val ≤ 'Z'.val)
      || decide ('a'.val ≤ c.val) && decide (c.val ≤ 'z'.val)
      || decide ('0'.val ≤ c.val) && decide (c.val ≤ '9'.val)) = true := h
  have hvalue : c.toNat = c.val.toNat := rfl
  simp only [Bool.or_eq_true, Bool.and_eq_true, decide_eq_true_eq, UInt32.le_iff_toNat_le] at hranges
  simp only [Char.reduceVal, UInt32.reduceToNat] at hranges
  omega

theorem foldAccent?_letters {c : Char} {letters : String} (h : foldAccent? c = some letters) :
    letters ≠ "" ∧ ∀ d ∈ letters.toList, isSlugChar d = true := by
  unfold foldAccent? at h
  repeat' split at h
  all_goals cases h
  all_goals exact ⟨by decide, List.all_eq_true.1 (by decide)⟩

theorem folded_ne_nil {c : Char} (h : isKept c = true) : folded c ≠ [] := by
  unfold folded
  split_ifs with hc
  · simp
  · have haccent : (foldAccent? c).isSome = true := by simp_all [isKept]
    obtain ⟨letters, hletters⟩ := Option.isSome_iff_exists.1 haccent
    rw [hletters, Option.getD_some]
    simpa using (foldAccent?_letters hletters).1

theorem isSlugChar_of_mem_folded {c d : Char} (hd : d ∈ folded c) : isSlugChar d = true := by
  unfold folded at hd
  split_ifs at hd with hc
  · rw [List.mem_singleton] at hd
    subst hd
    have hascii : c.toNat < 0x80 := by
      rcases Bool.or_eq_true_iff.1 hc with hc | hc
      · exact toNat_lt_of_isAlphanum hc
      · rw [beq_iff_eq.1 hc]
        decide
    exact Text.of_ascii
      (P := fun c => (c.isAlphanum || c == '_') = true → isSlugChar c.toLower = true)
      (by decide) hascii hc
  · cases haccent : foldAccent? c with
    | none => simp [haccent] at hd
    | some letters =>
      rw [haccent, Option.getD_some] at hd
      exact (foldAccent?_letters haccent).2 d hd

/-- Slug characters are kept as they are. -/
theorem folded_of_isSlugChar {c : Char} (h : isSlugChar c = true) :
    isKept c = true ∧ folded c = [c] := by
  have hascii : c.toNat < 0x80 := by
    simp only [isSlugChar, Bool.or_eq_true, Bool.and_eq_true, decide_eq_true_eq, beq_iff_eq] at h
    rcases h with (⟨-, h⟩ | ⟨-, h⟩) | rfl
    · have hle : c.toNat ≤ 'z'.toNat := h
      exact hle.trans_lt (by decide)
    · have hle : c.toNat ≤ '9'.toNat := h
      exact hle.trans_lt (by decide)
    · decide
  have hplain := Text.of_ascii
    (P := fun c => isSlugChar c = true → (c.isAlphanum || c == '_') = true ∧ c.toLower = c)
    (by decide) hascii h
  rw [isKept, folded, hplain.1, hplain.2]
  exact ⟨rfl, rfl⟩

/-! ## One pass -/

/-- Behind a word with a pending separator, every word brings a hyphen. Behind a word without one, its
characters go on until the next separator. -/
theorem slugFrom_true (s : List Char) :
    slugFrom true true s = (words isKept s).flatMap (fun w => '-' :: w.flatMap folded) ∧
      slugFrom true false s = (s.takeWhile isKept).flatMap folded ++
        (words isKept (s.dropWhile isKept)).flatMap (fun w => '-' :: w.flatMap folded) := by
  induction s with
  | nil => exact ⟨rfl, rfl⟩
  | cons c s ih =>
    cases hc : isKept c with
    | true =>
      have hpiece := slugPiece?_of_isKept hc
      rw [Text.words_cons_of_pos hc, List.takeWhile_cons_of_pos hc, List.dropWhile_cons_of_pos hc]
      simp only [slugFrom, hpiece, ih.2, List.flatMap_cons, List.append_assoc]
      exact ⟨by simp, rfl⟩
    | false =>
      have hpiece := slugPiece?_of_not_isKept hc
      have hneg : ¬ isKept c = true := by simp [hc]
      rw [Text.words_cons_of_neg hc, List.takeWhile_cons_of_neg hneg,
        List.dropWhile_cons_of_neg hneg, Text.words_cons_of_neg hc]
      simp only [slugFrom, hpiece]
      exact ⟨ih.1, ih.1⟩

/-- Before the first word nothing is written, whatever separators there are. -/
theorem slugFrom_false (parted : Bool) (s : List Char) :
    slugFrom false parted s = ['-'].intercalate ((words isKept s).map fun w => w.flatMap folded) := by
  induction s generalizing parted with
  | nil => rfl
  | cons c s ih =>
    cases hc : isKept c with
    | true =>
      rw [slugFrom, slugPiece?_of_isKept hc, Text.words_cons_of_pos hc, List.map_cons,
        Text.intercalate_cons, List.flatMap_map, (slugFrom_true s).2, List.flatMap_cons,
        List.append_assoc]
      rfl
    | false => rw [slugFrom, slugPiece?_of_not_isKept hc, Text.words_cons_of_neg hc, ih]

theorem slug_eq (name : String) : slug name = "-".intercalate (slugWords name) := by
  apply String.toList_injective
  rw [slug, slugFrom_false, String.toList_ofList, String.toList_intercalate, slugWords, List.map_map]
  simp only [Function.comp_def, String.toList_ofList]
  rfl

/-! ## Laws -/

theorem slugWord_of_mem {name w : String} (h : w ∈ slugWords name) :
    w ≠ "" ∧ ∀ c ∈ w.toList, isSlugChar c = true := by
  obtain ⟨v, hv, rfl⟩ := List.mem_map.1 h
  obtain ⟨c, v, rfl⟩ := List.exists_cons_of_ne_nil (Text.ne_nil_of_mem_words hv)
  have hc := Text.of_mem_words hv (List.mem_cons_self ..)
  refine ⟨by simp [folded_ne_nil hc], fun d hd => ?_⟩
  rw [String.toList_ofList, List.mem_flatMap] at hd
  obtain ⟨b, -, hd⟩ := hd
  exact isSlugChar_of_mem_folded hd

theorem isSlug_slug (name : String) : IsSlug (slug name) :=
  ⟨slugWords name, fun _ => slugWord_of_mem, slug_eq name⟩

theorem slugWords_intercalate {ws : List String}
    (h : ∀ w ∈ ws, w ≠ "" ∧ ∀ c ∈ w.toList, isSlugChar c = true) :
    slugWords ("-".intercalate ws) = ws := by
  have hsep : isKept '-' = false := by decide
  induction ws with
  | nil => rfl
  | cons w ws ih =>
    obtain ⟨hne, hchars⟩ := h w (by simp)
    have hword : slugWords w = [w] := by
      have hkept : ∀ c ∈ w.toList, isKept c = true :=
        fun c hc => (folded_of_isSlugChar (hchars c hc)).1
      have hfolded : w.toList.flatMap folded = w.toList.flatMap fun c => [c] :=
        List.flatMap_congr fun c hc => (folded_of_isSlugChar (hchars c hc)).2
      rw [slugWords, Text.words_of_forall (by simpa using hne) hkept, List.map_singleton, hfolded,
        List.flatMap_singleton', String.ofList_toList]
    cases ws with
    | nil => rw [String.intercalate_singleton, hword]
    | cons v ws =>
      have hrest := ih fun u hu => h u (List.mem_cons_of_mem _ hu)
      rw [String.intercalate_cons_cons]
      rw [slugWords] at hword hrest ⊢
      rw [String.toList_append, String.toList_append,
        Text.words_append_append (by decide) (by simpa using hsep), List.map_append, hword, hrest]
      rfl

theorem slug_eq_self_iff {name : String} : slug name = name ↔ IsSlug name := by
  constructor
  · intro h
    rw [← h]
    exact isSlug_slug name
  · rintro ⟨ws, hws, rfl⟩
    rw [slug_eq, slugWords_intercalate hws]

theorem slug_eq_empty_iff {name : String} : slug name = "" ↔ slugWords name = [] := by
  rw [slug_eq]
  cases hws : slugWords name with
  | nil => simp
  | cons w ws =>
    have hne : w ≠ "" := (slugWord_of_mem (hws ▸ List.mem_cons_self ..)).1
    cases ws with
    | nil => simpa using hne
    | cons v ws => simp

theorem slug_append_append {s : String} (hne : s ≠ "")
    (hsep : ∀ c ∈ s.toList, isKept c = false) (a b : String) :
    slug (a ++ s ++ b) = joinedSlugs [slug a, slug b] := by
  have hwords : slugWords (a ++ s ++ b) = slugWords a ++ slugWords b := by
    rw [slugWords, String.toList_append, String.toList_append,
      Text.words_append_append (by simpa using hne) hsep, List.map_append]
    rfl
  rw [slug_eq, hwords, joinedSlugs]
  by_cases ha : slugWords a = []
  · rw [ha, List.nil_append, ← slug_eq, slug_eq_empty_iff.2 ha]
    by_cases hb : slug b = "" <;> simp [hb]
  · have hslug : slug a ≠ "" := fun h => ha (slug_eq_empty_iff.1 h)
    by_cases hb : slugWords b = []
    · rw [hb, List.append_nil, ← slug_eq, slug_eq_empty_iff.2 hb]
      simp [hslug]
    · have hslug' : slug b ≠ "" := fun h => hb (slug_eq_empty_iff.1 h)
      rw [String.intercalate_append_of_ne_nil ha hb, ← slug_eq, ← slug_eq]
      simp [hslug, hslug']

/-- A slug is the words of a name, folded, with single hyphens between them. So it is empty or made of
words of small letters, digits and underscores; it is its own slug, and only such texts are; and
separators between two names part their slugs by one hyphen, unless one of them is empty. -/
theorem slug_by_words (name : String) :
    slug name =
        "-".intercalate ((words isKept name.toList).map fun w => String.ofList (w.flatMap folded)) ∧
      IsSlug (slug name) ∧ slug (slug name) = slug name ∧ (slug name = name ↔ IsSlug name) ∧
      ∀ a s b, s ≠ "" → (∀ c ∈ s.toList, isKept c = false) →
        slug (a ++ s ++ b) = joinedSlugs [slug a, slug b] :=
  ⟨slug_eq name, isSlug_slug name, slug_eq_self_iff.2 (isSlug_slug name), slug_eq_self_iff,
    fun a _ b hne hsep => slug_append_append hne hsep a b⟩

theorem slug_by_words_cafe :
    (∀ c ∈ " – ".toList, isKept c = false) ∧
      slug ("Café" ++ " – " ++ "Größe_2") = "cafe-grosse_2" ∧ IsSlug "cafe-grosse_2" := by
  have hnone : (" – ".toList.all fun c => !isKept c) = true := by decide
  have hsep : ∀ c ∈ " – ".toList, isKept c = false := by simpa using List.all_eq_true.1 hnone
  obtain ⟨-, hform, -, -, hjoin⟩ := slug_by_words ("Café" ++ " – " ++ "Größe_2")
  have hslug : slug ("Café" ++ " – " ++ "Größe_2") = "cafe-grosse_2" := by
    rw [hjoin _ _ _ (by decide) hsep]
    decide
  rw [hslug] at hform
  exact ⟨hsep, hslug, hform⟩

end Webprint
