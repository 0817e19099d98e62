import Mathlib.Data.List.TakeWhile
import Webprint.Proofs.Search
import Webprint.Proofs.Steps
import Webprint.Version

set_option autoImplicit false

/-!
# Filling in templates

A group is filled in in two halves: the choice on it is made, and then its text takes the place of the
references to it. A text without references stays as it is; so all that a blank template gives is an
empty version.
-/

namespace Webprint

namespace Text

theorem trim_eq_nil {s : List Char} : trim s = [] ↔ ∀ c ∈ s, isBlank c = true := by
  rw [trim, trimEnd, dropEndWhile, trimStart, List.reverse_eq_nil_iff, List.dropWhile_eq_nil_iff]
  constructor
  · intro h c hc
    rw [← List.takeWhile_append_dropWhile (p := isBlank) (l := s), List.mem_append] at hc
    rcases hc with hc | hc
    · exact List.mem_takeWhile_imp hc
    · exact h c (List.mem_reverse.2 hc)
  · intro h c hc
    have hdrop : c ∈ s.dropWhile isBlank := List.mem_reverse.1 hc
    exact h c ((List.dropWhile_sublist _).subset hdrop)

end Text

namespace Version

/-! ## One group in two halves -/

/-- The text once the choice on group `i` is made: the first half of filling in the group. -/
def choose (template resolved : List Char) (i : Nat) (capture : Option (List Char)) : List Char :=
  match choice? i template with
  | none => resolved
  | some t =>
    let branch := match capture with
      | some (_ :: _) => t.whenTaken
      | _ => t.otherwise
    Text.replaceFirst t.whole branch resolved

theorem fillGroup_eq (template resolved : List Char) (i : Nat) (capture : Option (List Char)) :
    fillGroup template resolved i capture =
      Text.replaceAll (reference i) (capture.getD []) (choose template resolved i capture) := rfl

theorem choose_of_eq_none {template resolved : List Char} {i : Nat} {capture : Option (List Char)}
    (h : choice? i template = none) : choose template resolved i capture = resolved := by
  rw [choose, h]

theorem whole_of_choice? {i : Nat} {s : List Char} {t : Choice} (h : choice? i s = some t) :
    ∃ rest, t.whole = reference i ++ '?' :: rest := by
  induction s with
  | nil => cases h
  | cons c s ih =>
    rw [choice?] at h
    split at h
    case h_1 t' hat =>
      obtain rfl := Option.some.inj h
      rw [choiceAt?] at hat
      split at hat
      · cases hat
      · rename_i rest hafter
        have hs := Text.after?_eq_some_iff.1 hafter
        dsimp only at hat
        split at hat
        · cases hat
        · split_ifs at hat
          obtain rfl := Option.some.inj hat
          exact ⟨rest, hs.trans (List.append_assoc ..)⟩
    case h_2 => exact ih h

/-! ## Texts without references -/

def RefersToNone (s : List Char) : Prop := ∀ i, 1 ≤ i → ¬ reference i <:+: s

theorem refersToNone_of_not_mem {s : List Char} (h : '\\' ∉ s) : RefersToNone s :=
  fun _ _ hin => h (hin.subset (by simp [reference]))

theorem fillGroup_of_refersToNone {s : List Char} (h : RefersToNone s) (template : List Char)
    {i : Nat} (hi : 1 ≤ i) (capture : Option (List Char)) :
    fillGroup template s i capture = s := by
  have hchoose : choose template s i capture = s := by
    rw [choose]
    split
    · rfl
    · rename_i t ht
      obtain ⟨rest, hwhole⟩ := whole_of_choice? ht
      have hreference : reference i <:+: t.whole := ⟨[], '?' :: rest, hwhole.symm⟩
      exact Text.replaceFirst_of_not_infix _ fun hin => h i hi (hreference.trans hin)
  rw [fillGroup_eq, hchoose, Text.replaceAll_of_not_infix _ (h i hi)]

theorem fillFrom_of_refersToNone {s : List Char} (h : RefersToNone s) (template : List Char)
    {i : Nat} (hi : 1 ≤ i) (groups : List (Option (List Char))) :
    fillFrom template i groups s = s := by
  induction groups generalizing i with
  | nil => rfl
  | cons capture groups ih =>
    rw [fillFrom, fillGroup_of_refersToNone h template hi, ih (Nat.le_succ_of_le hi)]

theorem fill_of_blank {template : List Char} (h : Text.trim template = [])
    (groups : List (Option (List Char))) : fill template groups = [] := by
  have hslash : '\\' ∉ template := by
    intro hin
    have hblank := Text.trim_eq_nil.1 h _ hin
    revert hblank
    decide
  rw [fill, fillFrom_of_refersToNone (refersToNone_of_not_mem hslash) _ (Nat.le_refl 1), h]

/-! ## Templates for an expression -/

theorem length_tail_captures {r : Regex} {s : List Char} {captures : List (Option (List Char))}
    (h : r.captures s = some captures) : captures.tail.length = r.groups - 1 := by
  obtain ⟨slots, -, rfl⟩ := Option.map_eq_some_iff.1 h
  simp

theorem resolve?_of_fillFrom {template filled : List Char} {r : Regex} {value : String}
    {captures : List (Option (List Char))} (hcaptures : r.captures value.toList = some captures)
    (h : fillFrom template 1 captures.tail template = filled) :
    resolve? (String.ofList template) r value = some (String.ofList (Text.trim filled)) := by
  rw [resolve?, hcaptures, Option.map_some, String.toList_ofList, fill, h]

/-- What an expression computes is known from its source. -/
theorem exists_compiled {α : Type} {f : Regex → α} {x : α} {source : String}
    (h : (Regex.ofString? source).toOption.map f = some x) :
    ∃ r, Regex.ofString? source = .ok r ∧ f r = x := by
  obtain ⟨r, hr, hx⟩ := Option.map_eq_some_iff.1 h
  exact ⟨r, ok_of_toOption hr, hx⟩

end Version

end Webprint
