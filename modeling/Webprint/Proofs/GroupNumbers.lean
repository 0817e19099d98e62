import Webprint.Proofs.Templates

set_option autoImplicit false

/-!
# Numbers of groups

A template that refers to one group, or is a choice on one. The first nine groups are found under their
numbers, however many there are. A longer number begins with the number of an earlier group, which comes
up first and takes the place of the beginning.
-/

namespace Webprint.Version

/-! ## Texts without references, put together -/

theorem RefersToNone.append {u s : List Char} (h : RefersToNone s) (hu : '\\' ∉ u) :
    RefersToNone (u ++ s) := by
  intro i hi hin
  induction u with
  | nil => exact h i hi hin
  | cons c u ih =>
    rcases List.infix_cons_iff.1 hin with hbegins | hin
    · have hc : '\\' = c := (List.cons_prefix_cons.1 hbegins).1
      exact hu (hc ▸ List.mem_cons_self)
    · exact ih (fun h => hu (by simp [h])) hin

theorem colon_not_mem_reference (i : Nat) : ':' ∉ reference i := by
  intro h
  rcases List.mem_cons.1 h with h | h
  · exact absurd h (by decide)
  · have hdigit : Char.isDigit ':' = true :=
      Nat.isDigit_of_mem_toDigits (by decide) (by decide) h
    exact absurd hdigit (by decide)

structure Branches (whenTaken otherwise : List Char) : Prop where
  ne_nil : whenTaken ≠ []
  no_colon : ':' ∉ whenTaken
  no_newline : '\n' ∉ otherwise
  whenTaken_plain : RefersToNone whenTaken
  otherwise_plain : RefersToNone otherwise

def choiceTail (whenTaken otherwise : List Char) : List Char :=
  '?' :: (whenTaken ++ ':' :: otherwise)

theorem Branches.choiceTail {a b : List Char} (h : Branches a b) :
    RefersToNone (choiceTail a b) := by
  have hboth : RefersToNone (a ++ ':' :: b) := fun i hi hin =>
    (Text.infix_append_cons (colon_not_mem_reference i) hin).elim (h.whenTaken_plain i hi)
      (h.otherwise_plain i hi)
  exact hboth.append (u := ['?']) (by simp)

/-! ## Groups before and behind the one -/

theorem fillFrom_append (template : List Char) (i : Nat) (groups more : List (Option (List Char)))
    (resolved : List Char) :
    fillFrom template i (groups ++ more) resolved =
      fillFrom template (i + groups.length) more (fillFrom template i groups resolved) := by
  induction groups generalizing i resolved with
  | nil => rfl
  | cons capture groups ih =>
    have hnext : i + 1 + groups.length = i + (groups.length + 1) := by omega
    rw [List.cons_append, fillFrom, ih, List.length_cons, hnext, fillFrom]

theorem fillFrom_of_not_infix {template : List Char} {i : Nat} {groups : List (Option (List Char))}
    (h : ∀ j, i ≤ j → j < i + groups.length → ¬ reference j <:+: template) :
    fillFrom template i groups template = template := by
  induction groups generalizing i with
  | nil => rfl
  | cons capture groups ih =>
    rw [List.length_cons] at h
    have hi : ¬ reference i <:+: template := h i (Nat.le_refl i) (by omega)
    have hnone : choice? i template = none :=
      choice?_of_not_infix fun hin => hi ((List.prefix_append _ _).isInfix.trans hin)
    rw [fillFrom, fillGroup_eq, choose_of_eq_none hnone, Text.replaceAll_of_not_infix _ hi,
      ih fun j hj hlt => h j (by omega) (by omega)]

/-- If no group before number `d` is referred to, and none any more once group `d` is filled in, then
only that group counts. -/
theorem fillFrom_one_group {template : List Char} {d : Nat} (hlow : 1 ≤ d)
    {groups : List (Option (List Char))} {capture : Option (List Char)}
    (hcapture : groups[d - 1]? = some capture)
    (hbefore : ∀ i, 1 ≤ i → i < d → ¬ reference i <:+: template)
    (hbehind : RefersToNone (fillGroup template template d capture)) :
    fillFrom template 1 groups template = fillGroup template template d capture := by
  obtain ⟨hlt, rfl⟩ := List.getElem?_eq_some_iff.1 hcapture
  have htake : (groups.take (d - 1)).length = d - 1 := by
    rw [List.length_take]
    omega
  have hsplit : groups.take (d - 1) ++ groups[d - 1] :: groups.drop (d - 1 + 1) = groups := by
    rw [List.getElem_cons_drop, List.take_append_drop]
  have hfirst : fillFrom template 1 (groups.take (d - 1)) template = template :=
    fillFrom_of_not_infix fun j hj hlast => hbefore j hj (by omega)
  have hnumber : 1 + (d - 1) = d := by omega
  conv_lhs => rw [← hsplit]
  rw [fillFrom_append, hfirst, htake, hnumber, fillFrom,
    fillFrom_of_refersToNone hbehind _ (Nat.le_succ_of_le hlow)]

/-! ## A text behind one reference -/

section OneDigit

variable {d : Nat} {tail : List Char}

theorem reference_begins (hd : d ≤ 9) (htail : RefersToNone tail) {i : Nat} (hi : 1 ≤ i)
    {s : List Char} (h : reference i ++ s <:+: reference d ++ tail) :
    reference i ++ s <+: reference d ++ tail := by
  have hrest : RefersToNone (d.digitChar :: tail) :=
    htail.append (u := [d.digitChar]) (by simp [(digitChar_ne d hd).1.symm])
  rw [reference_eq hd] at h ⊢
  refine (List.infix_cons_iff.1 h).resolve_right fun hin => hrest i hi ?_
  exact (List.prefix_append _ _).isInfix.trans hin

theorem not_infix_of_lt (hd : d ≤ 9) (htail : RefersToNone tail) {i : Nat} (hi : 1 ≤ i)
    (hlt : i < d) : ¬ reference i <:+: reference d ++ tail := by
  intro hin
  have hle : i ≤ 9 := hlt.le.trans hd
  rw [← List.append_nil (reference i)] at hin
  have hbegins := reference_begins hd htail hi hin
  rw [List.append_nil, reference_eq hd] at hbegins
  have hhead : some d.digitChar = some i.digitChar :=
    ((reference_prefix_cons_iff hle _ _).1 hbegins).2
  exact hlt.ne (digitChar_inj hd hle (Option.some.inj hhead)).symm

theorem choice?_reference_append (hlow : 1 ≤ d) (hd : d ≤ 9) (htail : RefersToNone tail)
    (hhead : tail.head? ≠ some '?') : choice? d (reference d ++ tail) = none := by
  refine choice?_of_not_infix fun hin => hhead ?_
  obtain ⟨rest, hrest⟩ := reference_begins hd htail hlow hin
  rw [List.append_assoc, List.append_cancel_left_eq] at hrest
  rw [← hrest]
  rfl

theorem fillGroup_reference (hlow : 1 ≤ d) (hd : d ≤ 9) (htail : RefersToNone tail)
    (hhead : tail.head? ≠ some '?') (capture : Option (List Char)) :
    fillGroup (reference d ++ tail) (reference d ++ tail) d capture = capture.getD [] ++ tail := by
  rw [fillGroup_eq, choose_of_eq_none (choice?_reference_append hlow hd htail hhead)]
  refine (Text.replaceAll_append ..).trans ?_
  rw [← reference, Text.replaceAll_of_not_infix _ (htail d hlow)]

variable {groups : List (Option (List Char))}

theorem exists_capture (hlow : 1 ≤ d) (hlength : d ≤ groups.length) :
    ∃ capture, groups[d - 1]? = some capture ∧ textOf groups d = capture.getD [] := by
  have hlt : d - 1 < groups.length := by omega
  refine ⟨groups[d - 1], List.getElem?_eq_getElem hlt, ?_⟩
  rw [textOf, List.getElem?_eq_getElem hlt, Option.join_some]

theorem fillFrom_reference (htexts : ∀ s, some s ∈ groups → '\\' ∉ s) (hlow : 1 ≤ d) (hd : d ≤ 9)
    (hlength : d ≤ groups.length) (htail : RefersToNone tail) (hhead : tail.head? ≠ some '?') :
    fillFrom (reference d ++ tail) 1 groups (reference d ++ tail) = textOf groups d ++ tail := by
  obtain ⟨capture, hcapture, htext⟩ := exists_capture hlow hlength
  have hfill := fillGroup_reference hlow hd htail hhead capture
  have hslash : '\\' ∉ textOf groups d := by
    intro h
    obtain ⟨s, hs, hin⟩ := mem_textOf h
    exact htexts s hs hin
  rw [← htext] at hfill
  rw [fillFrom_one_group hlow hcapture, hfill]
  · exact fun i hi hlt => not_infix_of_lt hd htail hi hlt
  · rw [hfill]
    exact htail.append hslash

/-- The branch that a choice on group `d` comes to. -/
def branchFor (groups : List (Option (List Char))) (d : Nat) (whenTaken otherwise : List Char) :
    List Char :=
  if textOf groups d = [] then otherwise else whenTaken

theorem choose_choice {a b : List Char} (h : Branches a b) {capture : Option (List Char)}
    (htext : textOf groups d = capture.getD []) :
    choose (reference d ++ choiceTail a b) (reference d ++ choiceTail a b) d capture =
      branchFor groups d a b := by
  have hmark : reference d ++ choiceTail a b = choiceMark d ++ (a ++ ':' :: b) := by
    simp [choiceMark, choiceTail]
  have hne : choiceMark d ++ (a ++ ':' :: b) ≠ [] := by simp [choiceMark, reference]
  have hwhole (new : List Char) : Text.replaceFirst (choiceMark d ++ (a ++ ':' :: b)) new
      (choiceMark d ++ (a ++ ':' :: b)) = new :=
    Text.replaceFirst_append new hne (s := []) trivial
  rw [hmark, choose, choice?_self d h.ne_nil h.no_colon h.no_newline, branchFor, htext]
  rcases capture with _ | _ | ⟨c, s⟩ <;> exact hwhole _

theorem fillFrom_choice (hlow : 1 ≤ d) (hd : d ≤ 9) (hlength : d ≤ groups.length)
    {a b : List Char} (h : Branches a b) :
    fillFrom (reference d ++ choiceTail a b) 1 groups (reference d ++ choiceTail a b) =
      branchFor groups d a b := by
  obtain ⟨capture, hcapture, htext⟩ := exists_capture hlow hlength
  have hplain : RefersToNone (branchFor groups d a b) := by
    rw [branchFor]
    split_ifs
    · exact h.otherwise_plain
    · exact h.whenTaken_plain
  have hfill : fillGroup (reference d ++ choiceTail a b) (reference d ++ choiceTail a b) d capture =
      branchFor groups d a b := by
    rw [fillGroup_eq, choose_choice h htext, Text.replaceAll_of_not_infix _ (hplain d hlow)]
  rw [fillFrom_one_group hlow hcapture, hfill]
  · exact fun i hi hlt => not_infix_of_lt hd h.choiceTail hi hlt
  · rw [hfill]
    exact hplain

end OneDigit

/-! ## Numbers of any length -/

theorem exists_first_digit {k : Nat} (hk : 1 ≤ k) :
    ∃ d rest, 1 ≤ d ∧ d ≤ 9 ∧ d ≤ k ∧ Nat.toDigits 10 k = d.digitChar :: rest ∧
      (9 < k → rest ≠ []) := by
  induction k using Nat.strongRecOn with
  | ind k ih =>
    by_cases hsmall : k < 10
    · exact ⟨k, [], hk, by omega, Nat.le_refl k, Nat.toDigits_of_lt_base hsmall, by omega⟩
    · obtain ⟨d, rest, hlow, hd, hle, hdigits, -⟩ := ih (k / 10) (by omega) (by omega)
      refine ⟨d, rest ++ [(k % 10).digitChar], hlow, hd, by omega, ?_, by simp⟩
      rw [Nat.toDigits_of_base_le (by decide) (by omega), hdigits, List.cons_append]

theorem not_mem_digits {k : Nat} {c : Char} {rest : List Char}
    (h : Nat.toDigits 10 k = c :: rest) : '\\' ∉ rest ∧ '?' ∉ rest := by
  have hdigit : ∀ c ∈ rest, c.isDigit := by
    intro c hc
    have hin : c ∈ Nat.toDigits 10 k := by
      rw [h]
      exact List.mem_cons_of_mem _ hc
    exact Nat.isDigit_of_mem_toDigits (by decide) (by decide) hin
  exact ⟨fun hin => absurd (hdigit _ hin) (by decide), fun hin => absurd (hdigit _ hin) (by decide)⟩

/-- Each of the first nine groups is found under its number, and a choice on it comes to the branch for
what it has taken. A number with more digits stands for the text of the group that its first digit is the
number of, with the other digits behind it; it never begins a choice. -/
theorem resolve?_one_group {r : Regex} {value : String} {captures : List (Option (List Char))}
    (hcaptures : r.captures value.toList = some captures)
    (htexts : ∀ s, some s ∈ captures.tail → '\\' ∉ s) {k : Nat} (hk : 1 ≤ k)
    (hgroup : k < r.groups) :
    (k ≤ 9 →
      resolve? (String.ofList (reference k)) r value =
          some (String.ofList (Text.trim (textOf captures.tail k))) ∧
        ∀ a b, Branches a b →
          resolve? (String.ofList (reference k ++ choiceTail a b)) r value =
            some (String.ofList (Text.trim (branchFor captures.tail k a b)))) ∧
    (9 < k → ∃ d rest, 1 ≤ d ∧ d ≤ 9 ∧ rest ≠ [] ∧ Nat.toDigits 10 k = d.digitChar :: rest ∧
      resolve? (String.ofList (reference k)) r value =
          some (String.ofList (Text.trim (textOf captures.tail d ++ rest))) ∧
        ∀ a b, Branches a b →
          resolve? (String.ofList (reference k ++ choiceTail a b)) r value =
            some (String.ofList (Text.trim (textOf captures.tail d ++ (rest ++ choiceTail a b))))) := by
  have hlength := length_tail_captures hcaptures
  refine ⟨fun hnine => ⟨?_, fun a b h => ?_⟩, fun hlong => ?_⟩
  · have hnil : RefersToNone [] := refersToNone_of_not_mem List.not_mem_nil
    have hfill := fillFrom_reference htexts hk hnine (by omega) hnil (by simp)
    rw [List.append_nil, List.append_nil] at hfill
    exact resolve?_of_fillFrom hcaptures hfill
  · exact resolve?_of_fillFrom hcaptures (fillFrom_choice hk hnine (by omega) h)
  · obtain ⟨d, rest, hlow, hd, hle, hdigits, hrest⟩ := exists_first_digit hk
    obtain ⟨hslash, hquestion⟩ := not_mem_digits hdigits
    have hreference : reference k = reference d ++ rest := by
      rw [reference, hdigits, reference_eq hd]
      rfl
    have hhead (s : List Char) : (rest ++ s).head? ≠ some '?' := by
      obtain ⟨c, more, rfl⟩ := List.exists_cons_of_ne_nil (hrest hlong)
      intro h
      exact hquestion (by simp [Option.some.inj h])
    refine ⟨d, rest, hlow, hd, hrest hlong, hdigits, ?_, fun a b h => ?_⟩
    -- group `d` comes up before group `k` and finds its own reference at the beginning
    · have hfill := fillFrom_reference htexts hlow hd (by omega) (refersToNone_of_not_mem hslash)
        (by simpa using hhead [])
      rw [← hreference] at hfill
      exact resolve?_of_fillFrom hcaptures hfill
    · have hfill := fillFrom_reference htexts hlow hd (by omega) (h.choiceTail.append hslash)
        (hhead _)
      rw [← List.append_assoc, ← hreference] at hfill
      exact resolve?_of_fillFrom hcaptures hfill

theorem resolve?_ninth_group : ∃ r : Regex,
    Regex.ofString? "(a)(b)(c)(d)(e)(f)(g)(h)(i)(j)" = .ok r ∧ 9 < r.groups ∧
    resolve? "\\9" r "abcdefghij" = some "i" ∧
    resolve? "\\9?late:soon" r "abcdefghij" = some "late" := by
  have hfacts : (Regex.ofString? "(a)(b)(c)(d)(e)(f)(g)(h)(i)(j)").toOption.map
      (fun r => (r.groups, r.captures "abcdefghij".toList)) =
        some (11, some (some "abcdefghij".toList ::
          "abcdefghij".toList.map fun c => some [c])) := by
    decide +kernel
  obtain ⟨r, hr, hfacts⟩ := exists_compiled hfacts
  obtain ⟨hgroups, hcaptures⟩ := Prod.mk.inj hfacts
  have hnine : 9 < r.groups := by omega
  have htexts : ∀ s, some s ∈ ("abcdefghij".toList.map fun c => some [c]) → '\\' ∉ s := by
    intro s hs
    obtain ⟨c, hc, hcs⟩ := List.mem_map.1 hs
    obtain rfl := Option.some.inj hcs
    rw [List.mem_singleton]
    rintro rfl
    exact absurd hc (by decide +kernel)
  have hbranches : Branches "late".toList "soon".toList :=
    ⟨by decide +kernel, by decide +kernel, by decide +kernel,
      refersToNone_of_not_mem (by decide +kernel), refersToNone_of_not_mem (by decide +kernel)⟩
  obtain ⟨hreference, hchoice⟩ :=
    (resolve?_one_group hcaptures htexts (by decide) hnine).1 (Nat.le_refl 9)
  have htemplate : String.ofList (reference 9) = "\\9" := by decide +kernel
  have hternary : String.ofList (reference 9 ++ choiceTail "late".toList "soon".toList) =
      "\\9?late:soon" := by decide +kernel
  have hbranch := hchoice _ _ hbranches
  rw [htemplate] at hreference
  rw [hternary] at hbranch
  exact ⟨r, hr, hnine, hreference.trans (by decide +kernel), hbranch.trans (by decide +kernel)⟩

/-- The tenth group is out of reach: its number stands for the text of the first one, with a zero behind
it. -/
theorem tenth_group_not_found :
    ∃ r : Regex, Regex.ofString? "(a)(b)(c)(d)(e)(f)(g)(h)(i)(j)" = .ok r ∧
      (∃ captures, r.captures "abcdefghij".toList = some captures ∧
        textOf captures.tail 10 = "j".toList) ∧
      resolve? "\\10" r "abcdefghij" = some "a0" ∧
      resolve? "\\10?late:soon" r "abcdefghij" = some "a0?late:soon" := by
  have hcaptures : (Regex.ofString? "(a)(b)(c)(d)(e)(f)(g)(h)(i)(j)").toOption.map
      (fun r => r.captures "abcdefghij".toList) =
        some (some (some "abcdefghij".toList :: "abcdefghij".toList.map fun c => some [c])) := by
    decide +kernel
  have hresults : (Regex.ofString? "(a)(b)(c)(d)(e)(f)(g)(h)(i)(j)").toOption.map
      (fun r => (resolve? "\\10" r "abcdefghij", resolve? "\\10?late:soon" r "abcdefghij")) =
        some (some "a0", some "a0?late:soon") := by
    decide +kernel
  obtain ⟨r, hr, hcaptures⟩ := exists_compiled hcaptures
  rw [hr] at hresults
  obtain ⟨hreference, hchoice⟩ := Prod.mk.inj (Option.some.inj hresults)
  exact ⟨r, hr, ⟨_, hcaptures, by decide +kernel⟩, hreference, hchoice⟩

end Webprint.Version
