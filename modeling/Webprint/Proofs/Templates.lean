import Webprint.Proofs.Pieces
import Webprint.Proofs.Steps

set_option autoImplicit false

/-!
# Templates with chains of choices

A template as its author means it: pieces, and behind them perhaps a chain of choices on ascending
groups, each with a branch that refers to no earlier group. What is left of the chain stands at the
end of the text, as it was written, until the group that it asks for comes up; so it is found there.
-/

namespace Webprint.Version

/-! ## Chains of choices -/

/-- A choice of a chain, without what stands behind it: its group and the branch if the group has
taken something. -/
structure Arm where
  group : Nat
  branch : List Piece
  one_le : 1 ≤ group
  le_nine : group ≤ 9
  branch_ne_nil : branch ≠ []
  plain : ∀ p ∈ branch, p.Plain
  from_group : ∀ p ∈ branch, p.From group

/-- Choices, each standing where the one before it ends, and what stands behind the last. -/
def chain : List Arm → List Piece → List Piece
  | [], last => last
  | a :: arms, last => .group a.group :: .char '?' :: a.branch ++ .char ':' :: chain arms last

/-- A template whose choices are a chain at its end, on ascending groups. -/
structure Template where
  opening : List Piece
  arms : List Arm
  last : List Piece
  opening_plain : ∀ p ∈ opening, p.Plain
  last_plain : ∀ p ∈ last, p.Plain
  ascending : arms.Pairwise (·.group < ·.group)
  last_from : ∀ a ∈ arms, ∀ p ∈ last, p.From a.group

theorem forall_mem_chain {q : Piece → Prop} {arms : List Arm} {last : List Piece}
    (hgroup : ∀ a ∈ arms, q (.group a.group)) (hquestion : q (.char '?')) (hcolon : q (.char ':'))
    (hbranch : ∀ a ∈ arms, ∀ p ∈ a.branch, q p) (hlast : ∀ p ∈ last, q p) :
    ∀ p ∈ chain arms last, q p := by
  induction arms with
  | nil => exact hlast
  | cons a arms ih =>
    have hrest := ih (fun b hb => hgroup b (by simp [hb])) fun b hb => hbranch b (by simp [hb])
    intro p hp
    simp only [chain, List.cons_append, List.mem_cons, List.mem_append] at hp
    rcases hp with rfl | rfl | hp | rfl | hp
    · exact hgroup a (by simp)
    · exact hquestion
    · exact hbranch a (by simp) p hp
    · exact hcolon
    · exact hrest p hp

variable {arms : List Arm} {last : List Piece}

theorem sound_chain (hlast : ∀ p ∈ last, p.Plain) : ∀ p ∈ chain arms last, p.Sound :=
  forall_mem_chain (fun a _ => ⟨a.one_le, a.le_nine⟩) (by simp [Piece.Sound])
    (by simp [Piece.Sound])
    (fun a _ p hp => (a.plain p hp).sound) fun p hp => (hlast p hp).sound

theorem newline_not_mem_chain (hlast : ∀ p ∈ last, p.Plain) :
    Piece.char '\n' ∉ chain arms last := by
  have hne : ∀ p ∈ chain arms last, p ≠ .char '\n' :=
    forall_mem_chain (fun _ _ => nofun) (by simp) (by simp)
      (fun a _ p hp => (a.plain p hp).ne_newline) fun p hp => (hlast p hp).ne_newline
  exact fun h => hne _ h rfl

theorem from_chain {i : Nat} (harms : ∀ a ∈ arms, i ≤ a.group) (hlast : ∀ p ∈ last, p.From i) :
    ∀ p ∈ chain arms last, p.From i := by
  refine forall_mem_chain harms trivial trivial (fun a ha p hp => ?_) hlast
  have hfrom := a.from_group p hp
  cases p with
  | char c => trivial
  | group k => exact (harms a ha).trans hfrom

theorem chain_head (hlast : ∀ p ∈ last, p.Plain) (rs : List Piece) :
    chain arms last ≠ .char '?' :: rs := by
  intro h
  cases arms with
  | nil =>
    have hin : Piece.char '?' ∈ last := by rw [show last = _ from h]; simp
    exact (hlast _ hin).ne_question rfl
  | cons a arms => cases h

/-! ## Where the choices of a chain are found -/

theorem choice?_written {i : Nat} (hi : i ≤ 9) {ps qs : List Piece}
    (hps : ∀ p ∈ ps, p.Sound ∧ p ≠ .char '?') (hqs : ∀ q ∈ qs, q.Sound)
    (hhead : ∀ rs, qs ≠ .char '?' :: rs) :
    choice? i (written (ps ++ qs)) = choice? i (written qs) := by
  rw [written_append, choice?_append (free_written hi hps hqs hhead)]

theorem Arm.sound (a : Arm) : ∀ p ∈ a.branch ++ [.char ':'], p.Sound ∧ p ≠ .char '?' := by
  intro p hp
  rcases List.mem_append.1 hp with hp | hp
  · exact ⟨(a.plain p hp).sound, (a.plain p hp).ne_question⟩
  · rw [List.mem_singleton.1 hp]
    simp [Piece.Sound]

theorem choice?_chain_of_ne {i : Nat} (hi : i ≤ 9) (hlast : ∀ p ∈ last, p.Plain) {a : Arm}
    (h : i ≠ a.group) :
    choice? i (written (chain (a :: arms) last)) = choice? i (written (chain arms last)) := by
  have hmark : choiceMark i = ['\\', i.digitChar, '?'] := by rw [choiceMark, reference_eq hi]; rfl
  have hdigit := (digitChar_ne a.group a.le_nine).1
  have htext : written (chain (a :: arms) last) = ['\\', a.group.digitChar, '?'] ++
      written ((a.branch ++ [.char ':']) ++ chain arms last) := by
    simp [chain, Piece.text, reference_eq a.le_nine]
  have hfree : Text.Free (choiceMark i) (written ((a.branch ++ [.char ':']) ++ chain arms last))
      ['\\', a.group.digitChar, '?'] := by
    rw [hmark]
    refine ⟨?_, ?_, ?_, trivial⟩
    · simp only [List.cons_append, List.cons_prefix_cons, true_and]
      exact fun hbegins => h (digitChar_inj hi a.le_nine hbegins.1)
    · simp [List.cons_prefix_cons, hdigit.symm]
    · simp [List.cons_prefix_cons]
  rw [htext, choice?_append hfree,
    choice?_written hi a.sound (sound_chain hlast) (chain_head hlast)]

theorem choice?_chain_self (hlast : ∀ p ∈ last, p.Plain) (a : Arm) :
    choice? a.group (written (chain (a :: arms) last)) =
      some ⟨written (chain (a :: arms) last), written a.branch, written (chain arms last)⟩ := by
  have htext : written (chain (a :: arms) last) = choiceMark a.group ++
      (written a.branch ++ ':' :: written (chain arms last)) := by
    simp [chain, Piece.text, choiceMark]
  have hcolon : ':' ∉ written a.branch := fun h =>
    (a.plain _ (mem_written (by simp) (fun p hp => (a.plain p hp).sound) h)).2.2.1 rfl
  have hnewline : '\n' ∉ written (chain arms last) := fun h =>
    newline_not_mem_chain hlast (mem_written (by simp) (sound_chain hlast) h)
  rw [htext]
  exact choice?_self a.group (written_ne_nil a.branch_ne_nil) hcolon hnewline

theorem choice?_chain_of_forall_ne {i : Nat} (hi : i ≤ 9) (hlast : ∀ p ∈ last, p.Plain)
    (h : ∀ a ∈ arms, i ≠ a.group) : choice? i (written (chain arms last)) = none := by
  induction arms with
  | nil =>
    have hplain : ∀ p ∈ last, p.Sound ∧ p ≠ .char '?' :=
      fun p hp => ⟨(hlast p hp).sound, (hlast p hp).ne_question⟩
    have hnil : choice? i (written (last ++ [])) = choice? i (written []) :=
      choice?_written hi hplain (by simp) (by simp)
    rwa [List.append_nil] at hnil
  | cons a arms ih =>
    rw [choice?_chain_of_ne hi hlast (h a (by simp))]
    exact ih fun b hb => h b (by simp [hb])

/-! ## One group, and all groups -/

theorem choose_of_not_mem {resolved : List Char} (h : '?' ∉ resolved) (template : List Char)
    (i : Nat) (capture : Option (List Char)) : choose template resolved i capture = resolved := by
  rw [choose]
  split
  · rfl
  · rename_i t ht
    obtain ⟨rest, hwhole⟩ := whole_of_choice? ht
    exact Text.replaceFirst_of_not_mem _ (by simp [hwhole]) h

variable {groups : List (Option (List Char))}

/-- What is left of a chain once the choices on groups below `j` are made. -/
def remaining (groups : List (Option (List Char))) (j : Nat) : List Arm → List Piece → List Piece
  | [], last => last
  | a :: arms, last =>
    if j ≤ a.group then chain (a :: arms) last
    else if textOf groups a.group = [] then remaining groups j arms last
    else a.branch

theorem remaining_of_le {j : Nat} (h : ∀ a ∈ arms, j ≤ a.group) :
    remaining groups j arms last = chain arms last := by
  cases arms with
  | nil => rfl
  | cons a arms => exact if_pos (h a (by simp))

theorem choose_chain (hlast : ∀ p ∈ last, p.Plain) (a : Arm) (capture : Option (List Char))
    {front : List Piece} (hfront : ∀ p ∈ front, p.Sound ∧ p ≠ .char '?') :
    choose (written (chain (a :: arms) last)) (written (front ++ chain (a :: arms) last)) a.group
        capture
      = written (front ++ if capture.getD [] = [] then chain arms last else a.branch) := by
  have hsound : ∀ p ∈ chain (a :: arms) last, p.Sound := sound_chain hlast
  have hwhole : written (chain (a :: arms) last) =
      choiceMark a.group ++ written (a.branch ++ .char ':' :: chain arms last) := by
    simp [chain, Piece.text, choiceMark]
  have hfree : Text.Free (written (chain (a :: arms) last)) (written (chain (a :: arms) last))
      (written front) := by
    have hmark := free_written a.le_nine hfront hsound (chain_head hlast)
    have happend := hmark.append (written (a.branch ++ .char ':' :: chain arms last))
    rwa [← hwhole] at happend
  have hne : written (chain (a :: arms) last) ≠ [] := written_ne_nil (List.cons_ne_nil _ _)
  rw [choose, choice?_chain_self hlast, written_append]
  dsimp only
  rw [Text.replaceFirst_append _ hne hfree, written_append]
  congr 1
  rcases capture with _ | _ | ⟨c, s⟩ <;> rfl

theorem choose_remaining {i : Nat} (hi : i ≤ 9) (hlast : ∀ p ∈ last, p.Plain)
    (hascending : arms.Pairwise (·.group < ·.group))
    (hfrom : ∀ a ∈ arms, ∀ p ∈ last, p.From a.group)
    (htext : ∀ k, ∀ c ∈ textOf groups k, (Piece.char c).Sound ∧ Piece.char c ≠ .char '?')
    {capture : Option (List Char)} (hcapture : textOf groups i = capture.getD [])
    {front : List Piece} (hfront : ∀ p ∈ front, p.Sound ∧ p ≠ .char '?') :
    choose (written (chain arms last))
        (written (front ++ (remaining groups i arms last).flatMap (Piece.below groups i))) i capture
      = written (front ++ (remaining groups (i + 1) arms last).flatMap (Piece.below groups i)) := by
  induction arms with
  | nil => exact choose_of_eq_none (choice?_chain_of_forall_ne hi hlast (by simp))
  | cons a arms ih =>
    have hlast_from := hfrom a (by simp)
    rw [List.pairwise_cons] at hascending
    rcases Nat.lt_trichotomy a.group i with hlt | rfl | hgt
    · have hrest := ih hascending.2 fun b hb => hfrom b (by simp [hb])
      have hlt' : a.group < i + 1 := Nat.lt_succ_of_lt hlt
      simp only [remaining, if_neg (Nat.not_le.2 hlt), if_neg (Nat.not_le.2 hlt')]
      split_ifs
      · rw [choose, choice?_chain_of_ne hi hlast (Nat.ne_of_gt hlt)]
        exact hrest
      · -- a branch was taken before, so no choice is left to make
        have hbranch := forall_mem_below htext i fun p hp =>
          a.sound p (List.mem_append_left [.char ':'] hp)
        have hall : ∀ p ∈ front ++ a.branch.flatMap (Piece.below groups i),
            p.Sound ∧ p ≠ .char '?' :=
          fun p hp => (List.mem_append.1 hp).elim (hfront p) (hbranch p)
        have hquestion : '?' ∉ written (front ++ a.branch.flatMap (Piece.below groups i)) :=
          fun h => (hall _ (mem_written (by simp) (fun p hp => (hall p hp).1) h)).2 rfl
        exact choose_of_not_mem hquestion _ _ _
    · have hlater : ∀ b ∈ arms, a.group + 1 ≤ b.group := hascending.1
      have hgroups : ∀ b ∈ a :: arms, a.group ≤ b.group :=
        List.forall_mem_cons.2 ⟨Nat.le_refl _, fun b hb => Nat.le_of_succ_le (hlater b hb)⟩
      have hchain : (chain arms last).flatMap (Piece.below groups a.group) = chain arms last :=
        flatMap_below_of_from (from_chain (fun b hb => hgroups b (by simp [hb])) hlast_from)
      have hbranch : a.branch.flatMap (Piece.below groups a.group) = a.branch :=
        flatMap_below_of_from a.from_group
      have hnext : remaining groups (a.group + 1) (a :: arms) last =
          if capture.getD [] = [] then chain arms last else a.branch := by
        rw [remaining, if_neg (Nat.not_succ_le_self _), hcapture, remaining_of_le hlater]
      rw [remaining_of_le hgroups, flatMap_below_of_from (from_chain hgroups hlast_from),
        choose_chain hlast a capture hfront, hnext]
      split_ifs
      · rw [hchain]
      · rw [hbranch]
    · have hlater : ∀ b ∈ a :: arms, i < b.group :=
        List.forall_mem_cons.2 ⟨hgt, fun b hb => hgt.trans (hascending.1 b hb)⟩
      have hnone := choice?_chain_of_forall_ne hi hlast fun b hb => Nat.ne_of_lt (hlater b hb)
      rw [choose_of_eq_none hnone, remaining_of_le fun b hb => Nat.le_of_lt (hlater b hb),
        remaining_of_le hlater]

theorem sound_remaining (hlast : ∀ p ∈ last, p.Plain) (j : Nat) :
    ∀ p ∈ remaining groups j arms last, p.Sound := by
  induction arms with
  | nil => exact fun p hp => (hlast p hp).sound
  | cons a arms ih =>
    rw [remaining]
    split_ifs
    · exact sound_chain hlast
    · exact ih
    · exact fun p hp => (a.plain p hp).sound

/-- The branch for the first group that has taken something, or else what stands behind them. -/
def selected (groups : List (Option (List Char))) (arms : List Arm) (last : List Piece) :
    List Piece :=
  match arms.find? fun a => !(textOf groups a.group).isEmpty with
  | some a => a.branch
  | none => last

theorem remaining_eq_selected {j : Nat} (h : ∀ a ∈ arms, a.group < j) :
    remaining groups j arms last = selected groups arms last := by
  induction arms with
  | nil => rfl
  | cons a arms ih =>
    have hrest := ih fun b hb => h b (by simp [hb])
    rw [remaining, if_neg (Nat.not_le.2 (h a (by simp))), hrest, selected, selected,
      List.find?_cons]
    cases textOf groups a.group <;> rfl

namespace Template

def text (t : Template) : List Char := written (t.opening ++ chain t.arms t.last)

def filledBelow (t : Template) (groups : List (Option (List Char))) (i : Nat) : List Char :=
  written ((t.opening ++ remaining groups i t.arms t.last).flatMap (Piece.below groups i))

/-- What the author means. -/
def filled (t : Template) (groups : List (Option (List Char))) : List Char :=
  (t.opening ++ selected groups t.arms t.last).flatMap fun
    | .char c => [c]
    | .group k => if k ≤ groups.length then textOf groups k else reference k

variable (t : Template)

theorem fillGroup_filledBelow (hgroups : ∀ s, some s ∈ groups → '\\' ∉ s ∧ '?' ∉ s) {i : Nat}
    (hi : i ≤ 9) {capture : Option (List Char)} (hcapture : textOf groups i = capture.getD []) :
    fillGroup t.text (t.filledBelow groups i) i capture = t.filledBelow groups (i + 1) := by
  have htext : ∀ k, ∀ c ∈ textOf groups k, (Piece.char c).Sound ∧ Piece.char c ≠ .char '?' := by
    intro k c hc
    obtain ⟨s, hs, hin⟩ := mem_textOf hc
    obtain ⟨hslash, hquestion⟩ := hgroups s hs
    exact ⟨fun h => hslash (h ▸ hin), fun h => hquestion (Piece.char.inj h ▸ hin)⟩
  have hopening : ∀ p ∈ t.opening, p.Sound ∧ p ≠ .char '?' := fun p hp =>
    ⟨(t.opening_plain p hp).sound, (t.opening_plain p hp).ne_question⟩
  have hfront := forall_mem_below htext i hopening
  have htemplate : choice? i t.text = choice? i (written (chain t.arms t.last)) :=
    choice?_written hi hopening (sound_chain t.last_plain) (chain_head t.last_plain)
  have hchoose : choose t.text (t.filledBelow groups i) i capture =
      written ((t.opening ++ remaining groups (i + 1) t.arms t.last).flatMap
        (Piece.below groups i)) := by
    have hremaining :=
      choose_remaining hi t.last_plain t.ascending t.last_from htext hcapture hfront
    rw [choose, ← htemplate, ← choose, ← List.flatMap_append, ← List.flatMap_append] at hremaining
    exact hremaining
  have hpieces : ∀ p ∈ t.opening ++ remaining groups (i + 1) t.arms t.last, p.Sound :=
    List.forall_mem_append.2
      ⟨fun p hp => (hopening p hp).1, sound_remaining t.last_plain (i + 1)⟩
  have hsound := forall_mem_below (fun k c hc => (htext k c hc).1) i hpieces
  rw [fillGroup_eq, hchoose, ← hcapture, replaceAll_written hi _ hsound, flatMap_put_below]
  rfl

theorem fillFrom_filledBelow (hgroups : ∀ s, some s ∈ groups → '\\' ∉ s ∧ '?' ∉ s)
    (hlength : groups.length ≤ 9) (rest : List (Option (List Char)))
    {done : List (Option (List Char))} (h : done ++ rest = groups) :
    fillFrom t.text (done.length + 1) rest (t.filledBelow groups (done.length + 1)) =
      t.filledBelow groups (groups.length + 1) := by
  induction rest generalizing done with
  | nil => rw [fillFrom, ← h, List.append_nil]
  | cons capture rest ih =>
    have hi : done.length + 1 ≤ 9 := by
      have hlen := congrArg List.length h
      rw [List.length_append, List.length_cons] at hlen
      omega
    have hcapture : textOf groups (done.length + 1) = capture.getD [] := by simp [textOf, ← h]
    have hdone : done ++ [capture] ++ rest = groups := by simp [h]
    have hnext := ih hdone
    rw [List.length_append, List.length_singleton] at hnext
    rw [fillFrom, t.fillGroup_filledBelow hgroups hi hcapture, hnext]

theorem filledBelow_one (groups : List (Option (List Char))) : t.filledBelow groups 1 = t.text := by
  have hone {p : Piece} (hp : p.Sound) : p.From 1 := by
    cases p with
    | char c => trivial
    | group k => exact hp.1
  have hopening : ∀ p ∈ t.opening, p.From 1 := fun p hp => hone (t.opening_plain p hp).sound
  have hchain : ∀ p ∈ chain t.arms t.last, p.From 1 :=
    fun p hp => hone (sound_chain t.last_plain p hp)
  have hall : ∀ p ∈ t.opening ++ chain t.arms t.last, p.From 1 :=
    fun p hp => (List.mem_append.1 hp).elim (hopening p) (hchain p)
  rw [filledBelow, remaining_of_le fun a _ => a.one_le, flatMap_below_of_from hall, text]

theorem filledBelow_length (h : ∀ a ∈ t.arms, a.group ≤ groups.length) :
    t.filledBelow groups (groups.length + 1) = t.filled groups := by
  rw [filledBelow, remaining_eq_selected fun a ha => Nat.lt_succ_of_le (h a ha), written,
    List.flatMap_assoc, filled]
  congr 1
  funext p
  cases p with
  | char c => rfl
  | group k =>
    simp only [Piece.below, Nat.lt_succ_iff]
    split_ifs
    · exact written_chars _
    · exact List.append_nil _

end Template

/-- A template whose choices are a chain on ascending groups gives what its author means: the
opening and the branch of the first group that has taken something, with the text of every group
that there is in the place of the references to it. -/
theorem resolve?_template (t : Template) (r : Regex) (value : String) (hgroups : r.groups ≤ 10)
    (harms : ∀ a ∈ t.arms, a.group < r.groups) :
    (resolve? (String.ofList t.text) r value = none ↔ r.isMatch value.toList = false) ∧
      ∀ captures, r.captures value.toList = some captures →
        (∀ s, some s ∈ captures.tail → '\\' ∉ s ∧ '?' ∉ s) →
          resolve? (String.ofList t.text) r value =
            some (String.ofList (Text.trim (t.filled captures.tail))) := by
  constructor
  · simp [resolve?, Regex.captures, Regex.isMatch]
  · intro captures hcaptures htexts
    have hlength : captures.tail.length = r.groups - 1 := by
      obtain ⟨slots, -, rfl⟩ := Option.map_eq_some_iff.1 hcaptures
      simp
    have hfill : fillFrom t.text 1 captures.tail t.text = t.filled captures.tail := by
      have hall : [] ++ captures.tail = captures.tail := rfl
      have hrun := t.fillFrom_filledBelow htexts (by omega) captures.tail hall
      rw [List.length_nil, Nat.zero_add, t.filledBelow_one, t.filledBelow_length fun a ha => ?_]
        at hrun
      · exact hrun
      · have hlt := harms a ha
        omega
    rw [resolve?, hcaptures, Option.map_some, String.toList_ofList, fill, hfill]

theorem resolve?_release : ∃ (t : Template) (r : Regex),
    String.ofList t.text = "v\\1\\2?-\\2:\\3?b\\3:\\9" ∧
    Regex.ofString? "^([0-9]+)(?:-(rc))?(?:b([0-9]+))?$" = .ok r ∧
    r.groups ≤ 10 ∧ (∀ a ∈ t.arms, a.group < r.groups) ∧
    r.captures "12b7".toList = some [some "12b7".toList, some "12".toList, none, some "7".toList] ∧
    resolve? "v\\1\\2?-\\2:\\3?b\\3:\\9" r "12b7" = some "v12b7" := by
  let t : Template :=
    { opening := [.char 'v', .group 1]
      arms :=
        [⟨2, [.char '-', .group 2], by simp, by simp, by simp, by simp [Piece.Plain],
            by simp [Piece.From]⟩,
          ⟨3, [.char 'b', .group 3], by simp, by simp, by simp, by simp [Piece.Plain],
            by simp [Piece.From]⟩]
      last := [.group 9]
      opening_plain := by simp [Piece.Plain]
      last_plain := by simp [Piece.Plain]
      ascending := by simp
      last_from := by simp [Piece.From] }
  obtain ⟨r, hr⟩ : ∃ r, Regex.ofString? "^([0-9]+)(?:-(rc))?(?:b([0-9]+))?$" = .ok r :=
    exists_ok_of_isSome (by decide +kernel)
  have hfacts : (Regex.ofString? "^([0-9]+)(?:-(rc))?(?:b([0-9]+))?$").toOption.map
      (fun r => (r.groups, r.captures "12b7".toList)) =
        some (4, some [some "12b7".toList, some "12".toList, none, some "7".toList]) := by
    decide +kernel
  rw [hr] at hfacts
  obtain ⟨hgroups, hcaptures⟩ := Prod.mk.inj (Option.some.inj hfacts)
  have hten : r.groups ≤ 10 := by omega
  have harms : ∀ a ∈ t.arms, a.group < r.groups := by simp [t, hgroups]
  have htext : String.ofList t.text = "v\\1\\2?-\\2:\\3?b\\3:\\9" := by decide +kernel
  have htexts : ∀ s, some s ∈ [some "12".toList, none, some "7".toList] → '\\' ∉ s ∧ '?' ∉ s := by
    intro s hs
    simp only [List.mem_cons, Option.some.injEq, reduceCtorEq, List.not_mem_nil, or_false,
      false_or] at hs
    rcases hs with rfl | rfl <;> decide
  have hresult := (resolve?_template t r "12b7" hten harms).2 _ hcaptures htexts
  rw [htext] at hresult
  exact ⟨t, r, htext, hr, hten, harms, hcaptures, hresult.trans (by decide +kernel)⟩

end Webprint.Version
