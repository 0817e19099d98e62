import Mathlib.Data.List.Basic
import Webprint.Proofs.Templates

set_option autoImplicit false

/-!
# Captured text in templates

Groups are filled in one after the other, each in the text that the groups before have left. So what a
group has captured is read again when later groups come up: a backslash in it before the digit of such a
group is a reference to that group. Where this never happens, captured text stays as it is, whatever
characters it holds.
-/

namespace Webprint.Version

/-! ## Reading once more -/

/-- Pieces in which a backslash before the digit of group `i` is taken for a reference to it. -/
def reread (i : Nat) : List Piece → List Piece
  | p :: q :: ps =>
    if p = .char '\\' ∧ q = .char i.digitChar then .group i :: reread i ps
    else p :: reread i (q :: ps)
  | ps => ps

/-- Nothing is taken for a reference to group `i` that was not written as one. -/
def Unread (i : Nat) (ps : List Piece) : Prop := ¬ [.char '\\', .char i.digitChar] <:+: ps

theorem reread_of_unread {i : Nat} {ps : List Piece} (h : Unread i ps) : reread i ps = ps := by
  fun_induction reread i ps with
  | case1 p q ps hpair ih =>
    obtain ⟨rfl, rfl⟩ := hpair
    exact absurd ⟨[], ps, rfl⟩ h
  | case2 p q ps hpair ih => rw [ih fun hin => h (hin.trans (List.suffix_cons p _).isInfix)]
  | case3 ps hshort => rfl

theorem oneDigit_reread {i : Nat} (hlow : 1 ≤ i) (hi : i ≤ 9) {ps : List Piece}
    (hps : ∀ p ∈ ps, p.OneDigit) : ∀ p ∈ reread i ps, p.OneDigit := by
  fun_induction reread i ps with
  | case1 p q ps hpair ih =>
    exact List.forall_mem_cons.2 ⟨⟨hlow, hi⟩, ih fun p hp => hps p (by simp [hp])⟩
  | case2 p q ps hpair ih =>
    exact List.forall_mem_cons.2 ⟨hps p (by simp), ih fun p hp => hps p (by simp [hp])⟩
  | case3 ps hshort => exact hps

theorem oneDigit_put (i : Nat) (new : List Char) {ps : List Piece} (hps : ∀ p ∈ ps, p.OneDigit) :
    ∀ p ∈ ps.flatMap (Piece.put i new), p.OneDigit := by
  intro r hr
  obtain ⟨p, hp, hin⟩ := List.mem_flatMap.1 hr
  cases p with
  | char c =>
    rw [List.mem_singleton.1 hin]
    trivial
  | group k =>
    rw [Piece.put] at hin
    split_ifs at hin
    · obtain ⟨c, -, rfl⟩ := List.mem_map.1 hin
      trivial
    · rw [List.mem_singleton.1 hin]
      exact hps _ hp

theorem replaceAll_reread {i : Nat} (hi : i ≤ 9) (new : List Char) {ps : List Piece}
    (hps : ∀ p ∈ ps, p.OneDigit) :
    Text.replaceAll (reference i) new (written ps) =
      written ((reread i ps).flatMap (Piece.put i new)) := by
  have hdigit : i.digitChar ≠ '\\' := (digitChar_ne i hi).1
  fun_induction reread i ps with
  | case1 p q ps hpair ih =>
    obtain ⟨rfl, rfl⟩ := hpair
    have htext : written (.char '\\' :: .char i.digitChar :: ps) = reference i ++ written ps := by
      rw [reference_eq hi]
      rfl
    rw [htext, List.flatMap_cons, written_append, ← ih fun p hp => hps p (by simp [hp]), Piece.put,
      if_pos rfl, written_chars]
    exact Text.replaceAll_append ..
  | case2 p q ps hpair ih =>
    have hslash : p = .char '\\' → (written (q :: ps)).head? ≠ some i.digitChar := by
      intro hp hq
      exact hpair ⟨hp, Option.some.inj ((head?_written hdigit _).1 hq)⟩
    rw [written_cons, replaceAll_piece hi new (hps p (by simp)) hslash, List.flatMap_cons,
      written_append, ih fun p hp => hps p (by simp [hp])]
  | case3 ps hshort =>
    rcases ps with _ | ⟨p, _ | ⟨q, ps⟩⟩
    · rfl
    · have hend : p = .char '\\' → ([] : List Char).head? ≠ some i.digitChar := by simp
      have hlast := replaceAll_piece hi new (hps p (by simp)) hend
      rw [List.append_nil] at hlast
      rw [List.flatMap_singleton, written_cons, written, List.flatMap_nil, List.append_nil, hlast]
      exact List.append_nil _
    · exact absurd rfl (hshort p q ps)

/-! ## One group after the other -/

/-- The pieces once the groups from number `i` on are filled in, each of them after what the groups
before have left was read once more. -/
def refill : Nat → List (Option (List Char)) → List Piece → List Piece
  | _, [], ps => ps
  | i, capture :: rest, ps =>
    refill (i + 1) rest ((reread i ps).flatMap (Piece.put i (capture.getD [])))

theorem fillFrom_refill {template : List Char} (htemplate : ∀ i, i ≤ 9 → choice? i template = none)
    {i : Nat} (hlow : 1 ≤ i) {rest : List (Option (List Char))} (hlast : i + rest.length ≤ 10)
    {ps : List Piece} (hps : ∀ p ∈ ps, p.OneDigit) :
    fillFrom template i rest (written ps) = written (refill i rest ps) := by
  induction rest generalizing i ps with
  | nil => rfl
  | cons capture rest ih =>
    rw [List.length_cons] at hlast
    have hi : i ≤ 9 := by omega
    have hnext := oneDigit_put i (capture.getD []) (oneDigit_reread hlow hi hps)
    rw [fillFrom, fillGroup_eq, choose_of_eq_none (htemplate i hi), replaceAll_reread hi _ hps,
      ih (by omega) (by omega) hnext, refill]

variable {groups : List (Option (List Char))} {ps : List Piece}

theorem refill_below
    (hread : ∀ i, 1 ≤ i → i ≤ groups.length → Unread i (ps.flatMap (Piece.below groups i)))
    (rest : List (Option (List Char))) {done : List (Option (List Char))}
    (h : done ++ rest = groups) :
    refill (done.length + 1) rest (ps.flatMap (Piece.below groups (done.length + 1))) =
      ps.flatMap (Piece.below groups (groups.length + 1)) := by
  -- on the groups to come; those that are done have taken the place of the references to them
  induction rest generalizing done with
  | nil => rw [refill, ← h, List.append_nil]
  | cons capture rest ih =>
    have hlength : done.length + 1 ≤ groups.length := by
      rw [← h, List.length_append, List.length_cons]
      omega
    have hcapture : textOf groups (done.length + 1) = capture.getD [] := by simp [textOf, ← h]
    have hdone : done ++ [capture] ++ rest = groups := by simp [h]
    have hnext := ih hdone
    rw [List.length_append, List.length_singleton] at hnext
    rw [refill, reread_of_unread (hread _ (by omega) hlength), ← hcapture, flatMap_put_below, hnext]

/-! ## Templates without choices -/

namespace Piece

/-- What may stand in a template without choices for an expression with `n` groups. -/
def Simple (n : Nat) : Piece → Prop
  | .char c => c ≠ '\\' ∧ c ≠ '?'
  | .group k => 1 ≤ k ∧ k ≤ n

def meaning (groups : List (Option (List Char))) : Piece → List Char
  | .char c => [c]
  | .group k => textOf groups k

theorem Simple.sound {n : Nat} (hn : n ≤ 9) {p : Piece} (h : p.Simple n) :
    p.Sound ∧ p ≠ .char '?' := by
  cases p with
  | char c => exact ⟨h.1, fun heq => h.2 (Piece.char.inj heq)⟩
  | group k => exact ⟨⟨h.1, h.2.trans hn⟩, nofun⟩

theorem Simple.from_one {n : Nat} {p : Piece} (h : p.Simple n) : p.From 1 := by
  cases p with
  | char c => trivial
  | group k => exact h.1

end Piece

theorem written_below_length (hps : ∀ p ∈ ps, p.Simple groups.length) :
    written (ps.flatMap (Piece.below groups (groups.length + 1))) =
      ps.flatMap (Piece.meaning groups) := by
  rw [written, List.flatMap_assoc]
  refine List.flatMap_congr fun p hp => ?_
  cases p with
  | char c => rfl
  | group k =>
    have hk : k ≤ groups.length := (hps _ hp).2
    rw [Piece.below, if_pos (Nat.lt_succ_of_le hk)]
    exact written_chars _

/-- A template without choices gives its pieces with the groups filled in one after the other, where
captured text is read once more for each later group. If no backslash in it ever stands before the
digit of the group that comes up, then captured text stays as it is: the template gives what its
pieces stand for. -/
theorem resolve?_written {r : Regex} {value : String} {captures : List (Option (List Char))}
    (hgroups : r.groups ≤ 10) (hps : ∀ p ∈ ps, p.Simple (r.groups - 1))
    (hcaptures : r.captures value.toList = some captures) :
    resolve? (String.ofList (written ps)) r value =
        some (String.ofList (Text.trim (written (refill 1 captures.tail ps)))) ∧
      ((∀ i, 1 ≤ i → i < r.groups → Unread i (ps.flatMap (Piece.below captures.tail i))) →
        resolve? (String.ofList (written ps)) r value =
          some (String.ofList (Text.trim (ps.flatMap (Piece.meaning captures.tail))))) := by
  have hlength := length_tail_captures hcaptures
  have hsound := fun p hp => (hps p hp).sound (by omega)
  have htemplate : ∀ i, i ≤ 9 → choice? i (written ps) = none := by
    intro i hi
    have hnil : choice? i (written (ps ++ [])) = choice? i (written []) :=
      choice?_written hi hsound (by simp) (by simp)
    rwa [List.append_nil] at hnil
  have hfill : fillFrom (written ps) 1 captures.tail (written ps) =
      written (refill 1 captures.tail ps) :=
    fillFrom_refill htemplate (Nat.le_refl 1) (by omega) fun p hp => (hsound p hp).1.oneDigit
  refine ⟨resolve?_of_fillFrom hcaptures hfill, fun hread => ?_⟩
  have hunread : ∀ i, 1 ≤ i → i ≤ captures.tail.length →
      Unread i (ps.flatMap (Piece.below captures.tail i)) :=
    fun i hlow hi => hread i hlow (by omega)
  have hall : [] ++ captures.tail = captures.tail := rfl
  have hrun := refill_below hunread captures.tail hall
  rw [List.length_nil, Nat.zero_add, flatMap_below_of_from fun p hp => (hps p hp).from_one] at hrun
  rw [hrun, written_below_length (hlength ▸ hps)] at hfill
  exact resolve?_of_fillFrom hcaptures hfill

theorem resolve?_written_path : ∃ (ps : List Piece) (r : Regex),
    String.ofList (written ps) = "v\\1-\\2" ∧
    Regex.ofString? "^(.+)-(.+)$" = .ok r ∧
    r.groups ≤ 10 ∧ (∀ p ∈ ps, p.Simple (r.groups - 1)) ∧
    r.captures "a\\1b\\-2".toList =
      some [some "a\\1b\\-2".toList, some "a\\1b\\".toList, some "2".toList] ∧
    resolve? "v\\1-\\2" r "a\\1b\\-2" = some "va\\1b\\-2" := by
  let ps : List Piece := [.char 'v', .group 1, .char '-', .group 2]
  have hfacts : (Regex.ofString? "^(.+)-(.+)$").toOption.map
      (fun r => (r.groups, r.captures "a\\1b\\-2".toList)) =
        some (3, some [some "a\\1b\\-2".toList, some "a\\1b\\".toList, some "2".toList]) := by
    decide +kernel
  obtain ⟨r, hr, hfacts⟩ := exists_compiled hfacts
  obtain ⟨hgroups, hcaptures⟩ := Prod.mk.inj hfacts
  have hten : r.groups ≤ 10 := by omega
  have hps : ∀ p ∈ ps, p.Simple (r.groups - 1) := by simp [ps, hgroups, Piece.Simple]
  have htext : String.ofList (written ps) = "v\\1-\\2" := by decide +kernel
  have hresult := (resolve?_written hten hps hcaptures).2 ?_
  · rw [htext] at hresult
    exact ⟨ps, r, htext, hr, hten, hps, hcaptures, hresult.trans (by decide +kernel)⟩
  · intro i hlow hi
    obtain rfl | rfl : i = 1 ∨ i = 2 := by omega
    · rw [Unread]
      decide +kernel
    · rw [Unread]
      decide +kernel

/-- A captured text that looks like a reference to a later group is taken for one. -/
theorem captured_reference_filled_in :
    ∃ (ps : List Piece) (r : Regex) (captures : List (Option (List Char))),
      Regex.ofString? "^(.+)-(.+)$" = .ok r ∧
        r.groups ≤ 10 ∧ (∀ p ∈ ps, p.Simple (r.groups - 1)) ∧
        r.captures "\\2-x".toList = some captures ∧
        String.ofList (Text.trim (ps.flatMap (Piece.meaning captures.tail))) = "\\2" ∧
        resolve? (String.ofList (written ps)) r "\\2-x" = some "x" := by
  have hfacts : (Regex.ofString? "^(.+)-(.+)$").toOption.map
      (fun r => (r.groups, r.captures "\\2-x".toList)) =
        some (3, some [some "\\2-x".toList, some "\\2".toList, some "x".toList]) := by
    decide +kernel
  have hresult : (Regex.ofString? "^(.+)-(.+)$").toOption.map
      (fun r => resolve? (String.ofList (written [.group 1])) r "\\2-x") = some (some "x") := by
    decide +kernel
  obtain ⟨r, hr, hfacts⟩ := exists_compiled hfacts
  obtain ⟨hgroups, hcaptures⟩ := Prod.mk.inj hfacts
  rw [hr] at hresult
  refine ⟨[.group 1], r, _, hr, by omega, ?_, hcaptures, by decide +kernel,
    Option.some.inj hresult⟩
  simp [Piece.Simple, hgroups]

end Webprint.Version
