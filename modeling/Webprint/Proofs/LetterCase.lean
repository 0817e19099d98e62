import Mathlib.Data.List.Basic
import Webprint.Regex.Basic

set_option autoImplicit false

/-!
# Letter case in expressions

An expression is read without regard to letter case, and still a capital can mean something else than
its small letter: behind a backslash, in the name or the flags of a group, in a range of a class. In
a settled text no such construct comes before the last capital, and lower-casing a settled text does
not change the expression that is read.
-/

namespace Webprint.Regex

def lower (c : Char) : Char := Char.ofNat (Unicode.lowerCode c.toNat)

def capitals : List Char :=
  ['A', 'B', 'C', 'D', 'E', 'F', 'G', 'H', 'I', 'J', 'K', 'L', 'M', 'N', 'O', 'P', 'Q', 'R', 'S', 'T',
    'U', 'V', 'W', 'X', 'Y', 'Z']

/-- A character that lower-casing keeps, or a capital among the first 128 characters. -/
def Ordinary (c : Char) : Prop := lower c = c ∨ c ∈ capitals

instance (c : Char) : Decidable (Ordinary c) := inferInstanceAs (Decidable (_ ∨ _))

/-- Letters and angles that may follow a backslash and take nothing more of the text. -/
def plainEscapes : List Char := ['d', 's', 'w', 'a', 'f', 't', 'n', 'r', 'v', 'z', '<', '>']

/-- A text that lower-casing keeps, behind any number of characters, escapes of one character and
openings of plain groups. -/
inductive Settled : List Char → Prop
  | kept {s : List Char} (h : s.map lower = s) : Settled s
  | escape {c : Char} {s : List Char} (hc : isEscapable c = true ∨ c ∈ plainEscapes)
      (hs : Settled s) : Settled ('\\' :: c :: s)
  | boundary {s : List Char} (hb : s.head? ≠ some '\x7b') (hs : Settled s) :
      Settled ('\\' :: 'b' :: s)
  | group {s : List Char} (hq : s.head? ≠ some '?') (hs : Settled s) : Settled ('(' :: s)
  | char {c : Char} {s : List Char} (hc : Ordinary c) (hspecial : c ∉ ['\\', '(', '['])
      (hs : Settled s) : Settled (c :: s)

/-! ## Characters -/

-- a test over a list of characters: as a statement about all characters it would be decided on each
theorem of_all {P : Char → Prop} [DecidablePred P] {cs : List Char}
    (h : cs.all (fun c => decide (P c)) = true) {c : Char} (hc : c ∈ cs) : P c :=
  of_decide_eq_true (List.all_eq_true.1 h c hc)

theorem orbit_lower {c : Char} (h : Ordinary c) :
    CharSet.orbit (lower c).toNat = CharSet.orbit c.toNat := by
  rcases h with h | h
  · rw [h]
  · exact of_all (P := fun c => CharSet.orbit (lower c).toNat = CharSet.orbit c.toNat) (by decide) h

theorem apply_lower {f : Char → Bool} (hf : capitals.all (fun c => f (lower c) = f c) = true)
    {c : Char} (h : Ordinary c) : f (lower c) = f c := by
  rcases h with h | h
  · rw [h]
  · exact of_all hf h

theorem mem_capitals {c : Char} (hlow : 0x41 ≤ c.toNat) (hhigh : c.toNat ≤ 0x5a) :
    c ∈ capitals := by
  have hall : ∀ n ≤ 0x5a, 0x41 ≤ n → Char.ofNat n ∈ capitals := by decide
  have hc := hall c.toNat hhigh hlow
  rwa [Char.ofNat_toNat] at hc

theorem lower_of_ascii {c : Char} (hascii : c.toNat < 0x80) (hcapital : c ∉ capitals) :
    lower c = c := by
  have hkept : Unicode.lowerCode c.toNat = c.toNat := by
    unfold Unicode.lowerCode
    rw [if_pos hascii, if_neg]
    intro hrange
    obtain ⟨hlow, hhigh⟩ := Bool.and_eq_true_iff.1 hrange
    exact hcapital (mem_capitals (of_decide_eq_true hlow) (of_decide_eq_true hhigh))
  rw [lower, hkept, Char.ofNat_toNat]

theorem lower_of_isEscapable {c : Char} (h : isEscapable c = true) : lower c = c := by
  have hcapital : c ∉ capitals := by
    intro hc
    have hnot : isEscapable c = false := of_all (P := fun c => isEscapable c = false) (by decide) hc
    rw [hnot] at h
    cases h
  refine lower_of_ascii ?_ hcapital
  rw [isEscapable, Bool.or_eq_true] at h
  rcases h with h | h
  · exact of_all (P := fun c => c.toNat < 0x80) (by decide) (List.contains_iff_mem.1 h)
  · simp only [Bool.and_eq_true, decide_eq_true_eq] at h
    exact h.1.1.1

theorem lower_of_test {f : Char → Bool} (hf : capitals.any f = false) {c : Char}
    (h : Ordinary c) (hc : f c = true) : lower c = c := by
  refine h.resolve_right fun hcapital => ?_
  exact List.any_eq_false.1 hf c hcapital hc

theorem Settled.head {c : Char} {s : List Char} (h : Settled (c :: s)) : Ordinary c := by
  cases h with
  | kept h => exact .inl (List.cons.inj h).1
  | escape => exact .inl (by decide)
  | boundary => exact .inl (by decide)
  | group => exact .inl (by decide)
  | char hc => exact hc

theorem Settled.tail {c : Char} {s : List Char} (h : Settled (c :: s)) (hc : c ≠ '\\') :
    Settled s := by
  cases h with
  | kept h => exact .kept (List.cons.inj h).2
  | escape => exact absurd rfl hc
  | boundary => exact absurd rfl hc
  | group _ hs => exact hs
  | char _ _ hs => exact hs

theorem Settled.ordinary {s : List Char} (h : Settled s) : ∀ c ∈ s, Ordinary c := by
  induction h with
  | @kept s h =>
    intro c hc
    exact .inl (List.map_inj_left.1 (h.trans (List.map_id s).symm) c hc)
  | @escape c s hc hs ih =>
    have hlower : Ordinary c := by
      rcases hc with hc | hc
      · exact .inl (lower_of_isEscapable hc)
      · exact of_all (P := Ordinary) (by decide) hc
    have hslash : Ordinary '\\' := by decide
    exact List.forall_mem_cons.2 ⟨hslash, List.forall_mem_cons.2 ⟨hlower, ih⟩⟩
  | boundary _ _ ih =>
    have hslash : Ordinary '\\' := by decide
    have hb : Ordinary 'b' := by decide
    exact List.forall_mem_cons.2 ⟨hslash, List.forall_mem_cons.2 ⟨hb, ih⟩⟩
  | group _ _ ih =>
    have hopen : Ordinary '(' := by decide
    exact List.forall_mem_cons.2 ⟨hopen, ih⟩
  | char hc _ _ ih => exact List.forall_mem_cons.2 ⟨hc, ih⟩

/-! ## Two readings -/

/-- Two readings fail with the same fault, or both succeed with related results. -/
inductive Both {α β : Type} (R : α → β → Prop) : Except Fault α → Except Fault β → Prop
  | failed (e : Fault) : Both R (.error e) (.error e)
  | ok {a : α} {b : β} (h : R a b) : Both R (.ok a) (.ok b)

theorem Both.bind {α β γ δ : Type} {R : α → β → Prop} {Q : γ → δ → Prop}
    {x : Except Fault α} {y : Except Fault β} {f : α → Except Fault γ} {g : β → Except Fault δ}
    (h : Both R x y) (hfg : ∀ a b, R a b → Both Q (f a) (g b)) : Both Q (x >>= f) (y >>= g) := by
  cases h with
  | failed e => exact .failed e
  | ok hab => exact hfg _ _ hab

def startFlags : Flags := { ignoreCase := true }

structure ParserState.Plain (st : ParserState) : Prop where
  flags : st.flags = startFlags
  frames : ∀ frame ∈ st.stack, frame.flags = startFlags

/-- What is left of a settled text, and of the same text in lower case, after the same has been
read. -/
def Alike {α : Type} (P : α → Prop) (x y : α × List Char) : Prop :=
  P x.1 ∧ Settled x.2 ∧ y = (x.1, x.2.map lower)

theorem alike_of {α : Type} {P : α → Prop} {a : α} {s : List Char} (ha : P a) (hs : Settled s) :
    Alike P (a, s) (a, s.map lower) := ⟨ha, hs, rfl⟩

/-! ## Parts of a repetition -/

theorem settled_dropWhile {s : List Char} (hs : Settled s) :
    Settled (s.dropWhile Text.isBlank) ∧
      (s.map lower).dropWhile Text.isBlank = (s.dropWhile Text.isBlank).map lower := by
  induction s with
  | nil => exact ⟨hs, rfl⟩
  | cons c s ih =>
    have hblank : Text.isBlank (lower c) = Text.isBlank c := apply_lower (by decide) hs.head
    rw [List.map_cons, List.dropWhile_cons, List.dropWhile_cons, hblank]
    cases hc : Text.isBlank c with
    | true =>
      have hne : c ≠ '\\' := by
        rintro rfl
        exact absurd hc (by decide)
      exact ih (hs.tail hne)
    | false => exact ⟨hs, rfl⟩

theorem settled_digits {s : List Char} (hs : Settled s) (fuel : Nat) :
    Settled (Flags.decimal.digits startFlags fuel s).2 ∧
      Flags.decimal.digits startFlags fuel (s.map lower) =
        ((Flags.decimal.digits startFlags fuel s).1,
          (Flags.decimal.digits startFlags fuel s).2.map lower) := by
  induction fuel generalizing s with
  | zero => exact ⟨hs, rfl⟩
  | succ fuel ih =>
    cases s with
    | nil => exact ⟨hs, rfl⟩
    | cons c s =>
      have hdigit : (lower c).isDigit = c.isDigit := apply_lower (by decide) hs.head
      simp only [List.map_cons, Flags.decimal.digits, hdigit]
      cases hc : c.isDigit with
      | true =>
        have hkept : lower c = c := lower_of_test (by decide) hs.head hc
        have hne : c ≠ '\\' := by
          rintro rfl
          exact absurd hc (by decide)
        obtain ⟨hrest, heq⟩ := ih (hs.tail hne)
        refine ⟨hrest, ?_⟩
        change (((lower c).toNat - 48) ::
            (Flags.decimal.digits startFlags fuel (s.map lower)).1,
          (Flags.decimal.digits startFlags fuel (s.map lower)).2) = _
        rw [heq, hkept]
        rfl
      | false => exact ⟨hs, rfl⟩

theorem decimal_alike {s : List Char} (hs : Settled s) :
    Both (Alike fun _ => True) (startFlags.decimal s) (startFlags.decimal (s.map lower)) := by
  obtain ⟨hblank, hblankEq⟩ := settled_dropWhile hs
  obtain ⟨hdigits, hdigitsEq⟩ := settled_digits hblank (s.length + 1)
  obtain ⟨hrest, hrestEq⟩ := settled_dropWhile hdigits
  simp only [Flags.decimal, List.length_map, hblankEq, hdigitsEq, hrestEq]
  generalize (Flags.decimal.digits startFlags (s.length + 1) (s.dropWhile Text.isBlank)).1 = ds
  by_cases hds : ds.isEmpty
  · rw [if_pos hds, if_pos hds]
    exact .ok (alike_of trivial hrest)
  · rw [if_neg hds, if_neg hds]
    by_cases hbound : ds.foldl (fun n d => 10 * n + d) 0 < Nat.pow 2 32
    · rw [if_pos hbound, if_pos hbound]
      exact .ok (alike_of trivial hrest)
    · rw [if_neg hbound, if_neg hbound]
      exact .failed _

theorem head_ne_of_settled {s : List Char} (hs : Settled s) {sign : Char}
    (hlower : sign ∉ capitals.map lower) (h : s.head? ≠ some sign) :
    (s.map lower).head? ≠ some sign := by
  cases s with
  | nil => exact h
  | cons c t =>
    rcases hs.head with hkept | hcapital
    · rwa [List.map_cons, hkept]
    · intro heq
      have hc : lower c = sign := by simpa using heq
      exact hlower (List.mem_map.2 ⟨c, hcapital, hc⟩)

/-- A match on a sign at the head of a text, which is no letter, takes the same way in lower case. -/
theorem head_cases {s : List Char} (hs : Settled s) (sign : Char)
    (hsign : sign ∉ '\\' :: (capitals ++ capitals.map lower)) :
    (∃ t, s = sign :: t ∧ s.map lower = sign :: t.map lower ∧ Settled t) ∨
      (s.head? ≠ some sign ∧ (s.map lower).head? ≠ some sign) := by
  by_cases h : s.head? = some sign
  · obtain ⟨t, rfl⟩ := List.head?_eq_some_iff.1 h
    have hkept : lower sign = sign := hs.head.resolve_right fun hin => hsign (by simp [hin])
    have hslash : sign ≠ '\\' := fun heq => hsign (by simp [heq])
    exact .inl ⟨t, rfl, by rw [List.map_cons, hkept], hs.tail hslash⟩
  · have hlower : sign ∉ capitals.map lower := fun hin =>
      hsign (List.mem_cons_of_mem _ (List.mem_append_right _ hin))
    exact .inr ⟨h, head_ne_of_settled hs hlower h⟩

theorem readLazy_alike {s : List Char} (hs : Settled s) :
    Settled (readLazy s).2 ∧ readLazy (s.map lower) = ((readLazy s).1, (readLazy s).2.map lower) := by
  rcases head_cases hs '?' (by decide) with
    ⟨t, rfl, heq, ht⟩ | ⟨hne, hne'⟩
  · rw [heq]
    exact ⟨ht, rfl⟩
  · have hplain (u : List Char) (hu : u.head? ≠ some '?') : readLazy u = (true, u) := by
      unfold readLazy
      split
      · exact absurd rfl hu
      · rfl
    rw [hplain s hne, hplain _ hne']
    exact ⟨hs, rfl⟩

/-- The end of a counted repetition behind its upper bound. -/
def closeBounds (min : Nat) (x : Option Nat × List Char) :
    Except Fault (Nat × Option Nat × List Char) :=
  match x.1, x.2 with
  | some max, '\x7d' :: s => if max < min then .error .malformed else .ok (min, some max, s)
  | _, _ => .error .malformed

def afterComma (min : Nat) (s : List Char) : Except Fault (Nat × Option Nat × List Char) :=
  match s with
  | '\x7d' :: s => .ok (min, none, s)
  | s => startFlags.decimal s >>= closeBounds min

def afterLow (min : Nat) (s : List Char) : Except Fault (Nat × Option Nat × List Char) :=
  match s with
  | ',' :: s => afterComma min s
  | '\x7d' :: s => .ok (min, some min, s)
  | _ => .error .malformed

theorem counted_eq (s : List Char) :
    startFlags.counted s =
      if s.isEmpty then .error .malformed
      else startFlags.decimal s >>= fun x =>
        match x.1 with
        | none => .error .malformed
        | some min => afterLow min x.2 := rfl

theorem closeBounds_of_head_ne {min : Nat} {max : Option Nat} {s : List Char}
    (h : s.head? ≠ some '\x7d') : closeBounds min (max, s) = .error .malformed := by
  unfold closeBounds
  split
  · rename_i heq
    exact absurd (congrArg List.head? heq) h
  · rfl

theorem afterComma_of_head_ne {min : Nat} {s : List Char} (h : s.head? ≠ some '\x7d') :
    afterComma min s = startFlags.decimal s >>= closeBounds min := by
  unfold afterComma
  split
  · exact absurd rfl h
  · rfl

theorem afterLow_of_head_ne {min : Nat} {s : List Char} (hcomma : s.head? ≠ some ',')
    (hclose : s.head? ≠ some '\x7d') : afterLow min s = .error .malformed := by
  unfold afterLow
  split
  · exact absurd rfl hcomma
  · exact absurd rfl hclose
  · rfl

def AlikeBounds (x y : Nat × Option Nat × List Char) : Prop :=
  Settled x.2.2 ∧ y = (x.1, x.2.1, x.2.2.map lower)

theorem closeBounds_alike (min : Nat) (max : Option Nat) {s : List Char} (hs : Settled s) :
    Both AlikeBounds (closeBounds min (max, s)) (closeBounds min (max, s.map lower)) := by
  rcases head_cases hs '\x7d' (by decide) with
    ⟨t, rfl, heq, ht⟩ | ⟨hne, hne'⟩
  · rw [heq]
    cases max with
    | none => exact .failed _
    | some max =>
      by_cases hmax : max < min
      · have hfault (u : List Char) :
            closeBounds min (some max, '\x7d' :: u) = .error .malformed := if_pos hmax
        rw [hfault, hfault]
        exact .failed _
      · have hread (u : List Char) :
            closeBounds min (some max, '\x7d' :: u) = .ok (min, some max, u) := if_neg hmax
        rw [hread, hread]
        exact .ok ⟨ht, rfl⟩
  · rw [closeBounds_of_head_ne hne, closeBounds_of_head_ne hne']
    exact .failed _

theorem afterComma_alike (min : Nat) {s : List Char} (hs : Settled s) :
    Both AlikeBounds (afterComma min s) (afterComma min (s.map lower)) := by
  rcases head_cases hs '\x7d' (by decide) with
    ⟨t, rfl, heq, ht⟩ | ⟨hne, hne'⟩
  · rw [heq]
    exact .ok ⟨ht, rfl⟩
  · rw [afterComma_of_head_ne hne, afterComma_of_head_ne hne']
    refine (decimal_alike hs).bind ?_
    rintro ⟨max, t⟩ _ ⟨-, ht, rfl⟩
    exact closeBounds_alike min max ht

theorem afterLow_alike (min : Nat) {s : List Char} (hs : Settled s) :
    Both AlikeBounds (afterLow min s) (afterLow min (s.map lower)) := by
  rcases head_cases hs ',' (by decide) with
    ⟨t, rfl, heq, ht⟩ | ⟨hcomma, hcomma'⟩
  · rw [heq]
    exact afterComma_alike min ht
  rcases head_cases hs '\x7d' (by decide) with
    ⟨t, rfl, heq, ht⟩ | ⟨hclose, hclose'⟩
  · rw [heq]
    exact .ok ⟨ht, rfl⟩
  · rw [afterLow_of_head_ne hcomma hclose, afterLow_of_head_ne hcomma' hclose']
    exact .failed _

theorem counted_alike {s : List Char} (hs : Settled s) :
    Both AlikeBounds (startFlags.counted s) (startFlags.counted (s.map lower)) := by
  rw [counted_eq, counted_eq, List.isEmpty_map]
  by_cases hempty : s.isEmpty
  · rw [if_pos hempty, if_pos hempty]
    exact .failed _
  rw [if_neg hempty, if_neg hempty]
  refine (decimal_alike hs).bind ?_
  rintro ⟨low, t⟩ _ ⟨-, ht, rfl⟩
  cases low with
  | none => exact .failed _
  | some min => exact afterLow_alike min ht

/-! ## One construct -/

abbrev AlikeStates : ParserState × List Char → ParserState × List Char → Prop :=
  Alike ParserState.Plain

theorem push_plain {st : ParserState} (h : st.Plain) (node : Node) (depth : Nat) :
    (st.push node depth).Plain := ⟨h.flags, h.frames⟩

theorem openCapture_plain {st : ParserState} (h : st.Plain) : (st.openCapture none).Plain := by
  refine ⟨h.flags, fun frame hframe => ?_⟩
  rcases List.mem_cons.1 hframe with rfl | hframe
  · exact h.flags
  · exact h.frames frame hframe

theorem closeGroup_plain {st st' : ParserState} (h : st.Plain) (hclose : st.closeGroup = .ok st') :
    st'.Plain := by
  unfold ParserState.closeGroup at hclose
  cases hstack : st.stack with
  | nil => simp [hstack] at hclose
  | cons frame stack =>
    simp only [hstack, Except.ok.injEq] at hclose
    subst hclose
    refine ⟨h.frames frame (by simp [hstack]), fun other hother => ?_⟩
    exact h.frames other (by simp [hstack, hother])

theorem repeatLast_plain {st st' : ParserState} (h : st.Plain) {min : Nat} {max : Option Nat}
    {greedy : Bool} (hrepeat : st.repeatLast min max greedy = .ok st') : st'.Plain := by
  unfold ParserState.repeatLast at hrepeat
  cases hparts : st.parts with
  | nil => simp [hparts] at hrepeat
  | cons part parts =>
    simp only [hparts] at hrepeat
    by_cases hpart : part.repeatable
    · rw [if_pos hpart] at hrepeat
      cases hrepeat
      exact ⟨h.flags, h.frames⟩
    · rw [if_neg hpart] at hrepeat
      cases hrepeat

theorem both_of_state {x : Except Fault ParserState} (hx : ∀ st, x = .ok st → st.Plain)
    {s : List Char} (hs : Settled s) :
    Both AlikeStates (x >>= fun st => .ok (st, s)) (x >>= fun st => .ok (st, s.map lower)) := by
  cases x with
  | error e => exact .failed e
  | ok st => exact .ok (alike_of (hx st rfl) hs)

theorem repeat_alike {st : ParserState} (h : st.Plain) (min : Nat) (max : Option Nat)
    {s : List Char} (hs : Settled s) :
    Both AlikeStates
      (st.repeatLast min max (readLazy s).1 >>= fun st => .ok (st, (readLazy s).2))
      (st.repeatLast min max (readLazy (s.map lower)).1 >>= fun st =>
        .ok (st, (readLazy (s.map lower)).2)) := by
  obtain ⟨hrest, heq⟩ := readLazy_alike hs
  rw [heq]
  exact both_of_state (fun _ => repeatLast_plain h) hrest

def escapedAtom (c : Char) : Atom :=
  if isEscapable c then .literal c false
  else match c with
    | 'd' | 's' | 'w' => .set (startFlags.perlSet c)
    | 'a' => .literal (Char.ofNat 7) false
    | 'f' => .literal (Char.ofNat 12) false
    | 't' => .literal (Char.ofNat 9) false
    | 'n' => .literal (Char.ofNat 10) false
    | 'r' => .literal (Char.ofNat 13) false
    | 'v' => .literal (Char.ofNat 11) false
    | 'z' => .look .textEnd
    | '<' => .look (.wordStart true)
    | _ => .look (.wordEnd true)

theorem escape_plain {c : Char} (h : isEscapable c = true ∨ c ∈ plainEscapes) (s : List Char) :
    startFlags.escape (c :: s) = .ok (escapedAtom c, s) := by
  unfold escapedAtom
  rcases h with h | h
  · rw [if_pos h]
    exact if_pos h
  · have hcases : c = 'd' ∨ c = 's' ∨ c = 'w' ∨ c = 'a' ∨ c = 'f' ∨ c = 't' ∨ c = 'n' ∨ c = 'r' ∨
        c = 'v' ∨ c = 'z' ∨ c = '<' ∨ c = '>' := by simpa [plainEscapes] using h
    have hletter : isEscapable c = false :=
      of_all (P := fun c => isEscapable c = false) (by decide) h
    rw [hletter]
    refine (if_neg (by simp [hletter])).trans ?_
    rcases hcases with rfl | rfl | rfl | rfl | rfl | rfl | rfl | rfl | rfl | rfl | rfl | rfl <;> rfl

theorem escape_boundary {s : List Char} (h : s.head? ≠ some '\x7b') :
    startFlags.escape ('b' :: s) = .ok (.look (.wordBoundary true), s) := by
  have hplain : startFlags.specialBoundary s = .ok (.wordBoundary true, s) := by
    unfold Flags.specialBoundary
    split
    · exact absurd rfl h
    · rfl
  change (startFlags.specialBoundary s >>= fun x => .ok (Atom.look x.1, x.2)) = _
  rw [hplain]
  rfl

def Atom.node : Atom → Node
  | .literal c _ => .chars (CharSet.orbit c.toNat)
  | .set chars => .chars chars
  | .look l => .look l

theorem step_slash {st : ParserState} (h : st.Plain) {s t : List Char} {atom : Atom}
    (hatom : startFlags.escape s = .ok (atom, t)) :
    st.step ('\\' :: s) = .ok (st.push atom.node 0, t) := by
  change (st.flags.escape s >>= fun x => _) = _
  rw [h.flags, hatom]
  cases atom with
  | literal c asByte => rfl
  | set chars => rfl
  | look l => rfl

theorem step_open {st : ParserState} (h : st.Plain) {s : List Char} (hq : s.head? ≠ some '?') :
    st.step ('(' :: s) = .ok (st.openCapture none, s) := by
  change st.readGroup s = _
  have hskip : st.flags.skip s = s := by rw [h.flags]; rfl
  unfold ParserState.readGroup
  rw [hskip]
  split
  all_goals first | exact absurd rfl hq | rfl

def signs : List Char := ['(', ')', '|', '[', '?', '*', '+', '\x7b', '.', '^', '$', '\\']

theorem step_literal {st : ParserState} (h : st.Plain) {c : Char} (hc : c ∉ signs)
    (s : List Char) :
    st.step (c :: s) = .ok (st.push (.chars (CharSet.orbit c.toNat)) 0, s) := by
  have hset : st.flags.literalSet c false = .ok (CharSet.orbit c.toNat) := by rw [h.flags]; rfl
  have hread : st.step (c :: s) =
      st.flags.literalSet c false >>= fun set => .ok (st.push (.chars set) 0, s) := by
    unfold ParserState.step
    split
    all_goals
      rename_i heq
      cases heq
    -- every way but the last asks for a sign
    all_goals first | exact absurd (by decide) hc | rfl
  rw [hread, hset]
  rfl

theorem step_char_alike {st : ParserState} (h : st.Plain) {c : Char} {s : List Char}
    (hc : Ordinary c) (hspecial : c ∉ ['\\', '(', '[']) (hs : Settled s) :
    Both AlikeStates (st.step (c :: s)) (st.step ((c :: s).map lower)) := by
  by_cases hsign : c ∈ signs
  · have hkept : lower c = c := of_all (P := fun c => lower c = c) (by decide) hsign
    rw [List.map_cons, hkept]
    have hcases : c = ')' ∨ c = '|' ∨ c = '?' ∨ c = '*' ∨ c = '+' ∨ c = '\x7b' ∨ c = '.' ∨ c = '^' ∨
        c = '$' := by
      simp [signs] at hsign hspecial
      tauto
    rcases hcases with rfl | rfl | rfl | rfl | rfl | rfl | rfl | rfl | rfl
    · exact both_of_state (fun _ => closeGroup_plain h) hs
    · exact .ok (alike_of ⟨h.flags, h.frames⟩ hs)
    · exact repeat_alike h 0 (some 1) hs
    · exact repeat_alike h 0 none hs
    · exact repeat_alike h 1 none hs
    · change Both AlikeStates (st.flags.counted s >>= _) (st.flags.counted (s.map lower) >>= _)
      rw [h.flags]
      refine (counted_alike hs).bind ?_
      rintro ⟨min, max, t⟩ _ ⟨ht, rfl⟩
      exact repeat_alike h min max ht
    · change Both AlikeStates (st.flags.dot >>= _) (st.flags.dot >>= _)
      rw [h.flags]
      exact .ok (alike_of (push_plain h _ _) hs)
    · exact .ok (alike_of (push_plain h _ _) hs)
    · exact .ok (alike_of (push_plain h _ _) hs)
  · have hsign' : lower c ∉ signs := by
      rcases hc with hkept | hcapital
      · rwa [hkept]
      · exact of_all (P := fun c => lower c ∉ signs) (by decide) hcapital
    rw [List.map_cons, step_literal h hsign, step_literal h hsign', orbit_lower hc]
    exact .ok (alike_of (push_plain h _ _) hs)

theorem step_alike {st : ParserState} (h : st.Plain) {s : List Char} (hs : Settled s)
    (hchanged : s.map lower ≠ s) : Both AlikeStates (st.step s) (st.step (s.map lower)) := by
  cases hs with
  | kept h => exact absurd h hchanged
  | @escape c s hc hs =>
    have hkept : lower c = c := by
      rcases hc with hc | hc
      · exact lower_of_isEscapable hc
      · exact of_all (P := fun c => lower c = c) (by decide) hc
    have hslash : lower '\\' = '\\' := by decide
    rw [List.map_cons, List.map_cons, hslash, hkept, step_slash h (escape_plain hc s),
      step_slash h (escape_plain hc (s.map lower))]
    exact .ok (alike_of (push_plain h _ _) hs)
  | @boundary s hb hs =>
    have hfirst : ('\\' :: 'b' :: s).map lower = '\\' :: 'b' :: s.map lower := by
      rw [List.map_cons, List.map_cons]
      rfl
    have hb' : (s.map lower).head? ≠ some '\x7b' :=
      head_ne_of_settled hs (by decide) hb
    rw [hfirst, step_slash h (escape_boundary hb), step_slash h (escape_boundary hb')]
    exact .ok (alike_of (push_plain h _ _) hs)
  | @group s hq hs =>
    have hfirst : ('(' :: s).map lower = '(' :: s.map lower := rfl
    have hq' : (s.map lower).head? ≠ some '?' := head_ne_of_settled hs (by decide) hq
    rw [hfirst, step_open h hq, step_open h hq']
    exact .ok (alike_of (openCapture_plain h) hs)
  | @char c s hc hspecial hs => exact step_char_alike h hc hspecial hs

/-! ## Whole texts -/

theorem run_lower {st : ParserState} (h : st.Plain) {s : List Char} (hs : Settled s) (fuel : Nat) :
    st.run fuel (s.map lower) = st.run fuel s := by
  induction fuel generalizing st s with
  | zero => rw [ParserState.run, ParserState.run, List.isEmpty_map]
  | succ fuel ih =>
    have hskip (u : List Char) : st.flags.skip u = u := by rw [h.flags]; rfl
    -- from where lower-casing changes nothing any more, both readers see the same text
    by_cases hchanged : s.map lower = s
    · rw [hchanged]
    cases s with
    | nil => rfl
    | cons c s =>
      have hrun (c : Char) (s : List Char) : st.run (fuel + 1) (c :: s) =
          st.step (c :: s) >>= fun x => x.1.run fuel x.2 := by
        rw [ParserState.run, hskip]
      have hstep := step_alike h hs hchanged
      rw [List.map_cons] at hstep ⊢
      rw [hrun, hrun]
      generalize st.step (c :: s) = x at hstep ⊢
      generalize st.step (lower c :: s.map lower) = y at hstep ⊢
      cases hstep with
      | failed e => rfl
      | ok hab =>
        obtain ⟨hplain, hsettled, rfl⟩ := hab
        exact ih hplain hsettled

theorem parse_lower {s : List Char} (hs : Settled s) : parse (s.map lower) = parse s := by
  have hstart : ParserState.Plain { flags := startFlags } := ⟨rfl, by simp⟩
  have hrun := run_lower hstart hs (s.length + 1)
  unfold parse
  rw [List.length_map]
  change (ParserState.run _ { flags := startFlags } _ >>= _) = _
  rw [hrun]
  rfl

theorem lowercaseAfter_of_ordinary (before : List Char) {s : List Char}
    (hs : ∀ c ∈ s, Ordinary c) : Unicode.lowercaseAfter before s = s.map lower := by
  induction s generalizing before with
  | nil => rfl
  | cons c s ih =>
    have hc : Ordinary c := hs c (by simp)
    have hsigma : c ≠ 'Σ' := by
      rintro rfl
      exact absurd hc (by decide)
    have hdotted : c ≠ 'İ' := by
      rintro rfl
      exact absurd hc (by decide)
    rw [Unicode.lowercaseAfter, if_neg hsigma, Unicode.lowerChar, if_neg hdotted,
      ih (c :: before) fun d hd => hs d (by simp [hd])]
    rfl

theorem lowercase_of_settled {s : List Char} (hs : Settled s) :
    Unicode.lowercase s = s.map lower := lowercaseAfter_of_ordinary [] hs.ordinary

/-- A settled text and its lower case are the same expression, or both are none. -/
theorem ofChars?_lowercase {s : List Char} (hs : Settled s) :
    ofChars? (Unicode.lowercase s) = ofChars? s := by
  rw [ofChars?, ofChars?, lowercase_of_settled hs, parse_lower hs]

end Webprint.Regex
