import Mathlib.Data.List.Infix
import Webprint.Pattern.Text
import Webprint.Proofs.Search

set_option autoImplicit false

/-!
# Escapes in written expressions

An expression is read from the left, a backslash together with the character behind it. Bringing an
expression into this dialect ought to rewrite an escaped slash and two groups of signs, and to leave
all other signs alone. The replacements look at characters and not at signs, so they do what they
ought to do exactly if no escaped backslash stands before a slash and no escaped bracket before what
would make up a group with it.
-/

namespace Webprint

/-! ## Replacements that do not meet -/

namespace Text

/-- A word without the character that a replacement brings in is only found where it was before. -/
theorem prefix_of_prefix_replaceAll {w n : Char} {word new u s : List Char} (hn : n ∉ u)
    (h : u <+: replaceAll (w :: word) (n :: new) s) : u <+: s := by
  induction u generalizing s with
  | nil => exact List.nil_prefix
  | cons c u ih =>
    have hc : c ≠ n := fun heq => hn (by simp [heq])
    have hu : n ∉ u := fun hin => hn (by simp [hin])
    cases s with
    | nil => exact absurd (List.prefix_nil.1 h) (by simp)
    | cons d s =>
      by_cases hword : w :: word <+: d :: s
      · obtain ⟨rest, hrest⟩ := hword
        rw [← hrest, replaceAll_append, List.cons_append, List.cons_prefix_cons] at h
        exact absurd h.1 hc
      · rw [replaceAll_cons _ hword, List.cons_prefix_cons] at h
        exact List.cons_prefix_cons.2 ⟨h.1, ih hu h.2⟩

end Text

namespace Pattern

/-! ## Signs -/

inductive Sign where
  | plain (c : Char)
  | escaped (c : Char)
deriving DecidableEq

/-- An expression read from the left. A backslash at its end stands by itself. -/
def signs : List Char → List Sign
  | '\\' :: c :: s => .escaped c :: signs s
  | c :: s => .plain c :: signs s
  | [] => []

def Sign.text : Sign → List Char
  | .plain c => [c]
  | .escaped c => ['\\', c]

theorem text_signs (s : List Char) : (signs s).flatMap Sign.text = s := by
  fun_induction signs s with
  | case1 c s ih => simp [Sign.text, ih]
  | case2 c s _ ih => simp [Sign.text, ih]
  | case3 => rfl

/-- The expression with the escaped slash and the groups `[^]` and `[\s\S]*` in this dialect. -/
def rewritten : List Sign → List Char
  | .escaped '/' :: us => '/' :: rewritten us
  | .plain '[' :: .plain '^' :: .plain ']' :: us => '.' :: rewritten us
  | .plain '[' :: .escaped 's' :: .escaped 'S' :: .plain ']' :: .plain '*' :: us =>
    '.' :: '*' :: rewritten us
  | u :: us => u.text ++ rewritten us
  | [] => []

/-- Signs that the replacements take for something else: the second character of the first sign
begins an occurrence of what is replaced. -/
def misreadings : List (List Sign) :=
  [[.escaped '\\', .plain '/'], [.escaped '[', .plain '^', .plain ']'],
    [.escaped '[', .escaped 's', .escaped 'S', .plain ']', .plain '*']]

def Misread (us : List Sign) : Prop := ∃ w ∈ misreadings, w <:+: us

/-! ## One pass -/

/-- A text with the three words replaced that `normalize` replaces, in one pass. -/
def pass : List Char → List Char
  | '\\' :: '/' :: s => '/' :: pass s
  | '[' :: '^' :: ']' :: s => '.' :: pass s
  | '[' :: '\\' :: 's' :: '\\' :: 'S' :: ']' :: '*' :: s => '.' :: '*' :: pass s
  | c :: s => c :: pass s
  | [] => []

theorem normalize_eq (s : List Char) :
    normalize s = Text.replaceAll ['[', '\\', 's', '\\', 'S', ']', '*'] ['.', '*']
      (Text.replaceAll ['[', '^', ']'] ['.'] (Text.replaceAll ['\\', '/'] ['/'] s)) := rfl

theorem normalize_cons {c : Char} {s : List Char} (hslash : ¬ ['\\', '/'] <+: c :: s)
    (hgroup : ¬ ['[', '^', ']'] <+: c :: s)
    (hrun : ¬ ['[', '\\', 's', '\\', 'S', ']', '*'] <+: c :: s) :
    normalize (c :: s) = c :: normalize s := by
  have hgroup' : ¬ ['[', '^', ']'] <+: c :: Text.replaceAll ['\\', '/'] ['/'] s := by
    rw [List.cons_prefix_cons] at hgroup ⊢
    exact fun h => hgroup ⟨h.1, Text.prefix_of_prefix_replaceAll (by decide) h.2⟩
  have hrun' : ¬ ['[', '\\', 's', '\\', 'S', ']', '*'] <+:
      c :: Text.replaceAll ['[', '^', ']'] ['.'] (Text.replaceAll ['\\', '/'] ['/'] s) := by
    rw [List.cons_prefix_cons] at hrun ⊢
    exact fun h => hrun ⟨h.1, Text.prefix_of_prefix_replaceAll (by decide)
      (Text.prefix_of_prefix_replaceAll (by decide) h.2)⟩
  simp [normalize_eq, hslash, hgroup', hrun']

theorem normalize_slash (s : List Char) : normalize ('\\' :: '/' :: s) = '/' :: normalize s := by
  have hword := Text.replaceAll_append '\\' ['/'] ['/'] s
  rw [List.cons_append, List.singleton_append] at hword
  simp [normalize_eq, hword]

theorem normalize_group (s : List Char) : normalize ('[' :: '^' :: ']' :: s) = '.' :: normalize s := by
  have hkept : Text.replaceAll ['\\', '/'] ['/'] ('[' :: '^' :: ']' :: s) =
      ['[', '^', ']'] ++ Text.replaceAll ['\\', '/'] ['/'] s := by
    simp
  rw [normalize_eq, hkept, Text.replaceAll_append]
  simp [normalize_eq]

theorem normalize_run (s : List Char) :
    normalize ('[' :: '\\' :: 's' :: '\\' :: 'S' :: ']' :: '*' :: s) = '.' :: '*' :: normalize s := by
  have hkept : Text.replaceAll ['[', '^', ']'] ['.'] (Text.replaceAll ['\\', '/'] ['/']
      ('[' :: '\\' :: 's' :: '\\' :: 'S' :: ']' :: '*' :: s)) =
      ['[', '\\', 's', '\\', 'S', ']', '*'] ++
        Text.replaceAll ['[', '^', ']'] ['.'] (Text.replaceAll ['\\', '/'] ['/'] s) := by
    simp
  rw [normalize_eq, hkept, Text.replaceAll_append]
  rfl

theorem normalize_eq_pass (s : List Char) : normalize s = pass s := by
  fun_induction pass s with
  | case1 s ih => rw [normalize_slash, ih]
  | case2 s ih => rw [normalize_group, ih]
  | case3 s ih => rw [normalize_run, ih]
  | case4 c s hslash hgroup hrun ih =>
    refine (normalize_cons ?_ ?_ ?_).trans (congrArg _ ih)
    · rintro ⟨rest, heq⟩
      obtain ⟨rfl, rfl⟩ := List.cons.inj heq
      exact hslash rest rfl rfl
    · rintro ⟨rest, heq⟩
      obtain ⟨rfl, rfl⟩ := List.cons.inj heq
      exact hgroup rest rfl rfl
    · rintro ⟨rest, heq⟩
      obtain ⟨rfl, rfl⟩ := List.cons.inj heq
      exact hrun rest rfl rfl
  | case5 => rfl

/-! ## Signs against characters -/

theorem signs_plain {s : List Char} {c : Char} {us : List Sign} (h : signs s = .plain c :: us) :
    ∃ rest, s = c :: rest ∧ us = signs rest ∧ (c = '\\' → rest = []) := by
  fun_induction signs s with
  | case1 c s ih => cases h
  | case2 c s hc ih =>
    cases h
    refine ⟨s, rfl, rfl, fun hslash => ?_⟩
    cases s with
    | nil => rfl
    | cons d s => exact absurd rfl (hc d s hslash)
  | case3 => cases h

theorem signs_escaped {s : List Char} {c : Char} {us : List Sign} (h : signs s = .escaped c :: us) :
    ∃ rest, s = '\\' :: c :: rest ∧ us = signs rest := by
  fun_induction signs s with
  | case1 c s ih =>
    cases h
    exact ⟨s, rfl, rfl⟩
  | case2 c s hc ih => cases h
  | case3 => cases h

theorem prefix_of_prefix_signs {us : List Sign} {s : List Char} (h : us <+: signs s) :
    us.flatMap Sign.text <+: s := by
  obtain ⟨rest, hrest⟩ := h
  refine ⟨rest.flatMap Sign.text, ?_⟩
  rw [← List.flatMap_append, hrest, text_signs]

theorem misread_cons {u : Sign} {us : List Sign} :
    Misread (u :: us) ↔ (∃ w ∈ misreadings, w <+: u :: us) ∨ Misread us := by
  simp only [Misread, List.infix_cons_iff, and_or_left, exists_or]

theorem misread_plain {c : Char} {us : List Sign} : Misread (.plain c :: us) ↔ Misread us := by
  rw [misread_cons]
  simp [misreadings]

theorem misread_escaped {c : Char} {us : List Sign} (hslash : c ≠ '\\') (hbracket : c ≠ '[') :
    Misread (.escaped c :: us) ↔ Misread us := by
  rw [misread_cons]
  simp [misreadings, Ne.symm hslash, Ne.symm hbracket]

/-- The pass either does to an expression what it ought to do, or something is misread and it leaves
less. -/
def Compared (s : List Char) (us : List Sign) : Prop :=
  ¬ Misread us ∧ pass s = rewritten us ∨
    Misread us ∧ (pass s).length < (rewritten us).length

theorem Compared.length_le {s : List Char} {us : List Sign} (h : Compared s us) :
    (pass s).length ≤ (rewritten us).length := by
  rcases h with ⟨-, h⟩ | ⟨-, h⟩
  · rw [h]
  · exact h.le

theorem Compared.step {s r : List Char} {us vs : List Sign} (h : Compared r vs)
    (front : List Char) (hpass : pass s = front ++ pass r)
    (hrewritten : rewritten us = front ++ rewritten vs) (hmisread : Misread us ↔ Misread vs) :
    Compared s us := by
  rw [Compared, hmisread, hpass, hrewritten]
  rcases h with ⟨hclear, h⟩ | ⟨hmisread, h⟩
  · exact .inl ⟨hclear, by rw [h]⟩
  · exact .inr ⟨hmisread, by simpa using h⟩

theorem pass_behind (c : Char) (s : List Char) :
    (¬ ∃ w ∈ misreadings, w <+: .escaped c :: signs s) ∧ pass (c :: s) = c :: pass s ∨
      (∃ w ∈ misreadings, w <+: .escaped c :: signs s) ∧
        (pass (c :: s)).length < (c :: pass s).length := by
  generalize htext : c :: s = text
  fun_cases pass text with
  | case1 r =>
    cases htext
    exact .inr ⟨⟨[.escaped '\\', .plain '/'], by simp [misreadings], by simp [signs]⟩, by simp [pass]⟩
  | case2 r =>
    cases htext
    exact .inr ⟨⟨[.escaped '[', .plain '^', .plain ']'], by simp [misreadings], by simp [signs]⟩,
      by simp [pass]⟩
  | case3 r =>
    cases htext
    exact .inr ⟨⟨[.escaped '[', .escaped 's', .escaped 'S', .plain ']', .plain '*'],
      by simp [misreadings], by simp [signs]⟩, by simp [pass]⟩
  | case4 d t hslash hgroup hrun =>
    cases htext
    refine .inl ⟨?_, rfl⟩
    rintro ⟨w, hw, hprefix⟩
    -- the characters of a misreading are an occurrence behind the backslash
    have hsigns : .escaped c :: signs s = signs ('\\' :: c :: s) := rfl
    rw [hsigns] at hprefix
    have hchars := prefix_of_prefix_signs hprefix
    simp only [misreadings, List.mem_cons, List.not_mem_nil, or_false] at hw
    rcases hw with rfl | rfl | rfl <;> obtain ⟨rest, hrest⟩ := hchars <;>
      simp only [List.flatMap_cons, List.flatMap_nil, Sign.text, List.cons_append, List.nil_append,
        List.append_nil, List.cons.injEq, true_and] at hrest
    · exact hslash rest hrest.1.symm hrest.2.symm
    · exact hgroup rest hrest.1.symm hrest.2.symm
    · exact hrun rest hrest.1.symm hrest.2.symm
  | case5 => cases htext

theorem compared {us : List Sign} {s : List Char} (h : signs s = us) : Compared s us := by
  fun_induction rewritten us generalizing s with
  | case1 us ih =>
    obtain ⟨r, rfl, rfl⟩ := signs_escaped h
    exact (ih rfl).step ['/'] rfl rfl (misread_escaped (by decide) (by decide))
  | case2 us ih =>
    obtain ⟨r₁, rfl, h₁, -⟩ := signs_plain h
    obtain ⟨r₂, rfl, h₂, -⟩ := signs_plain h₁.symm
    obtain ⟨r₃, rfl, rfl, -⟩ := signs_plain h₂.symm
    exact (ih rfl).step ['.'] rfl rfl (by simp only [misread_plain])
  | case3 us ih =>
    obtain ⟨r₁, rfl, h₁, -⟩ := signs_plain h
    obtain ⟨r₂, rfl, h₂⟩ := signs_escaped h₁.symm
    obtain ⟨r₃, rfl, h₃⟩ := signs_escaped h₂.symm
    obtain ⟨r₄, rfl, h₄, -⟩ := signs_plain h₃.symm
    obtain ⟨r₅, rfl, rfl, -⟩ := signs_plain h₄.symm
    refine (ih rfl).step ['.', '*'] rfl rfl ?_
    simp only [misread_plain, misread_escaped (show 's' ≠ '\\' by decide) (by decide),
      misread_escaped (show 'S' ≠ '\\' by decide) (by decide)]
  | case4 u us hslash hgroup hrun ih =>
    have hkept : rewritten (u :: us) = u.text ++ rewritten us := rewritten.eq_4 u us hslash hgroup hrun
    cases u with
    | plain c =>
      obtain ⟨r, rfl, rfl, hend⟩ := signs_plain h
      have hpass : pass (c :: r) = c :: pass r := by
        refine pass.eq_4 c r ?_ ?_ ?_
        · rintro r' rfl rfl
          cases hend rfl
        · rintro r' rfl rfl
          exact hgroup (signs r') rfl rfl
        · rintro r' rfl rfl
          exact hrun (signs r') rfl rfl
      exact (ih rfl).step [c] hpass hkept misread_plain
    | escaped c =>
      obtain ⟨r, rfl, rfl⟩ := signs_escaped h
      have hpass : pass ('\\' :: c :: r) = '\\' :: pass (c :: r) := by
        refine pass.eq_4 '\\' (c :: r) ?_ (by simp) (by simp)
        rintro r' - heq
        obtain ⟨rfl, -⟩ := List.cons.inj heq
        exact hslash rfl
      rcases pass_behind c r with ⟨hnone, hbehind⟩ | ⟨hmisread, hbehind⟩
      · refine (ih rfl).step ['\\', c] (by rw [hpass, hbehind]; rfl) hkept ?_
        rw [misread_cons]
        simp only [hnone, false_or]
      · refine .inr ⟨misread_cons.2 (.inl hmisread), ?_⟩
        have hle := (ih rfl).length_le
        rw [hpass, hkept]
        simp only [List.length_cons, Sign.text, List.length_append, List.length_nil] at hbehind ⊢
        omega
  | case5 =>
    obtain rfl : s = [] := by rw [← text_signs s, h]; rfl
    exact .inl ⟨by simp [Misread, misreadings], rfl⟩

/-- Escapes are respected exactly in the expressions in which nothing is misread. -/
theorem normalize_eq_rewritten_iff (s : List Char) :
    normalize s = rewritten (signs s) ↔ ∀ w ∈ misreadings, ¬ w <:+: signs s := by
  have hclear : (∀ w ∈ misreadings, ¬ w <:+: signs s) ↔ ¬ Misread (signs s) := by
    simp [Misread]
  rw [hclear, normalize_eq_pass]
  rcases compared rfl with ⟨hclear, h⟩ | ⟨hmisread, h⟩
  · exact ⟨fun _ => hclear, fun _ => h⟩
  · refine ⟨fun heq => ?_, fun hclear => absurd hmisread hclear⟩
    rw [heq] at h
    exact absurd h (lt_irrefl _)

/-- Each misreading takes an escape away. The class of a slash and a backslash is left without the
backslash and no longer matches one. -/
theorem escapes_lost :
    (normalize "[\\\\/]".toList = "[\\/]".toList ∧
      rewritten (signs "[\\\\/]".toList) = "[\\\\/]".toList) ∧
    (normalize "\\[^]".toList = "\\.".toList ∧
      rewritten (signs "\\[^]".toList) = "\\[^]".toList) ∧
    (normalize "\\[\\s\\S]*".toList = "\\.*".toList ∧
      rewritten (signs "\\[\\s\\S]*".toList) = "\\[\\s\\S]*".toList) ∧
    (Regex.ofString? "[\\\\/]").toOption.map (·.isMatch ['\\']) = some true ∧
    (Pattern.ofSpec? (parse "[\\\\/]")).toOption.map (·.isMatch "\\") = some false := by
  decide +kernel

end Pattern

end Webprint
