import Webprint.Proofs.CompiledFields
import Webprint.Proofs.Findings
import Webprint.Proofs.LetterCase

set_option autoImplicit false

/-!
# Keys that are expressions

A key is compiled in lower case. A pattern that takes its key for an expression is tried on the
values under all names that the lower-cased key matches. As long as the key is settled these are the
names that the key itself matches; a capital behind a backslash or in a range makes it another
expression.
-/

namespace Webprint

open Json (Value)

theorem foldKey_expression (f : Field) {key : String} (h : Regex.Settled key.toList) :
    Regex.ofString? (foldKey f key) = Regex.ofString? key := by
  unfold foldKey
  by_cases hcase : f.caseSensitiveKeys
  · rw [if_pos hcase]
  · rw [if_neg hcase, Regex.ofString?, String.toList_ofList]
    exact Regex.ofChars?_lowercase h

namespace Matching

theorem valuesFor_expression {e : KeyedPatterns} {p : Pattern} (hp : p ∈ e.patterns)
    (hflag : p.spec.keyRegex = true) :
    ∃ r, Regex.ofString? e.key = .ok r ∧ ∀ {α : Type} (values : MultiMap α),
      valuesFor e p values = (values.entries.filter fun x => r.isMatch x.1.toList).flatMap (·.2) := by
  have hcompiled := e.compiled
  have hany : e.patterns.any (·.spec.keyRegex) = true := List.any_eq_true.2 ⟨p, hp, hflag⟩
  rw [keyRegexFor, if_pos hany] at hcompiled
  obtain ⟨r, hr, -⟩ := ok_of_map hcompiled
  refine ⟨r, hr, fun values => ?_⟩
  rw [valuesFor_eq_candidates hp, candidates, if_pos hflag]
  have hmatches (name : String) : keyMatches e.key name = r.isMatch name.toList := by
    rw [keyMatches, hr]
  simp only [hmatches]

/-- A surviving key of a compiled definition has an entry, in which every pattern that takes the key
for an expression is tried on the values under all names that the lower-cased key matches. So the
evidence that any catalogue with this technology records under the key, of such patterns, is what they
record of these values. For a settled key these are the names that the key itself matches, and
lower-casing it does not change whether it compiles. -/
theorem keys_compiled_in_lower_case {d : Definition} {f : Field} {members : List (String × Value)}
    {key : String} {v : Value} (hshape : f.shape = .keyed)
    (hfield : d.fields.get? f = some (.object members)) (hsurvives : Survives f members key v) :
    (Regex.Settled key.toList → Regex.ofString? (foldKey f key) = Regex.ofString? key) ∧
      ∀ {technology : String} {names : CategoryNames} {sig : Signature},
        d.compile technology names = .ok sig →
        ∃ es e, sig.matchers.get? f = some (.keyed es) ∧ e ∈ es ∧
          compilePatterns technology f v = .ok e.patterns ∧
          (∀ p ∈ e.patterns, p.spec.keyRegex = true →
            ∃ r, Regex.ofString? (foldKey f key) = .ok r ∧
              (Regex.Settled key.toList → Regex.ofString? key = .ok r) ∧
              ∀ {α : Type} (values : MultiMap α), valuesFor e p values =
                (values.entries.filter fun x => r.isMatch x.1.toList).flatMap (·.2)) ∧
          ∀ (c : Catalogue) (s : Snapshot) (values : MultiMap String),
            c.get? technology = some sig → s.keyed f = some values →
            (findingsUnder c s technology f (foldKey f key) true).map (·.evidence) =
              (e.patterns.filter fun p => p.spec.keyRegex = true).flatMap fun p =>
                recordsOn technology f (foldKey f key) p
                  ((values.entries.filter fun x => keyMatches (foldKey f key) x.1).flatMap (·.2)) := by
  refine ⟨foldKey_expression f, ?_⟩
  intro technology names sig hcompile
  obtain ⟨es, hes, hentered⟩ := Definition.keyed_entries hcompile hshape hfield hsurvives
  obtain ⟨e, he, hkey, hps⟩ := hentered.entry key v hsurvives
  refine ⟨es, e, hes, he, hps, fun p hp hflag => ?_, fun c s values hc hvalues => ?_⟩
  · obtain ⟨r, hr, hvalues⟩ := valuesFor_expression hp hflag
    rw [hkey] at hr
    refine ⟨r, hr, fun hsettled => ?_, hvalues⟩
    rw [← foldKey_expression f hsettled]
    exact hr
  · rw [← hkey, evidence_findingsUnder hc hes hentered.nodup he hvalues]
    refine List.flatMap_congr fun p hp => ?_
    obtain ⟨hp, hflag⟩ := List.mem_filter.1 hp
    rw [valuesFor_eq_candidates hp, candidates, if_pos (of_decide_eq_true hflag)]

def cookieRule (key : String) : Definition :=
  { fields := SortedMap.empty.insert .cookies (.object [(key, .string "\\;key_regex:1")]) }

theorem survives_cookieRule (key : String) :
    Survives .cookies [(key, .string "\\;key_regex:1")] key (.string "\\;key_regex:1") :=
  ⟨[], [], rfl, ⟨_, _, rfl⟩, by simp⟩

theorem asks_of_cookieRule {e : KeyedPatterns}
    (h : compilePatterns "Session" .cookies (.string "\\;key_regex:1") = .ok e.patterns) :
    ∃ p ∈ e.patterns, p.spec.keyRegex = true := by
  have hasks : (compilePatterns "Session" .cookies (.string "\\;key_regex:1")).toOption.map
      (·.map (·.spec.keyRegex)) = some [true] := by decide +kernel
  rw [h] at hasks
  have hflags : e.patterns.map (·.spec.keyRegex) = [true] := by injection hasks
  have htrue : true ∈ e.patterns.map (·.spec.keyRegex) := by simp [hflags]
  obtain ⟨p, hp, hflag⟩ := List.mem_map.1 htrue
  exact ⟨p, hp, hflag⟩

def showing (cookies : List String) : Snapshot :=
  { cookies := cookies.foldl (fun m name => m.insert name ["x"]) .empty }

theorem keys_compiled_in_lower_case_prefix :
    ∃ sig es e r, (cookieRule "^SID-(A|b)[0-9]*$").compile "Session" [] = .ok sig ∧
      sig.matchers.get? .cookies = some (.keyed es) ∧ e ∈ es ∧
      Regex.ofString? "^SID-(A|b)[0-9]*$" = .ok r ∧ (∃ p ∈ e.patterns, p.spec.keyRegex = true) ∧
      (∀ p ∈ e.patterns, p.spec.keyRegex = true → ∀ values : MultiMap String,
        valuesFor e p values =
          (values.entries.filter fun x => r.isMatch x.1.toList).flatMap (·.2)) ∧
      (findingsUnder (.ofSignatures [sig]) (showing ["sid-a7", "sid-c", "sid-b"]) "Session" .cookies
        "^sid-(a|b)[0-9]*$" true).length = 2 := by
  have hsettled : Regex.Settled "^SID-(A|b)[0-9]*$".toList := by
    change Regex.Settled ['^', 'S', 'I', 'D', '-', '(', 'A', '|', 'b', ')', '[', '0', '-', '9', ']',
      '*', '$']
    refine .char (by decide) (by decide) ?_
    refine .char (by decide) (by decide) ?_
    refine .char (by decide) (by decide) ?_
    refine .char (by decide) (by decide) ?_
    refine .char (by decide) (by decide) ?_
    refine .group (by decide) ?_
    refine .char (by decide) (by decide) ?_
    exact .kept (by decide)
  have hsurvives := survives_cookieRule "^SID-(A|b)[0-9]*$"
  obtain ⟨-, hkeys⟩ :=
    keys_compiled_in_lower_case (d := cookieRule "^SID-(A|b)[0-9]*$") rfl rfl hsurvives
  obtain ⟨sig, hsig⟩ : ∃ sig, (cookieRule "^SID-(A|b)[0-9]*$").compile "Session" [] = .ok sig :=
    exists_ok_of_isSome (by decide +kernel)
  obtain ⟨r, hr⟩ : ∃ r, Regex.ofString? "^SID-(A|b)[0-9]*$" = .ok r :=
    exists_ok_of_isSome (by decide +kernel)
  obtain ⟨es, e, hes, he, hps, hvalues, hfound⟩ := hkeys hsig
  refine ⟨sig, es, e, r, hsig, hes, he, hr, asks_of_cookieRule hps, fun p hp hflag values => ?_, ?_⟩
  · obtain ⟨r', -, hr', htried⟩ := hvalues p hp hflag
    rw [hr] at hr'
    cases hr' hsettled
    exact htried values
  · have hget : (Catalogue.ofSignatures [sig]).get? "Session" = some sig := by
      simp [Definition.name_of_compile hsig]
    have hfold : foldKey .cookies "^SID-(A|b)[0-9]*$" = "^sid-(a|b)[0-9]*$" := by decide +kernel
    have hcount : (compilePatterns "Session" .cookies (.string "\\;key_regex:1")).toOption.map
        (fun ps => ((ps.filter fun p => p.spec.keyRegex = true).flatMap fun p =>
          recordsOn "Session" .cookies "^sid-(a|b)[0-9]*$" p
            (((showing ["sid-a7", "sid-c", "sid-b"]).cookies.entries.filter fun x =>
              keyMatches "^sid-(a|b)[0-9]*$" x.1).flatMap (·.2))).length) = some 2 := by
      decide +kernel
    have hrecords := congrArg List.length
      (hfound _ (showing ["sid-a7", "sid-c", "sid-b"]) _ hget rfl)
    rw [hfold, List.length_map] at hrecords
    rw [hps] at hcount
    exact hrecords.trans (Option.some.inj hcount)

/-- A capital behind a backslash is lost: the key matches a name, the pattern is not tried on what
stands under it, and nothing is found on the page. With a capital in a range the lower-cased key may
not even compile. -/
theorem escaped_capital_lost :
    (∃ sig es e p r, (cookieRule "^\\S+$").compile "Session" [] = .ok sig ∧
      sig.matchers.get? .cookies = some (.keyed es) ∧ e ∈ es ∧ p ∈ e.patterns ∧
      p.spec.keyRegex = true ∧ Regex.ofString? "^\\S+$" = .ok r ∧
      r.isMatch "session".toList = true ∧ p.isMatch "x" = true ∧
      valuesFor e p (SortedMap.empty.insert "session" ["x"]) = [] ∧
      findings (.ofSignatures [sig]) (showing ["session"]) = []) ∧
    (∃ r, Regex.ofString? "^[Z-a]$" = .ok r) ∧
      ((cookieRule "^[Z-a]$").compile "Session" []).toOption.isNone = true := by
  refine ⟨?_, exists_ok_of_isSome (by decide +kernel), by decide +kernel⟩
  obtain ⟨sig, hsig⟩ : ∃ sig, (cookieRule "^\\S+$").compile "Session" [] = .ok sig :=
    exists_ok_of_isSome (by decide +kernel)
  obtain ⟨r, hr⟩ : ∃ r, Regex.ofString? "^\\S+$" = .ok r :=
    exists_ok_of_isSome (by decide +kernel)
  have hsurvives := survives_cookieRule "^\\S+$"
  obtain ⟨es, hes, hentered⟩ := Definition.keyed_entries hsig rfl rfl hsurvives
  obtain ⟨e, he, hkey, hps⟩ := hentered.entry _ _ hsurvives
  obtain ⟨p, hp, hflag⟩ := asks_of_cookieRule hps
  refine ⟨sig, es, e, p, r, hsig, hes, he, hp, hflag, hr, ?_, ?_, ?_, ?_⟩
  · have hmatch : (Regex.ofString? "^\\S+$").toOption.map (·.isMatch "session".toList) =
        some true := by decide +kernel
    rw [hr] at hmatch
    injection hmatch
  · have hall : (compilePatterns "Session" .cookies (.string "\\;key_regex:1")).toOption.map
        (·.all (·.isMatch "x")) = some true := by decide +kernel
    rw [hps] at hall
    exact List.all_eq_true.1 (Option.some.inj hall) p hp
  · obtain ⟨r', hr', htried⟩ := valuesFor_expression hp hflag
    have hother : (Regex.ofString? (foldKey .cookies "^\\S+$")).toOption.map
        (·.isMatch "session".toList) = some false := by decide +kernel
    rw [← hkey, hr'] at hother
    have hmiss : r'.isMatch "session".toList = false := by injection hother
    rw [htried]
    change ([("session", ["x"])].filter fun x => r'.isMatch x.1.toList).flatMap (·.2) = []
    rw [List.filter_cons_of_neg (by rw [hmiss]; simp)]
    rfl
  · have hnone : ((cookieRule "^\\S+$").compile "Session" []).toOption.map (fun sig =>
        (findings (.ofSignatures [sig]) (showing ["session"])).isEmpty) = some true := by
      decide +kernel
    rw [hsig] at hnone
    exact List.isEmpty_iff.1 (Option.some.inj hnone)

end Matching

end Webprint
