import Mathlib.Data.List.TakeDrop
import Webprint.Page.Address
import Webprint.Proofs.Blanks
import Webprint.Proofs.Search
import Webprint.Proofs.Steps

set_option autoImplicit false

/-!
# Addresses without a scheme

An address that names no scheme ought to be read under `http`. Whether it names one is told by the
mark `://`, which counts wherever it stands. Without the mark an address is completed as it ought to
be. With the mark in its path, query or fragment it is read as it stands: it has no scheme then, or
what stands before its first colon is taken for one.
-/

namespace Webprint

namespace Url

/-! ## Schemes -/

/-- The name of a scheme: a letter, and behind it letters, digits, plus and minus signs and dots. -/
def SchemeName (name : List Char) : Prop :=
  name.head?.any isAsciiLetter = true ∧ ∀ c ∈ name, isSchemeChar c = true

/-- The text begins with the name of a scheme and a colon with two slashes. -/
def NamesScheme (s : List Char) : Prop :=
  ∃ name rest, SchemeName name ∧ s = name ++ "://".toList ++ rest

theorem scheme?_eq_some {s name rest : List Char} :
    scheme? s = some (name, rest) ↔
      ∃ spelled, SchemeName spelled ∧ s = spelled ++ ':' :: rest ∧
        spelled.map Char.toLower = name := by
  have hcolon : isSchemeChar ':' = false := by decide
  constructor
  · intro h
    have hparts := List.takeWhile_append_dropWhile (p := isSchemeChar) (l := s)
    have hall : ∀ c ∈ s.takeWhile isSchemeChar, isSchemeChar c = true := fun _ =>
      List.mem_takeWhile_imp
    rw [scheme?, List.span_eq_takeWhile_dropWhile] at h
    split at h
    case h_1 spelled behind heq =>
      obtain ⟨hspelled, hbehind⟩ := Prod.mk.inj heq
      rw [hspelled, hbehind] at hparts
      rw [hspelled] at hall
      split_ifs at h with hletter
      obtain ⟨hname, rfl⟩ := Prod.mk.inj (Option.some.inj h)
      exact ⟨spelled, ⟨hletter, hall⟩, hparts.symm, hname⟩
    case h_2 => cases h
  · rintro ⟨spelled, ⟨hletter, hall⟩, rfl, rfl⟩
    rw [scheme?, List.span_eq_takeWhile_dropWhile, List.takeWhile_append_of_pos hall,
      List.dropWhile_append_of_pos hall, List.takeWhile_cons_of_neg (by simp [hcolon]),
      List.dropWhile_cons_of_neg (by simp [hcolon]), List.append_nil]
    exact if_pos hletter

theorem namesScheme_iff {s : List Char} :
    NamesScheme s ↔ ∃ r ∈ scheme? s, ['/', '/'] <+: r.2 := by
  constructor
  · rintro ⟨name, rest, hname, rfl⟩
    refine ⟨(name.map Char.toLower, '/' :: '/' :: rest), scheme?_eq_some.2 ⟨name, hname, ?_, rfl⟩,
      List.prefix_append _ rest⟩
    simp
  · rintro ⟨⟨lowered, _⟩, hread, rest, rfl⟩
    obtain ⟨name, hname, hs, -⟩ := scheme?_eq_some.1 hread
    exact ⟨name, rest, hname, by simpa using hs⟩

theorem toLower_ne_colon {c : Char} (h : isSchemeChar c = true) : c.toLower ≠ ':' := by
  intro hlower
  unfold Char.toLower at hlower
  split_ifs at hlower with hcapital
  · have hval : c.val + 32 = 58 := congrArg Char.val hlower
    have hlo : 65 ≤ c.val := hcapital.1
    have hhi : c.val ≤ 90 := hcapital.2
    grind
  · subst hlower
    revert h
    decide

theorem colon_not_mem_scheme {s name rest : List Char} (h : scheme? s = some (name, rest)) :
    ':' ∉ name := by
  obtain ⟨spelled, hspelled, -, rfl⟩ := scheme?_eq_some.1 h
  intro hcolon
  obtain ⟨c, hc, hlower⟩ := List.mem_map.1 hcolon
  exact toLower_ne_colon (hspelled.2 c hc) hlower

instance : DecidablePred NamesScheme := fun _ => decidable_of_iff _ namesScheme_iff.symm

/-! ## Errors other than a missing scheme -/

section Found

variable {α β : Type}

def Found (x : Except UrlError α) : Prop := x ≠ .error .noScheme

theorem found_ok (a : α) : Found (.ok a) := nofun

theorem found_error {e : UrlError} (h : e ≠ .noScheme) : Found (.error e : Except UrlError α) :=
  fun heq => h (Except.error.inj heq)

theorem Found.bind {x : Except UrlError α} {f : α → Except UrlError β} (hx : Found x)
    (hf : ∀ a, Found (f a)) : Found (x >>= f) := by
  cases x with
  | error e => exact fun h => hx (congrArg _ (Except.error.inj h))
  | ok a => exact hf a

end Found

theorem found_bracketed (s : List Char) : Found (Host.bracketed s) := by
  unfold Host.bracketed
  split_ifs
  · split
    · exact found_ok _
    · exact found_error (by decide)
  · exact found_error (by decide)

theorem found_host (s : List Char) : Found (Host.parse s) := by
  unfold Host.parse
  split_ifs
  · exact found_bracketed s
  · split
    · exact found_error (by decide)
    · exact found_error (by decide)
    · split_ifs
      · split
        · exact found_ok _
        · exact found_error (by decide)
      · exact found_ok _

theorem found_opaqueHost (s : List Char) : Found (Host.parseOpaque s) := by
  unfold Host.parseOpaque
  split_ifs
  · exact found_bracketed s
  · exact found_error (by decide)
  · exact found_ok _

theorem found_port (scheme s : List Char) : Found (readPort scheme s) := by
  unfold readPort
  split
  · dsimp only
    split_ifs
    · exact found_error (by decide)
    · exact found_ok _
    · exact found_ok _
  · exact found_ok _

theorem found_authority (kind : SchemeKind) (scheme s : List Char) :
    Found (readAuthority kind scheme s) := by
  unfold readAuthority
  extract_lets whole
  have hwhole (x) : Found (whole x) := by
    obtain ⟨⟨username, password⟩, s⟩ := x
    dsimp -zeta only [whole]
    extract_lets name rest behind
    have hbehind (host : Host) : Found (behind host) := by
      dsimp -zeta only [behind]
      extract_lets port
      have hport (u : PUnit) : Found (port u) := by
        refine (found_port scheme rest).bind fun x => ?_
        dsimp only
        split_ifs
        · exact found_error (by decide)
        · exact found_ok _
      split_ifs
      · exact found_error (by decide)
      · exact hport ()
    split_ifs
    · exact (found_opaqueHost name).bind hbehind
    · exact found_error (by decide)
    · exact (found_host name).bind hbehind
  dsimp only
  split
  · exact (found_ok _).bind hwhole
  · split_ifs
    · exact (found_ok _).bind hwhole
    · exact found_error (by decide)
  · exact (found_ok _).bind hwhole

theorem found_file (scheme s : List Char) : Found (readFile scheme s) := by
  unfold readFile
  split
  extract_lets under
  have hunder (host : Host) : Found (under host) := found_ok _
  split_ifs
  · exact hunder _
  · exact (found_host _).bind hunder

theorem found_other (scheme s : List Char) : Found (readOther scheme s) := by
  unfold readOther
  split
  · exact (found_authority .other scheme _).bind fun _ => found_ok _
  · exact found_ok _
  · exact found_ok _

/-! ## Whole addresses -/

theorem scheme_of_readFile {scheme s : List Char} {u : Url} (h : readFile scheme s = .ok u) :
    u.scheme = scheme := by
  unfold readFile at h
  split at h
  extract_lets under at h
  have hunder {host : Host} (h : under host = .ok u) : u.scheme = scheme := by
    cases h
    rfl
  split_ifs at h
  · exact hunder h
  · obtain ⟨host, -, h⟩ := ok_of_bind h
    exact hunder h

theorem scheme_of_readOther {scheme s : List Char} {u : Url} (h : readOther scheme s = .ok u) :
    u.scheme = scheme := by
  unfold readOther at h
  split at h
  · obtain ⟨_, -, h⟩ := ok_of_bind h
    cases h
    rfl
  all_goals
    cases h
    rfl

theorem parse_of_scheme {s name rest : List Char}
    (h : scheme? (significant s) = some (name, rest)) :
    parse s = match schemeKind name with
      | .file => readFile name rest
      | .other => readOther name rest
      | .special => do
        let (authority, s) ← readAuthority .special name (rest.dropWhile (isSlash .special))
        let (path, s) := readPath .special s
        return assemble .special name (some authority) path s := by
  unfold parse
  generalize scheme? (significant s) = found at h ⊢
  subst h
  rfl

theorem scheme_of_parse {s name rest : List Char} {u : Url}
    (hscheme : scheme? (significant s) = some (name, rest)) (h : parse s = .ok u) :
    u.scheme = name := by
  rw [parse_of_scheme hscheme] at h
  split at h
  · exact scheme_of_readFile h
  · exact scheme_of_readOther h
  · obtain ⟨_, -, h⟩ := ok_of_bind h
    cases h
    rfl

theorem parse_eq_noScheme_iff {s : List Char} :
    parse s = .error .noScheme ↔ scheme? (significant s) = none := by
  constructor
  · intro h
    by_contra hsome
    obtain ⟨⟨name, rest⟩, hscheme⟩ := Option.ne_none_iff_exists'.1 hsome
    have hfound : Found (parse s) := by
      rw [parse_of_scheme hscheme]
      split
      · exact found_file name rest
      · exact found_other name rest
      · exact (found_authority .special name _).bind fun _ => found_ok _
    exact hfound h
  · intro h
    rw [parse, h]

theorem exists_text_eq (u : Url) : ∃ behind, u.text = u.scheme ++ ':' :: behind := by
  rw [text]
  simp only [List.append_assoc, List.cons_append]
  exact ⟨_, rfl⟩

theorem takeWhile_text {s name rest : List Char} {u : Url}
    (hscheme : scheme? (significant s) = some (name, rest)) (h : parse s = .ok u) :
    u.text.takeWhile (· ≠ ':') = name := by
  have hkept : ∀ c ∈ name, decide (c ≠ ':') = true := by
    intro c hc
    have hne : c ≠ ':' := fun heq => colon_not_mem_scheme hscheme (heq ▸ hc)
    simpa using hne
  obtain ⟨behind, htext⟩ := exists_text_eq u
  rw [htext, scheme_of_parse hscheme h, List.takeWhile_append_of_pos hkept,
    List.takeWhile_cons_of_neg (by simp), List.append_nil]

/-- Under a scheme that browsers do not know, anything can be read that no two slashes begin. -/
theorem exists_parse_of_other {s name rest : List Char}
    (hscheme : scheme? (significant s) = some (name, rest)) (hother : schemeKind name = .other)
    (hslashes : ¬ ['/', '/'] <+: rest) : ∃ u, parse s = .ok u := by
  rw [parse_of_scheme hscheme, hother]
  dsimp only
  unfold readOther
  split
  · exact absurd (List.prefix_append _ _) hslashes
  · exact ⟨_, rfl⟩
  · exact ⟨_, rfl⟩

/-! ## Addresses under http -/

theorem exists_scheme?_http (s : List Char) :
    ∃ rest, scheme? (significant ("http://".toList ++ s)) = some ("http".toList, rest) := by
  have hstart : ("http://".toList ++ s).dropWhile (·.toNat ≤ 0x20) = "http://".toList ++ s := rfl
  have hend := Text.dropEndWhile_append_of_kept (p := (·.toNat ≤ 0x20)) (s := "http://".toList)
    (by decide) s
  have hsignificant : significant ("http://".toList ++ s) = "http://".toList ++
      (Text.dropEndWhile (·.toNat ≤ 0x20) s).filter fun c =>
        !(c == '\t' || c == '\n' || c == '\x0d') := by
    rw [significant, hstart, hend, List.filter_append]
    rfl
  have hname : SchemeName "http".toList := ⟨by decide, List.all_eq_true.1 (by decide)⟩
  exact ⟨_, scheme?_eq_some.2 ⟨"http".toList, hname, hsignificant, by decide⟩⟩

end Url

/-! ## Addresses of pages -/

open Url (NamesScheme)

def addressUnderHttp (address : String) : Except UrlError String :=
  (Url.parse ("http://".toList ++ Text.trim address.toList)).map fun u => String.ofList u.text

theorem hasSchemeMark_iff {s : List Char} : hasSchemeMark s = true ↔ "://".toList <:+: s :=
  Text.isSome_partAt?_iff (by decide)

theorem pageAddress_of_mark {address : String} (h : "://".toList <:+: Text.trim address.toList) :
    pageAddress address =
      (Url.parse (Text.trim address.toList)).map fun u => String.ofList u.text := by
  rw [pageAddress, withScheme, if_pos (hasSchemeMark_iff.2 h)]

theorem pageAddress_of_no_mark {address : String}
    (h : ¬ "://".toList <:+: Text.trim address.toList) :
    pageAddress address = addressUnderHttp address := by
  rw [pageAddress, withScheme, if_neg fun hmark => h (hasSchemeMark_iff.1 hmark)]
  rfl

theorem addressUnderHttp_ne_noScheme (address : String) :
    addressUnderHttp address ≠ .error .noScheme := by
  obtain ⟨rest, hscheme⟩ := Url.exists_scheme?_http (Text.trim address.toList)
  rw [addressUnderHttp]
  intro h
  have hnone : Url.parse ("http://".toList ++ Text.trim address.toList) = .error .noScheme := by
    cases hparse : Url.parse ("http://".toList ++ Text.trim address.toList) with
    | error e =>
      rw [hparse] at h
      exact congrArg _ (Except.error.inj h)
    | ok u =>
      rw [hparse] at h
      cases h
  rw [Url.parse_eq_noScheme_iff, hscheme] at hnone
  cases hnone

theorem scheme_of_addressUnderHttp {address text : String}
    (h : addressUnderHttp address = .ok text) :
    text.toList.takeWhile (· ≠ ':') = "http".toList := by
  obtain ⟨rest, hscheme⟩ := Url.exists_scheme?_http (Text.trim address.toList)
  obtain ⟨u, hu, rfl⟩ := ok_of_map h
  rw [String.toList_ofList]
  exact Url.takeWhile_text hscheme hu

/-- What becomes of an address that names no scheme. It is read under `http` if the mark of a scheme
stands nowhere in it. Otherwise it is read as it stands, which gives something else: no address if
nothing in front can be taken for a scheme, and an address under what can be taken for one if this
is no scheme that browsers know and the text is read whole, with no controls around it and no tabs
or line ends in it that are dropped first. -/
theorem pageAddress_of_no_scheme {address : String}
    (h : ¬ NamesScheme (Text.trim address.toList)) :
    (¬ "://".toList <:+: Text.trim address.toList →
      pageAddress address = addressUnderHttp address) ∧
    ("://".toList <:+: Text.trim address.toList →
      pageAddress address =
        (Url.parse (Text.trim address.toList)).map (fun u => String.ofList u.text) ∧
      (Url.scheme? (Url.significant (Text.trim address.toList)) = none →
        pageAddress address = .error .noScheme ∧ addressUnderHttp address ≠ .error .noScheme) ∧
      (Url.significant (Text.trim address.toList) = Text.trim address.toList →
        ∀ r ∈ Url.scheme? (Text.trim address.toList), Url.schemeKind r.1 = .other →
          ∃ text, pageAddress address = .ok text ∧ text.toList.takeWhile (· ≠ ':') = r.1 ∧
            addressUnderHttp address ≠ .ok text)) := by
  refine ⟨pageAddress_of_no_mark, fun hmark => ?_⟩
  rw [pageAddress_of_mark hmark]
  refine ⟨rfl, fun hnone => ⟨?_, addressUnderHttp_ne_noScheme address⟩, ?_⟩
  · rw [Url.parse_eq_noScheme_iff.2 hnone]
    rfl
  · rintro hsame ⟨name, rest⟩ hread hother
    have hslashes : ¬ ['/', '/'] <+: rest := fun hslashes =>
      h (Url.namesScheme_iff.2 ⟨(name, rest), hread, hslashes⟩)
    have hscheme :
        Url.scheme? (Url.significant (Text.trim address.toList)) = some (name, rest) := by
      rw [hsame]
      exact hread
    obtain ⟨u, hu⟩ := Url.exists_parse_of_other hscheme hother hslashes
    have hname := Url.takeWhile_text hscheme hu
    refine ⟨String.ofList u.text, by rw [hu]; rfl, ?_, fun hhttp => ?_⟩
    · rw [String.toList_ofList]
      exact hname
    · have hsamename := scheme_of_addressUnderHttp hhttp
      rw [String.toList_ofList, hname] at hsamename
      have hknown : Url.schemeKind "http".toList ≠ .other := by decide
      rw [hsamename] at hother
      exact hknown hother

def loginAddress : String := "localhost:8080/login?next=http://x/"

/-- The host is taken for a scheme. -/
theorem pageAddress_of_no_scheme_login : ¬ NamesScheme (Text.trim loginAddress.toList) ∧
    ∃ text, pageAddress loginAddress = .ok text ∧
      text.toList.takeWhile (· ≠ ':') = "localhost".toList ∧
      addressUnderHttp loginAddress ≠ .ok text := by
  have hnone : ¬ NamesScheme (Text.trim loginAddress.toList) := by decide +kernel
  have hread : ("localhost".toList, "8080/login?next=http://x/".toList) ∈
      Url.scheme? (Text.trim loginAddress.toList) := by decide +kernel
  obtain ⟨-, -, hother⟩ := (pageAddress_of_no_scheme hnone).2 (by decide +kernel)
  exact ⟨hnone, hother (by decide +kernel) _ hread (by decide)⟩

theorem embedded_address_not_completed :
    (¬ NamesScheme (Text.trim "example.com?u=http://x".toList) ∧
      error? (pageAddress "example.com?u=http://x") = some .noScheme ∧
      (addressUnderHttp "example.com?u=http://x").toOption =
        some "http://example.com/?u=http://x") ∧
    (¬ NamesScheme (Text.trim loginAddress.toList) ∧
      (pageAddress loginAddress).toOption = some loginAddress ∧
      (addressUnderHttp loginAddress).toOption =
        some "http://localhost:8080/login?next=http://x/") := by
  decide +kernel

end Webprint
