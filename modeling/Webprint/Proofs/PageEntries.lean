import Mathlib.Data.List.DropRight
import Webprint.Page.Builder
import Webprint.Proofs.CompiledFields
import Webprint.Proofs.Findings
import Webprint.Proofs.LetterCase
import Webprint.Proofs.Words

set_option autoImplicit false

/-!
# Entries of a page

A page shows values under names: headers line by line, the cookies that it sets, and its meta tags. A
pattern under a key of a rule is tried on the values under those names that differ from the key in
letter case only, in the order of the page.
-/

namespace Webprint

/-! ## Values under names -/

section Push

variable {α : Type}

theorem MultiMap.getD_push (m : MultiMap α) (k : String) (a : α) (j : String) :
    ((m.push k a).get? j).getD [] = (m.get? j).getD [] ++ if k = j then [a] else [] := by
  rw [push]
  by_cases h : k = j
  · subst h
    simp
  · simp [h]

theorem MultiMap.getD_foldl_push (es : List (String × α)) (m : MultiMap α) (k : String) :
    ((es.foldl (fun m e => m.push e.1 e.2) m).get? k).getD [] =
      (m.get? k).getD [] ++ (es.filter fun e => e.1 = k).map (·.2) := by
  induction es generalizing m with
  | nil => simp
  | cons e es ih =>
    rw [List.foldl_cons, ih, getD_push, List.filter_cons]
    by_cases h : e.1 = k <;> simp [h]

end Push

/-- A value with its name as the page spells it. -/
structure PageEntry where
  name : String
  value : String
deriving DecidableEq

namespace PageEntry

/-- The values under those names that are a given one, letter case apart. -/
def valuesUnder (key : String) (es : List PageEntry) : List String :=
  (es.filter fun e => Snapshot.lowerName e.name = Snapshot.lowerName key).map (·.value)

def gather (es : List PageEntry) : MultiMap String :=
  (es.map fun e => (Snapshot.lowerName e.name, e.value)).foldl (fun m e => m.push e.1 e.2) .empty

theorem get?_gather (es : List PageEntry) (key : String) :
    ((gather es).get? (Snapshot.lowerName key)).getD [] = valuesUnder key es := by
  rw [gather, MultiMap.getD_foldl_push, List.filter_map, List.map_map]
  rfl

end PageEntry

/-! ## What a page shows -/

namespace Page

open PageEntry

def headerLines (h : Header) : List PageEntry :=
  ((Text.mendUtf8 h.value).splitOn '\n').map fun line =>
    ⟨h.name.text, String.ofList (line.rdropWhile (· == '\r'))⟩

def headerEntries (hs : List Header) : List PageEntry := hs.flatMap headerLines

/-- A line that sets a cookie has an equals sign, and something other than blanks before the first
one. -/
def shownCookie? (line : String) : Option PageEntry :=
  match line.toList.dropWhile (· ≠ '=') with
  | [] => none
  | _ :: value =>
    let name := Text.trim (line.toList.takeWhile (· ≠ '='))
    if name = [] then none else some ⟨String.ofList name, String.ofList value⟩

def cookieEntries (hs : List Header) : List PageEntry :=
  (valuesUnder cookieHeader (headerEntries hs)).filterMap shownCookie?

/-- A meta tag with a content shows it under its name or, without one, under its property. -/
def shownMeta? (t : Html.Tag) : Option PageEntry :=
  match t.attribute? "content" with
  | none => none
  | some content =>
    match t.attribute? "name" with
    | some name => some ⟨name, content⟩
    | none => (t.attribute? "property").map fun property => ⟨property, content⟩

def metaEntries (ts : List Html.Tag) : List PageEntry :=
  (ts.filter (isStart "meta")).filterMap shownMeta?

/-! ## Headers -/

theorem toNat_lt_of_isNameChar {c : Char} (h : isNameChar c = true) : c.toNat < 0x80 := by
  rw [isNameChar, Bool.or_eq_true, Bool.or_eq_true, Bool.and_eq_true] at h
  rcases h with (⟨-, hz⟩ | hdigit) | hsign
  · have hbelow : c.toNat ≤ 122 := of_decide_eq_true hz
    omega
  · have hrange : '0' ≤ c ∧ c ≤ '9' := by simpa [Char.isDigit, Char.le_def] using hdigit
    have hbelow : c.toNat ≤ 57 := hrange.2
    omega
  · exact Regex.of_all (P := fun c => c.toNat < 0x80) (by decide) (List.contains_iff_mem.1 hsign)

theorem lower_of_isNameChar {c : Char} (h : isNameChar c = true) : Regex.lower c = c := by
  have hcapital : c ∉ Regex.capitals := by
    intro hc
    have hnot : isNameChar c = false :=
      Regex.of_all (P := fun c => isNameChar c = false) (by decide) hc
    rw [hnot] at h
    cases h
  exact Regex.lower_of_ascii (toNat_lt_of_isNameChar h) hcapital

@[simp] theorem lowerName_header (n : HeaderName) : Snapshot.lowerName n.text = n.text := by
  have hvalid := n.valid
  rw [isHeaderName, Bool.and_eq_true, Bool.and_eq_true, List.all_eq_true] at hvalid
  have hlower (c : Char) (hc : c ∈ n.text.toList) : Regex.lower c = c :=
    lower_of_isNameChar (hvalid.2 c hc)
  have hsame : Unicode.lowercase n.text.toList = n.text.toList := by
    rw [Unicode.lowercase, Regex.lowercaseAfter_of_ordinary [] fun c hc => .inl (hlower c hc),
      List.map_congr_left hlower, List.map_id']
  rw [Snapshot.lowerName, hsame, String.ofList_toList]

theorem headerLines_eq (h : Header) :
    headerLines h = (valueLines h.value).map fun line => ⟨h.name.text, line⟩ := by
  rw [headerLines, valueLines, Text.splitWhere_eq_splitOnP, List.map_map]
  rfl

theorem headerMap_eq_gather (hs : List Header) : headerMap hs = gather (headerEntries hs) := by
  rw [headerMap, gather, headerEntries, List.map_flatMap, List.foldl_flatMap]
  -- header names are in lower case already
  simp only [headerLines_eq, List.map_map, List.foldl_map, Function.comp_apply, lowerName_header]

/-! ## Cookies -/

theorem partAt?_char (c : Char) (s : List Char) :
    Text.partAt? [c] s = match s.dropWhile (· ≠ c) with
      | [] => none
      | _ :: rest => some (s.takeWhile (· ≠ c), rest) := by
  induction s with
  | nil => rfl
  | cons d s ih =>
    by_cases h : d = c
    · simp [Text.partAt?, Text.after?, h]
    · have hne : c ≠ d := fun heq => h heq.symm
      have hd : decide (d ≠ c) = true := by simpa using h
      rw [Text.partAt?, ih]
      simp only [Text.after?, if_neg hne, List.dropWhile_cons, List.takeWhile_cons, if_pos hd]
      cases s.dropWhile (· ≠ c) <;> rfl

theorem cookie?_eq (line : String) :
    cookie? line = (shownCookie? line).map fun e => (Snapshot.lowerName e.name, e.value) := by
  rw [cookie?, shownCookie?, partAt?_char]
  cases line.toList.dropWhile (· ≠ '=') with
  | nil => rfl
  | cons _ value =>
    simp only [List.isEmpty_iff]
    split <;> rfl

theorem cookieMap_eq_gather (hs : List Header) :
    cookieMap (headerMap hs) = gather (cookieEntries hs) := by
  have hlines : ((headerMap hs).get? cookieHeader).getD [] =
      valuesUnder cookieHeader (headerEntries hs) := by
    rw [headerMap_eq_gather, ← get?_gather]
    rfl
  rw [cookieMap, hlines, gather, cookieEntries, List.map_filterMap]
  simp only [cookie?_eq]

/-! ## Meta tags -/

theorem metaTag?_eq (t : Html.Tag) :
    metaTag? t = (shownMeta? t).map fun e => (Snapshot.lowerName e.name, e.value) := by
  rw [metaTag?, shownMeta?]
  cases t.attribute? "name" <;> cases t.attribute? "property" <;> cases t.attribute? "content" <;> rfl

theorem metaMap_eq_gather (ts : List Html.Tag) : metaMap ts = gather (metaEntries ts) := by
  rw [metaMap, gather, metaEntries, List.map_filterMap]
  simp only [metaTag?_eq]

def entries (hs : List Header) (ts : List Html.Tag) : Field → List PageEntry
  | .headers => headerEntries hs
  | .cookies => cookieEntries hs
  | .metaTags => metaEntries ts
  | _ => []

end Page

/-! ## Snapshots -/

namespace Snapshot

/-- How a snapshot is built, with the headers and the tags of the page as they were given last. -/
inductive Built : Snapshot → List Header → List Html.Tag → Prop where
  | start (url : Option String) : Built { url } [] []
  | headers {s : Snapshot} {old : List Header} {ts : List Html.Tag} (h : Built s old ts)
    (hs : List Header) : Built (s.withHeaders hs) hs ts
  | document {s : Snapshot} {hs : List Header} {old : List Html.Tag} (h : Built s hs old)
    (text : String) : Built (s.withDocument text) hs (Html.tags text)
  | texts {s : Snapshot} {hs : List Header} {ts : List Html.Tag} (h : Built s hs ts)
    (css robots certIssuer : Option String) : Built { s with css, robots, certIssuer } hs ts
  | globals {s : Snapshot} {hs : List Header} {ts : List Html.Tag} (h : Built s hs ts)
    (c : Catalogue) (lookup : JsLookup) : Built (s.collectJs c lookup) hs ts

theorem exists_js_collectFor (lookup : JsLookup) (s : Snapshot) (sig : Signature) :
    ∃ js, collectFor lookup s sig = { s with js } := by
  unfold collectFor
  induction sig.jsKeys generalizing s with
  | nil => exact ⟨s.js, rfl⟩
  | cons key keys ih =>
    rw [List.foldl_cons]
    cases declaredValue? lookup key with
    | none => exact ih s
    | some v => exact ih (s.withJs sig.name key v)

theorem exists_js_collectJs (s : Snapshot) (c : Catalogue) (lookup : JsLookup) :
    ∃ js, s.collectJs c lookup = { s with js } := by
  unfold collectJs
  induction c.signatures generalizing s with
  | nil => exact ⟨s.js, rfl⟩
  | cons sig sigs ih =>
    obtain ⟨js, hjs⟩ := exists_js_collectFor lookup s sig
    rw [List.foldl_cons, hjs]
    exact ih { s with js }

structure Shows (s : Snapshot) (hs : List Header) (ts : List Html.Tag) : Prop where
  headers : s.headers = PageEntry.gather (Page.headerEntries hs)
  cookies : s.cookies = PageEntry.gather (Page.cookieEntries hs)
  metaTags : s.metaTags = PageEntry.gather (Page.metaEntries ts)

theorem Built.shows {s : Snapshot} {hs : List Header} {ts : List Html.Tag} (h : Built s hs ts) :
    Shows s hs ts := by
  -- each part is replaced as a whole, so only the call that sets it matters
  induction h with
  | start url => exact ⟨rfl, rfl, rfl⟩
  | headers _ hs ih => exact ⟨Page.headerMap_eq_gather hs, Page.cookieMap_eq_gather hs, ih.metaTags⟩
  | document _ text ih => exact ⟨ih.headers, ih.cookies, Page.metaMap_eq_gather (Html.tags text)⟩
  | texts _ css robots certIssuer ih => exact ⟨ih.headers, ih.cookies, ih.metaTags⟩
  | @globals s _ _ _ c lookup ih =>
    obtain ⟨js, hjs⟩ := exists_js_collectJs s c lookup
    rw [hjs]
    exact ⟨ih.headers, ih.cookies, ih.metaTags⟩

theorem Built.keyed {s : Snapshot} {hs : List Header} {ts : List Html.Tag} (h : Built s hs ts)
    {f : Field} (hshape : f.shape = .keyed) (hjs : f ≠ .js) :
    s.keyed f = some (PageEntry.gather (Page.entries hs ts f)) := by
  cases f with
  | headers => exact congrArg some h.shows.headers
  | cookies => exact congrArg some h.shows.cookies
  | metaTags => exact congrArg some h.shows.metaTags
  | js => exact absurd rfl hjs
  | _ => cases hshape

end Snapshot

namespace Matching

/-- A surviving key of a compiled definition has one entry. Every pattern in it that does not take the
key for an expression is tried on the values of exactly those entries of the page whose names are the
key, letter case apart, in the order of the page. So the evidence that any catalogue with this
technology records under the key, of such patterns, is what they record of these values. -/
theorem tried_on_entries {d : Definition} {technology : String} {names : CategoryNames}
    {sig : Signature} (hcompile : d.compile technology names = .ok sig) {f : Field}
    (hshape : f.shape = .keyed) (hjs : f ≠ .js) {members : List (String × Json.Value)}
    (hfield : d.fields.get? f = some (.object members)) {key : String} {v : Json.Value}
    (hsurvives : Survives f members key v) {s : Snapshot} {hs : List Header} {ts : List Html.Tag}
    (hbuilt : s.Built hs ts) :
    ∃ es e, ∃ tried : KeyedPatterns → Pattern → List String,
      sig.matchers.get? f = some (.keyed es) ∧ e ∈ es ∧
      (∀ x ∈ es, x.key = foldKey f key ↔ x = e) ∧
      compilePatterns technology f v = .ok e.patterns ∧
      matchField technology s f (.keyed es) =
        (es.flatMap fun x => x.patterns.flatMap fun p =>
          (tried x p).flatMap fun w => test technology f (some x.key) p (.text w)) ∧
      (∀ p ∈ e.patterns, p.spec.keyRegex = false →
        tried e p = PageEntry.valuesUnder key (Page.entries hs ts f)) ∧
      ∀ c : Catalogue, c.get? technology = some sig →
        (findingsUnder c s technology f (foldKey f key) false).map (·.evidence) =
          (e.patterns.filter fun p => p.spec.keyRegex = false).flatMap fun p =>
            recordsOn technology f (foldKey f key) p
              (PageEntry.valuesUnder key (Page.entries hs ts f)) := by
  obtain ⟨es, hes, hentered⟩ := Definition.keyed_entries hcompile hshape hfield hsurvives
  obtain ⟨e, he, hkey, hps⟩ := hentered.entry key v hsurvives
  have hvalues := hbuilt.keyed hshape hjs
  have hfolded : foldKey f key = Snapshot.lowerName key := by
    rw [foldKey, Field.caseSensitiveKeys, if_neg (by simpa using hjs)]
    rfl
  have htried : ∀ p ∈ e.patterns, p.spec.keyRegex = false →
      valuesFor e p (PageEntry.gather (Page.entries hs ts f)) =
        PageEntry.valuesUnder key (Page.entries hs ts f) := by
    intro p _ hexact
    rw [valuesFor_exact hexact, hkey, hfolded, PageEntry.get?_gather]
  refine ⟨es, e, fun x p => valuesFor x p (PageEntry.gather (Page.entries hs ts f)), hes, he,
    fun x hx => ⟨fun hxe => ?_, ?_⟩, hps, ?_, htried, fun c hc => ?_⟩
  · exact List.inj_on_of_nodup_map hentered.nodup hx he (hxe.trans hkey.symm)
  · rintro rfl
    exact hkey
  · simp only [matchField, if_neg hjs, hvalues, matchKeyed]
  · rw [← hkey, evidence_findingsUnder hc hes hentered.nodup he hvalues]
    refine List.flatMap_congr fun p hp => ?_
    obtain ⟨hp, hexact⟩ := List.mem_filter.1 hp
    rw [htried p hp (of_decide_eq_true hexact)]

def knownByCookie (key : String) : Definition :=
  { fields := SortedMap.empty.insert .cookies (.object [(key, .string "(.+)\\;version:\\1")]) }

def setsCookie (line : String) : Header := ⟨⟨"set-cookie", by decide⟩, Text.utf8Bytes line⟩

def threeCookies : List Header :=
  [setsCookie "phpsessid=a=b; path=/", setsCookie "other=c", setsCookie " PhpSessId =d"]

theorem tried_on_entries_cookies :
    ∃ sig, (knownByCookie "PHPSESSID").compile "PHP" [] = .ok sig ∧
      (findingsUnder (.ofSignatures [sig]) (({} : Snapshot).withHeaders threeCookies) "PHP" .cookies
          "phpsessid" false).map (·.evidence.version) = ["a=b; path=/", "d"] := by
  obtain ⟨sig, hsig⟩ : ∃ sig, (knownByCookie "PHPSESSID").compile "PHP" [] = .ok sig :=
    exists_ok_of_isSome (by decide +kernel)
  have hbuilt := Snapshot.Built.headers (.start none) threeCookies
  have hsurvives : Survives .cookies [("PHPSESSID", .string "(.+)\\;version:\\1")] "PHPSESSID"
      (.string "(.+)\\;version:\\1") :=
    ⟨[], [], rfl, ⟨_, _, rfl⟩, by simp⟩
  obtain ⟨es, e, tried, hes, -, -, hps, -, -, hfound⟩ :=
    tried_on_entries hsig rfl (by decide) rfl hsurvives hbuilt
  have hget : (Catalogue.ofSignatures [sig]).get? "PHP" = some sig := by
    simp [Definition.name_of_compile hsig]
  have hversions : (compilePatterns "PHP" .cookies (.string "(.+)\\;version:\\1")).toOption.map
      (fun ps => ((ps.filter fun p => p.spec.keyRegex = false).flatMap fun p =>
        recordsOn "PHP" .cookies (foldKey .cookies "PHPSESSID") p
          (PageEntry.valuesUnder "PHPSESSID" (Page.entries threeCookies [] .cookies))).map
            (·.version)) = some ["a=b; path=/", "d"] := by decide +kernel
  refine ⟨sig, hsig, ?_⟩
  rw [hps] at hversions
  have hfold : foldKey .cookies "PHPSESSID" = "phpsessid" := by decide +kernel
  have hrecords := congrArg (List.map (·.version)) (hfound _ hget)
  rw [List.map_map, hfold] at hrecords
  rw [hfold] at hversions
  exact hrecords.trans (Option.some.inj hversions)

end Matching

end Webprint
