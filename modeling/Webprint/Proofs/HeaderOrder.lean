import Webprint.Detector
import Webprint.Proofs.Mending
import Webprint.Proofs.PageEntries

set_option autoImplicit false

/-!
# The order of headers

A response is told apart from another by the lines that its headers give under each name. How
headers with different names are mixed does not show, and neither does how the lines of one name are
spread over values.
-/

namespace Webprint

/-! ## Maps that values are pushed to -/

namespace MultiMap

variable {α : Type}

theorem isSome_foldl_push (es : List (String × α)) (m : MultiMap α) (k : String) :
    ((es.foldl (fun m e => m.push e.1 e.2) m).get? k).isSome =
      ((m.get? k).isSome || es.any fun e => e.1 = k) := by
  induction es generalizing m with
  | nil => simp
  | cons e es ih =>
    rw [List.foldl_cons, ih, push]
    by_cases h : e.1 = k <;> simp [h]

theorem get?_foldl_push (es : List (String × α)) (k : String) :
    (es.foldl (fun (m : MultiMap α) e => m.push e.1 e.2) .empty).get? k =
      if (es.filter fun e => e.1 = k).map (·.2) = [] then none
      else some ((es.filter fun e => e.1 = k).map (·.2)) := by
  have hvalues := getD_foldl_push es .empty k
  have hthere := isSome_foldl_push es .empty k
  cases hget : (es.foldl (fun (m : MultiMap α) e => m.push e.1 e.2) .empty).get? k with
  | none =>
    rw [hget] at hvalues
    exact (if_pos hvalues.symm).symm
  | some vs =>
    rw [hget] at hvalues hthere
    have hne : (es.filter fun e => e.1 = k) ≠ [] := by
      intro hnil
      have hany : (es.any fun e => e.1 = k) = true := hthere.symm
      obtain ⟨e, he, hk⟩ := List.any_eq_true.1 hany
      exact List.filter_eq_nil_iff.1 hnil e he hk
    rw [if_neg fun hnil => hne (List.map_eq_nil_iff.1 hnil)]
    exact congrArg some hvalues

end MultiMap

namespace PageEntry

theorem gather_eq_iff {es es' : List PageEntry} :
    gather es = gather es' ↔ ∀ key, valuesUnder key es = valuesUnder key es' := by
  constructor
  · intro h key
    rw [← get?_gather, h, get?_gather]
  · intro h
    refine SortedMap.ext_get? fun k => ?_
    have hsame : (es.filter fun e => Snapshot.lowerName e.name = k).map (·.value) =
        (es'.filter fun e => Snapshot.lowerName e.name = k).map (·.value) := by
      by_cases hk : ∃ key, Snapshot.lowerName key = k
      · obtain ⟨key, rfl⟩ := hk
        exact h key
      · have hnil (es : List PageEntry) : (es.filter fun e => Snapshot.lowerName e.name = k) = [] :=
          List.filter_eq_nil_iff.2 fun e _ he => hk ⟨e.name, of_decide_eq_true he⟩
        rw [hnil, hnil]
    have hget (es : List PageEntry) := MultiMap.get?_foldl_push
      (es.map fun e => (Snapshot.lowerName e.name, e.value)) k
    simp only [List.filter_map, List.map_map] at hget
    rw [gather, gather, hget, hget]
    exact congrArg (fun vs => if vs = [] then none else some vs) hsame

end PageEntry

namespace Page

open PageEntry

/-- The lines of a value lie between line feeds and lose carriage returns at their ends. -/
def byteLines (value : List UInt8) : List (List UInt8) :=
  (value.splitOn 0x0a).map fun line => line.rdropWhile (· == 0x0d)

/-- The lines of all headers with a name, in order; letter case does not count in the name. -/
def linesUnder (name : List UInt8) (hs : List Header) : List (List UInt8) :=
  (hs.filter fun h => HeaderName.ofBytes? name = some h.name).flatMap fun h => byteLines h.value

theorem valueLines_eq (value : List UInt8) :
    valueLines value = (byteLines value).map fun line => String.ofList (Text.mendUtf8 line) := by
  rw [valueLines, Text.splitWhere_eq_splitOnP, ← List.splitOn, Text.splitOn_mendUtf8, byteLines,
    List.map_map, List.map_map]
  refine List.map_congr_left fun line _ => ?_
  exact congrArg String.ofList (Text.rdropWhile_mendUtf8 line)

theorem valuesUnder_headerEntries (n : HeaderName) (hs : List Header) :
    valuesUnder n.text (headerEntries hs) =
      (hs.filter fun h => h.name = n).flatMap fun h => valueLines h.value := by
  have hname (h : Header) (e : PageEntry) (he : e ∈ headerLines h) :
      Snapshot.lowerName e.name = h.name.text := by
    obtain ⟨line, -, rfl⟩ := List.mem_map.1 he
    exact lowerName_header h.name
  have htext (h : Header) : h.name.text = n.text ↔ h.name = n :=
    ⟨fun heq => by cases hn : h.name; cases n; simp_all, fun heq => by rw [heq]⟩
  have hfilter : ((hs.flatMap headerLines).filter fun e => Snapshot.lowerName e.name = n.text) =
      (hs.filter fun h => h.name.text = n.text).flatMap headerLines :=
    filter_flatMap_of_key (fun h _ => hname h) n.text
  rw [valuesUnder, lowerName_header, headerEntries, hfilter, List.map_flatMap]
  simp only [htext, headerLines_eq, List.map_map, Function.comp_def, List.map_id']

theorem map_linesUnder {name : List UInt8} {n : HeaderName} (h : HeaderName.ofBytes? name = some n)
    (hs : List Header) : ((linesUnder name hs).map Text.mendUtf8).map String.ofList =
      valuesUnder n.text (headerEntries hs) := by
  have hsame (x : Header) : HeaderName.ofBytes? name = some x.name ↔ x.name = n := by
    rw [h, Option.some.injEq, eq_comm]
  rw [valuesUnder_headerEntries, linesUnder, List.map_map, List.map_flatMap]
  simp only [hsame, valueLines_eq, Function.comp_def]

theorem isNameChar_spelled {c : Char} (h : isNameChar c = true) :
    (Char.ofNat (UInt8.ofNat c.toNat).toNat).toLower = c := by
  have hlower : ∀ n < 0x80, isNameChar (Char.ofNat n) = true →
      (Char.ofNat n).toLower = Char.ofNat n := by decide
  have hbelow := toNat_lt_of_isNameChar h
  have hc := hlower c.toNat hbelow (by rwa [Char.ofNat_toNat])
  rw [Text.toNat_ofNat_byte (by omega), hc, Char.ofNat_toNat]

theorem exists_ofBytes? (n : HeaderName) : ∃ name, HeaderName.ofBytes? name = some n := by
  have hvalid := n.valid
  rw [isHeaderName, Bool.and_eq_true, Bool.and_eq_true, List.all_eq_true] at hvalid
  have htext : String.ofList ((n.text.toList.map fun c => UInt8.ofNat c.toNat).map fun b =>
      (Char.ofNat b.toNat).toLower) = n.text := by
    have hspelled := List.map_congr_left fun c hc => isNameChar_spelled (hvalid.2 c hc)
    rw [List.map_id'] at hspelled
    rw [List.map_map, Function.comp_def, hspelled, String.ofList_toList]
  refine ⟨n.text.toList.map fun c => UInt8.ofNat c.toNat, ?_⟩
  rw [HeaderName.ofBytes?]
  simp only [htext, n.valid, dif_pos]

theorem headerMap_eq_iff {hs hs' : List Header} :
    headerMap hs = headerMap hs' ↔ ∀ name,
      (linesUnder name hs).map Text.mendUtf8 = (linesUnder name hs').map Text.mendUtf8 := by
  rw [headerMap_eq_gather, headerMap_eq_gather, gather_eq_iff]
  constructor
  · intro h name
    cases hname : HeaderName.ofBytes? name with
    | none => simp [linesUnder, hname]
    | some n =>
      have hlines := h n.text
      rw [← map_linesUnder hname, ← map_linesUnder hname] at hlines
      exact List.map_injective_iff.2 (fun _ _ => String.ofList_inj.1) hlines
  · intro h key
    by_cases hkey : ∃ n : HeaderName, n.text = Snapshot.lowerName key
    · obtain ⟨n, hn⟩ := hkey
      obtain ⟨name, hname⟩ := exists_ofBytes? n
      have hunder (hs : List Header) : valuesUnder key (headerEntries hs) =
          ((linesUnder name hs).map Text.mendUtf8).map String.ofList := by
        rw [map_linesUnder hname, valuesUnder, valuesUnder, lowerName_header, hn]
      rw [hunder, hunder, h]
    · have hnone (hs : List Header) : valuesUnder key (headerEntries hs) = [] := by
        rw [valuesUnder, List.map_eq_nil_iff, List.filter_eq_nil_iff]
        intro e he heq
        obtain ⟨header, -, hline⟩ := List.mem_flatMap.1 he
        obtain ⟨line, -, rfl⟩ := List.mem_map.1 hline
        rw [decide_eq_true_eq, lowerName_header] at heq
        exact hkey ⟨header.name, heq⟩
      rw [hnone, hnone]

end Page

namespace Detector

open Matching (setsCookie)

/-- Only the order of the headers with one name matters, and only the lines that their values make
up: where these read the same under each name, a snapshot gets the same headers and cookies, and
every detector finds the same. -/
theorem detect_of_same_lines {hs hs' : List Header}
    (h : ∀ name, (Page.linesUnder name hs).map Text.mendUtf8 =
      (Page.linesUnder name hs').map Text.mendUtf8) :
    Page.headerMap hs = Page.headerMap hs' ∧
      Page.cookieMap (Page.headerMap hs) = Page.cookieMap (Page.headerMap hs') ∧
      (∀ s : Snapshot, s.withHeaders hs = s.withHeaders hs') ∧
      ∀ (d : Detector) (address : String) (body : List UInt8) (lookup : JsLookup),
        d.detect ⟨address, hs, body⟩ = d.detect ⟨address, hs', body⟩ ∧
          d.detectWithGlobals ⟨address, hs, body⟩ lookup =
            d.detectWithGlobals ⟨address, hs', body⟩ lookup := by
  have hmap : Page.headerMap hs = Page.headerMap hs' := Page.headerMap_eq_iff.2 h
  have hwith (s : Snapshot) : s.withHeaders hs = s.withHeaders hs' := by
    simp only [Snapshot.withHeaders, hmap]
  have hsnapshot (address : String) (body : List UInt8) :
      Response.snapshot ⟨address, hs, body⟩ = Response.snapshot ⟨address, hs', body⟩ := by
    simp only [Response.snapshot, hwith]
  refine ⟨hmap, by rw [hmap], hwith, fun d address body lookup => ⟨?_, ?_⟩⟩
  · rw [detect, detect, hsnapshot]
  · rw [detectWithGlobals, detectWithGlobals, hsnapshot]

def serverHeader (value : List UInt8) : Header := ⟨⟨"server", by decide⟩, value⟩

def severalLines : List Header :=
  [setsCookie "a=1\r\nb=2", serverHeader [0x6e, 0xff], setsCookie "c=3"]

def singleLines : List Header :=
  [serverHeader [0x6e, 0xff], setsCookie "a=1", setsCookie "b=2\r", setsCookie "c=3"]

theorem detect_of_same_lines_cookies :
    Page.linesUnder (Text.utf8Bytes "Set-Cookie") severalLines =
        [Text.utf8Bytes "a=1", Text.utf8Bytes "b=2", Text.utf8Bytes "c=3"] ∧
      severalLines ≠ singleLines ∧ Page.headerMap severalLines = Page.headerMap singleLines ∧
      ∀ (d : Detector) (address : String) (body : List UInt8),
        d.detect ⟨address, severalLines, body⟩ = d.detect ⟨address, singleLines, body⟩ := by
  have hlines (name : List UInt8) :
      Page.linesUnder name severalLines = Page.linesUnder name singleLines := by
    rw [Page.linesUnder, Page.linesUnder]
    cases HeaderName.ofBytes? name with
    | none => rfl
    | some n =>
      by_cases hcookie : n = ⟨"set-cookie", by decide⟩
      · rw [hcookie]
        decide +kernel
      · by_cases hserver : n = ⟨"server", by decide⟩
        · rw [hserver]
          decide +kernel
        · simp [severalLines, singleLines, setsCookie, serverHeader, hcookie, hserver]
  obtain ⟨hmap, -, -, hdetect⟩ := detect_of_same_lines fun name => congrArg _ (hlines name)
  exact ⟨by decide +kernel, by decide +kernel, hmap,
    fun d address body => (hdetect d address body fun _ => none).1⟩

end Detector

end Webprint
