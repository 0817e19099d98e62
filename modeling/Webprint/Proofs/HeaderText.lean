import Mathlib.Data.List.Forall2
import Webprint.Page.RawHeaders
import Webprint.Proofs.Blanks
import Webprint.Proofs.PageEntries
import Webprint.Proofs.Search
import Webprint.Proofs.Steps
import Webprint.Proofs.Utf8

set_option autoImplicit false

/-!
# Headers read from a text

Headers that are written line by line are read back with their names, their values and their order,
whatever blanks stand around the values, however the lines end, and whatever lines that do not count
stand between them. A text is refused exactly if one of its lines counts and its name or its value
is none.
-/

namespace Webprint

namespace Text

theorem mendUtf8_utf8Bytes (s : String) : mendUtf8 (utf8Bytes s) = s.toList := by
  rw [mendUtf8, decodeUtf8_utf8Bytes, List.map_map]
  exact List.map_id _

end Text

namespace Page

/-! ## Written headers -/

def isTokenChar (c : Char) : Bool := isNameChar c || ('A' ≤ c && c ≤ 'Z')

structure IsToken (s : List Char) : Prop where
  ne_nil : s ≠ []
  length_le : s.length ≤ maxHeaderName
  chars : ∀ c ∈ s, isTokenChar c = true

instance : DecidablePred IsToken := fun s =>
  decidable_of_iff (s ≠ [] ∧ s.length ≤ maxHeaderName ∧ s.all isTokenChar = true)
    ⟨fun ⟨hne, hlength, hchars⟩ => ⟨hne, hlength, List.all_eq_true.1 hchars⟩,
      fun h => ⟨h.ne_nil, h.length_le, List.all_eq_true.2 h.chars⟩⟩

def isPlainChar (c : Char) : Bool := (0x20 ≤ c.toNat && c.toNat < 0x7f) || c == '\t'

/-- Visible characters with spaces and tabs between them. -/
structure IsValue (s : List Char) : Prop where
  chars : ∀ c ∈ s, isPlainChar c = true
  head : ∀ c ∈ s.head?, Text.isBlank c = false
  last : ∀ c ∈ s.getLast?, Text.isBlank c = false

instance : DecidablePred IsValue := fun s =>
  decidable_of_iff (s.all isPlainChar = true ∧ s.head?.all (!Text.isBlank ·) = true ∧
      s.getLast?.all (!Text.isBlank ·) = true)
    ⟨fun ⟨hchars, hhead, hlast⟩ => ⟨List.all_eq_true.1 hchars,
        by simpa [Option.all_eq_true] using hhead, by simpa [Option.all_eq_true] using hlast⟩,
      fun h => ⟨List.all_eq_true.2 h.chars, by simpa [Option.all_eq_true] using h.head,
        by simpa [Option.all_eq_true] using h.last⟩⟩

def isLineBlank (c : Char) : Bool := Text.isBlank c && c != '\n'

/-- A line that does not count begins like a status line or has no colon. Blank lines have none. -/
def Passed (line : List Char) : Prop := "HTTP/".toList <+: line ∨ ':' ∉ line

instance : DecidablePred Passed := fun line =>
  inferInstanceAs (Decidable ("HTTP/".toList <+: line ∨ ':' ∉ line))

inductive LineEnd where
  | feed
  | returnFeed
deriving DecidableEq

def LineEnd.carriage : LineEnd → List Char
  | .feed => []
  | .returnFeed => ['\r']

/-- A header with blanks around its value, or a line that does not count. -/
inductive WrittenLine where
  | header (name value : String) (before after : List Char)
  | passed (line : List Char)

namespace WrittenLine

def text : WrittenLine → List Char
  | header name value before after => name.toList ++ ':' :: (before ++ value.toList ++ after)
  | passed line => line

def Fits : WrittenLine → Prop
  | header name value before after => IsToken name.toList ∧ IsValue value.toList ∧
      before.all isLineBlank = true ∧ after.all isLineBlank = true
  | passed line => Passed line ∧ '\n' ∉ line

instance : DecidablePred Fits
  | header name value before after => inferInstanceAs (Decidable (IsToken name.toList ∧
      IsValue value.toList ∧ before.all isLineBlank = true ∧ after.all isLineBlank = true))
  | passed line => inferInstanceAs (Decidable (Passed line ∧ '\n' ∉ line))

def shown? : WrittenLine → Option PageEntry
  | header name value _ _ => some ⟨name, value⟩
  | passed _ => none

end WrittenLine

def written (ls : List (WrittenLine × LineEnd)) (last : WrittenLine) : String :=
  String.ofList ((ls.flatMap fun (l, e) => l.text ++ e.carriage ++ ['\n']) ++ last.text)

/-- A line that counts without being a header. -/
def Faulty (line : List Char) : Prop :=
  ¬ Passed line ∧ (¬ IsToken (Text.trim (line.takeWhile (· ≠ ':'))) ∨
    ∃ c ∈ Text.trim ((line.dropWhile (· ≠ ':')).drop 1), isValueChar c = false)

/-! ## Characters -/

theorem toNat_lt_of_isTokenChar {c : Char} (h : isTokenChar c = true) : c.toNat < 0x80 := by
  rw [isTokenChar, Bool.or_eq_true, Bool.and_eq_true] at h
  rcases h with hname | ⟨-, hcapital⟩
  · exact toNat_lt_of_isNameChar hname
  · have hbelow : c.toNat ≤ 90 := of_decide_eq_true hcapital
    omega

theorem IsToken.ascii {s : List Char} (h : IsToken s) : ∀ c ∈ s, c.toNat < 0x80 :=
  fun c hc => toNat_lt_of_isTokenChar (h.chars c hc)

theorem isNameChar_toLower {c : Char} (h : c.toNat < 0x80) :
    isNameChar c.toLower = isTokenChar c :=
  Text.of_ascii (P := fun c => isNameChar c.toLower = isTokenChar c) (by decide) h

theorem lower_eq_toLower {c : Char} (h : c.toNat < 0x80) : Regex.lower c = c.toLower :=
  Text.of_ascii (P := fun c => Regex.lower c = c.toLower) (by decide) h

theorem token_plain {c : Char} (h : isTokenChar c = true) :
    Text.isBlank c = false ∧ c ≠ ':' ∧ c ≠ '/' ∧ c ≠ '\n' :=
  Text.of_ascii (P := fun c => isTokenChar c = true →
    Text.isBlank c = false ∧ c ≠ ':' ∧ c ≠ '/' ∧ c ≠ '\n') (by decide) (toNat_lt_of_isTokenChar h) h

theorem value_plain {c : Char} (h : isPlainChar c = true) : c ≠ '\n' ∧ c ≠ '\r' := by
  constructor <;>
  · rintro rfl
    exact absurd h (by decide)

theorem isValueChar_of_plain {c : Char} (h : isPlainChar c = true) : isValueChar c = true := by
  simp only [isPlainChar, Bool.or_eq_true, Bool.and_eq_true, decide_eq_true_eq] at h
  simp only [isValueChar, Bool.or_eq_true, Bool.and_eq_true, decide_eq_true_eq, bne_iff_ne]
  exact h.imp_left fun hrange => ⟨hrange.1, by omega⟩

theorem line_blank {s : List Char} (h : s.all isLineBlank = true) {c : Char} (hc : c ∈ s) :
    Text.isBlank c = true ∧ c ≠ '\n' := by
  simpa [isLineBlank] using List.all_eq_true.1 h c hc

theorem blank_ne_colon {c : Char} (h : Text.isBlank c = true) : c ≠ ':' := by
  rintro rfl
  exact absurd h (by decide)

/-! ## Names -/

def spelled (s : List Char) : List Char :=
  (Text.utf8Bytes (String.ofList s)).map fun b => (Char.ofNat b.toNat).toLower

theorem spelled_eq_flatMap (s : List Char) :
    spelled s = s.flatMap fun c =>
      (String.utf8EncodeChar c).map fun b => (Char.ofNat b.toNat).toLower := by
  rw [spelled, Text.utf8Bytes_eq_flatMap, String.toList_ofList, List.map_flatMap]

theorem spelled_of_ascii {s : List Char} (h : ∀ c ∈ s, c.toNat < 0x80) :
    spelled s = s.map Char.toLower := by
  rw [spelled_eq_flatMap]
  induction s with
  | nil => rfl
  | cons c s ih =>
    have hc : c.toNat < 0x80 := h c (by simp)
    rw [List.flatMap_cons, ih fun d hd => h d (by simp [hd]), Text.utf8EncodeChar_of_ascii hc,
      List.map_singleton, Text.toNat_ofNat_byte (by omega), Char.ofNat_toNat]
    rfl

theorem toNat_toLower_byte {b : UInt8} (h : 0x80 ≤ b.toNat) :
    0x80 ≤ (Char.ofNat b.toNat).toLower.toNat := by
  have hall : ∀ n < 256, 0x80 ≤ n → 0x80 ≤ (Char.ofNat n).toLower.toNat := by decide +kernel
  exact hall b.toNat b.toNat_lt h

theorem ascii_of_spelled {s : List Char} (h : ∀ c ∈ spelled s, isNameChar c = true) :
    ∀ c ∈ s, c.toNat < 0x80 := by
  intro c hc
  by_contra hhigh
  obtain ⟨b, hb, hbyte⟩ := Text.exists_high_byte (Nat.le_of_not_lt hhigh)
  have hin : (Char.ofNat b.toNat).toLower ∈ spelled s := by
    rw [spelled_eq_flatMap]
    exact List.mem_flatMap.2 ⟨c, hc, List.mem_map_of_mem hb⟩
  have hlow := toNat_lt_of_isNameChar (h _ hin)
  have hhighlow := toNat_toLower_byte hbyte
  omega

theorem isHeaderName_iff {s : List Char} : isHeaderName s = true ↔
    s ≠ [] ∧ s.length ≤ maxHeaderName ∧ ∀ c ∈ s, isNameChar c = true := by
  simp [isHeaderName, and_assoc]

/-- The bytes of a text are a name exactly if the text is one in some letter case. -/
theorem isHeaderName_spelled_iff {s : List Char} : isHeaderName (spelled s) = true ↔ IsToken s := by
  have hsame (hascii : ∀ c ∈ s, c.toNat < 0x80) :
      (∀ c ∈ s.map Char.toLower, isNameChar c = true) ↔ ∀ c ∈ s, isTokenChar c = true := by
    rw [List.forall_mem_map]
    exact forall₂_congr fun c hc => by rw [isNameChar_toLower (hascii c hc)]
  constructor
  · intro h
    obtain ⟨hne, hlength, hchars⟩ := isHeaderName_iff.1 h
    have hascii := ascii_of_spelled hchars
    rw [spelled_of_ascii hascii] at hne hlength hchars
    exact ⟨by simpa using hne, by simpa using hlength, (hsame hascii).1 hchars⟩
  · intro h
    rw [spelled_of_ascii h.ascii]
    exact isHeaderName_iff.2 ⟨by simpa using h.ne_nil, by simpa using h.length_le,
      (hsame h.ascii).2 h.chars⟩

theorem ofBytes?_eq_none_iff {s : List Char} :
    HeaderName.ofBytes? (Text.utf8Bytes (String.ofList s)) = none ↔ ¬ IsToken s := by
  rw [← isHeaderName_spelled_iff, HeaderName.ofBytes?, ← spelled]
  simp only [String.toList_ofList]
  split <;> simp_all

theorem lowerName_token {s : String} (h : IsToken s.toList) :
    Snapshot.lowerName s = String.ofList (s.toList.map Char.toLower) := by
  have hordinary (c : Char) (hc : c ∈ s.toList) : Regex.Ordinary c :=
    Text.of_ascii (P := Regex.Ordinary) (by decide) (h.ascii c hc)
  rw [Snapshot.lowerName, Unicode.lowercase, Regex.lowercaseAfter_of_ordinary [] hordinary,
    List.map_congr_left fun c hc => lower_eq_toLower (h.ascii c hc)]

theorem exists_ofBytes?_token {s : String} (h : IsToken s.toList) :
    ∃ n, HeaderName.ofBytes? (Text.utf8Bytes s) = some n ∧ n.text = Snapshot.lowerName s := by
  have hspelled := spelled_of_ascii h.ascii
  have hname := isHeaderName_spelled_iff.2 h
  rw [hspelled] at hname
  rw [spelled, String.ofList_toList] at hspelled
  refine ⟨⟨Snapshot.lowerName s, by rw [lowerName_token h, String.toList_ofList, hname]⟩, ?_, rfl⟩
  rw [HeaderName.ofBytes?]
  simp only [hspelled, String.toList_ofList, hname, dif_pos, lowerName_token h]

/-! ## Lines -/

theorem trimEnd_of_return {line : List Char} :
    Text.trimEnd (if line.getLast? = some '\r' then line.dropLast else line) =
      Text.trimEnd line := by
  split_ifs with h
  · have hline : line = line.dropLast ++ ['\r'] := (List.dropLast_append_getLast? _ h).symm
    conv_rhs => rw [hline]
    exact (Text.dropEndWhile_append_of_all (List.all_eq_true.1 (by decide)) _).symm
  · rfl

theorem isSkipped_trimEnd_iff (line : List Char) :
    isSkipped (Text.trimEnd line) = true ↔ Passed line := by
  obtain ⟨blanks, hline, hblank⟩ := Text.exists_dropped Text.isBlank line
  have hcolon : ':' ∈ Text.trimEnd line ↔ ':' ∈ line := by
    constructor
    · intro h
      rw [hline]
      exact List.mem_append_left _ h
    · intro h
      rw [hline] at h
      exact (List.mem_append.1 h).resolve_right fun hin => blank_ne_colon (hblank _ hin) rfl
  have hstatus : "HTTP/".toList <+: Text.trimEnd line ↔ "HTTP/".toList <+: line := by
    constructor
    · intro h
      rw [hline]
      exact h.trans (List.prefix_append _ _)
    · rintro ⟨rest, rfl⟩
      rw [Text.trimEnd, Text.dropEndWhile_append_of_kept (by decide)]
      exact List.prefix_append _ _
  have hafter : (Text.after? "HTTP/".toList (Text.trimEnd line)).isSome = true ↔
      "HTTP/".toList <+: Text.trimEnd line := by
    rw [← not_iff_not, ← Text.after?_eq_none_iff, Bool.not_eq_true, Option.isSome_eq_false_iff,
      Option.isNone_iff_eq_none]
  have hempty : Text.trimEnd line = [] → ':' ∉ Text.trimEnd line := by
    intro h
    simp [h]
  rw [isSkipped, Passed, ← hcolon, ← hstatus, Bool.or_eq_true, Bool.or_eq_true, hafter,
    List.isEmpty_iff, Bool.not_eq_true', ← Bool.not_eq_true, List.contains_iff_mem]
  tauto

theorem filter_trimmed (ls : List (List Char)) :
    (ls.map Text.trimEnd).filter (!isSkipped ·) =
      (ls.filter fun line => ¬ Passed line).map Text.trimEnd := by
  rw [List.filter_map]
  congr 1
  refine List.filter_congr fun line _ => ?_
  rw [Bool.eq_iff_iff, decide_eq_true_eq, ← isSkipped_trimEnd_iff]
  simp

theorem filter_lines (s : List Char) :
    ((Text.lines s).map Text.trimEnd).filter (!isSkipped ·) =
      ((s.splitOn '\n').filter fun line => ¬ Passed line).map Text.trimEnd := by
  obtain hnil | ⟨closed, last, hpieces⟩ := List.eq_nil_or_concat (s.splitOn '\n')
  · exact absurd hnil (List.splitOn_ne_nil _ _)
  have hlines : Text.lines s =
      (closed.map fun line => if line.getLast? = some '\r' then line.dropLast else line) ++
        if last.isEmpty then [] else [last] := by
    rw [Text.lines, Text.splitWhere_eq_splitOnP, ← List.splitOn, hpieces]
    simp
  -- an empty last line is no line, but it would not count either
  have hlast : (((if last.isEmpty then [] else [last]).map Text.trimEnd).filter (!isSkipped ·)) =
      ([last].map Text.trimEnd).filter (!isSkipped ·) := by
    cases last with
    | nil => rfl
    | cons c last => rfl
  rw [hlines, hpieces, List.concat_eq_append, ← filter_trimmed, List.map_append, List.map_append,
    List.filter_append, List.filter_append, hlast, List.map_map]
  simp only [Function.comp_def, trimEnd_of_return]

theorem rawHeaders_eq (text : String) : rawHeaders text =
    ((text.toList.splitOn '\n').filter fun line => ¬ Passed line).mapM fun line =>
      headerOfLine (Text.trimEnd line) := by
  rw [rawHeaders, filter_lines, List.mapM_map]
  rfl

theorem headerOfLine_eq {name : List Char} (h : ':' ∉ name) (value : List Char) :
    headerOfLine (Text.trimEnd (name ++ ':' :: value)) =
      match HeaderName.ofBytes? (Text.utf8Bytes (String.ofList (Text.trim name))) with
      | none => .error (.invalidName (String.ofList name))
      | some n =>
        if (Text.trim value).all isValueChar then
          .ok ⟨n, Text.utf8Bytes (String.ofList (Text.trim value))⟩
        else .error (.invalidValue (String.ofList (Text.trimEnd value))) := by
  have hkept : Text.dropEndWhile Text.isBlank (name ++ [':']) = name ++ [':'] :=
    Text.dropEndWhile_concat (by decide) name
  have hend : Text.trimEnd (name ++ ':' :: value) = name ++ ':' :: Text.trimEnd value := by
    have happend := Text.dropEndWhile_append_of_kept hkept value
    rwa [List.append_assoc, List.append_assoc] at happend
  have hname : ∀ c ∈ name, (c != ':') = true := by
    intro c hc
    simpa using fun heq : c = ':' => h (heq ▸ hc)
  have hspan : (name ++ ':' :: Text.trimEnd value).span (· != ':') =
      (name, ':' :: Text.trimEnd value) := by
    rw [List.span_eq_takeWhile_dropWhile, List.takeWhile_append_of_pos hname,
      List.dropWhile_append_of_pos hname]
    simp
  rw [hend, headerOfLine, hspan, ← Text.trim_trimEnd value]
  rfl

/-- A line that counts is refused exactly if it is no header. -/
theorem error?_headerOfLine {line : List Char} (h : ¬ Passed line) :
    (error? (headerOfLine (Text.trimEnd line))).isSome = true ↔ Faulty line := by
  have hcolon : ':' ∈ line := by
    by_contra hnot
    exact h (.inr hnot)
  obtain ⟨name, value, rfl, hname⟩ := List.eq_append_cons_of_mem hcolon
  have hkept : ∀ c ∈ name, decide (c ≠ ':') = true := by
    intro c hc
    simpa using fun heq : c = ':' => hname (heq ▸ hc)
  have htake : (name ++ ':' :: value).takeWhile (· ≠ ':') = name := by
    rw [List.takeWhile_append_of_pos hkept, List.takeWhile_cons_of_neg (by simp), List.append_nil]
  have hdrop : ((name ++ ':' :: value).dropWhile (· ≠ ':')).drop 1 = value := by
    rw [List.dropWhile_append_of_pos hkept, List.dropWhile_cons_of_neg (by simp)]
    rfl
  rw [headerOfLine_eq hname, Faulty, htake, hdrop, ← ofBytes?_eq_none_iff]
  cases HeaderName.ofBytes? (Text.utf8Bytes (String.ofList (Text.trim name))) with
  | none => simp [error?, h]
  | some n =>
    by_cases hall : (Text.trim value).all isValueChar = true
    · have hvalid := List.all_eq_true.1 hall
      simp only [hall, if_true, error?]
      simpa [h] using hvalid
    · obtain ⟨c, hc, hbad⟩ := List.all_eq_false.1 (Bool.not_eq_true _ ▸ hall)
      rw [Bool.not_eq_true] at hbad
      simp only [hall, error?]
      simpa [h] using ⟨c, hc, hbad⟩

theorem exists_error_iff (text : String) : (∃ e, rawHeaders text = .error e) ↔
    ∃ line ∈ text.toList.splitOn '\n', Faulty line := by
  have herror : (∃ e, rawHeaders text = .error e) ↔ (error? (rawHeaders text)).isSome = true := by
    rw [Option.isSome_iff_exists]
    exact exists_congr fun e => error?_eq_some.symm
  rw [herror, rawHeaders_eq, error?_mapM, List.findSome?_isSome_iff]
  constructor
  · rintro ⟨line, hline, hfault⟩
    obtain ⟨hline, hcounts⟩ := List.mem_filter.1 hline
    exact ⟨line, hline, (error?_headerOfLine (by simpa using hcounts)).1 hfault⟩
  · rintro ⟨line, hline, hfault⟩
    exact ⟨line, List.mem_filter.2 ⟨hline, by simpa using hfault.1⟩,
      (error?_headerOfLine hfault.1).2 hfault⟩

/-! ## Headers read back -/

/-- A header is what an entry is written as. -/
structure Holds (h : Header) (e : PageEntry) : Prop where
  name : h.name.text = Snapshot.lowerName e.name
  value : h.value = Text.utf8Bytes e.value

theorem headerOfLine_written {name value : String} {before after : List Char}
    (h : WrittenLine.Fits (.header name value before after)) :
    ¬ Passed (WrittenLine.header name value before after).text ∧
      ∃ header, headerOfLine
        (Text.trimEnd (WrittenLine.header name value before after).text) = .ok header ∧
        Holds header ⟨name, value⟩ := by
  obtain ⟨htoken, hvalue, hbefore, hafter⟩ := h
  have hplain (c : Char) (hc : c ∈ name.toList) := token_plain (htoken.chars c hc)
  have hcolon : ':' ∉ name.toList := fun hin => (hplain _ hin).2.1 rfl
  constructor
  · rintro (⟨rest, hstatus⟩ | hnone)
    · -- the slash would stand in the name, or the colon in what status lines begin with
      rcases List.append_eq_append_iff.1 hstatus with ⟨tail, hname, -⟩ | ⟨tail, hstart, htail⟩
      · exact (hplain '/' (by simp [hname])).2.2.1 rfl
      · cases tail with
        | nil =>
          rw [List.append_nil] at hstart
          exact (hplain '/' (by simp [← hstart])).2.2.1 rfl
        | cons c tail =>
          obtain ⟨rfl, -⟩ := List.cons.inj htail
          have hin : ':' ∈ "HTTP/".toList := by simp [hstart]
          exact absurd hin (by decide)
    · exact hnone (by simp [WrittenLine.text])
  · have hname : Text.trim name.toList = name.toList :=
      Text.trim_of_ends (fun c hc => (hplain c (List.mem_of_mem_head? hc)).1)
        fun c hc => (hplain c (List.mem_of_mem_getLast? hc)).1
    have htrim : Text.trim (before ++ value.toList ++ after) = value.toList := by
      rw [Text.trim_append_blank fun c hc => (line_blank hafter hc).1,
        Text.trim_blank_append fun c hc => (line_blank hbefore hc).1,
        Text.trim_of_ends hvalue.head hvalue.last]
    obtain ⟨n, hn, hspelled⟩ := exists_ofBytes?_token htoken
    refine ⟨⟨n, Text.utf8Bytes value⟩, ?_, hspelled, rfl⟩
    rw [WrittenLine.text, headerOfLine_eq hcolon, hname, htrim, String.ofList_toList,
      String.ofList_toList, hn]
    exact if_pos (List.all_eq_true.2 fun c hc => isValueChar_of_plain (hvalue.chars c hc))

theorem exists_headers {ls : List WrittenLine} (h : ∀ l ∈ ls, l.Fits) :
    ∃ hs, ((ls.map WrittenLine.text).filter fun line => ¬ Passed line).mapM
        (fun line => headerOfLine (Text.trimEnd line)) = .ok hs ∧
      List.Forall₂ Holds hs (ls.filterMap WrittenLine.shown?) := by
  induction ls with
  | nil => exact ⟨[], rfl, .nil⟩
  | cons l ls ih =>
    obtain ⟨hs, hread, hholds⟩ := ih fun x hx => h x (List.mem_cons_of_mem _ hx)
    have hfits := h l (by simp)
    cases l with
    | header name value before after =>
      obtain ⟨hcounts, header, hheader, hholds'⟩ := headerOfLine_written hfits
      refine ⟨header :: hs, ?_, .cons hholds' hholds⟩
      rw [List.map_cons, List.filter_cons_of_pos (by simpa using hcounts), List.mapM_cons, hheader,
        hread]
      rfl
    | passed line =>
      have hpassed : Passed (WrittenLine.passed line).text := hfits.1
      refine ⟨hs, ?_, hholds⟩
      rw [List.map_cons, List.filter_cons_of_neg (by simpa using hpassed)]
      exact hread

/-! ## Ends of lines -/

/-- A carriage return is one more blank at the end of a line. -/
def WrittenLine.close (e : LineEnd) : WrittenLine → WrittenLine
  | header name value before after => header name value before (after ++ e.carriage)
  | passed line => passed (line ++ e.carriage)

theorem text_close (e : LineEnd) (l : WrittenLine) : (l.close e).text = l.text ++ e.carriage := by
  cases l <;> simp [WrittenLine.close, WrittenLine.text]

theorem shown?_close (e : LineEnd) (l : WrittenLine) : (l.close e).shown? = l.shown? := by
  cases l <;> rfl

theorem fits_close (e : LineEnd) {l : WrittenLine} (h : l.Fits) : (l.close e).Fits := by
  cases l with
  | header name value before after =>
    obtain ⟨htoken, hvalue, hbefore, hafter⟩ := h
    have hcarriage : e.carriage.all isLineBlank = true := by cases e <;> decide
    refine ⟨htoken, hvalue, hbefore, ?_⟩
    rw [List.all_append, hafter, hcarriage]
    rfl
  | passed line =>
    obtain ⟨hpassed, hfeed⟩ := h
    constructor
    · rcases hpassed with hstatus | hcolon
      · exact .inl (hstatus.trans (List.prefix_append _ _))
      · have hnone : ':' ∉ e.carriage := by cases e <;> decide
        exact .inr fun hin => (List.mem_append.1 hin).elim hcolon hnone
    · have hnone : '\n' ∉ e.carriage := by cases e <;> decide
      exact fun hin => (List.mem_append.1 hin).elim hfeed hnone

theorem no_feed {l : WrittenLine} (h : l.Fits) : '\n' ∉ l.text := by
  cases l with
  | header name value before after =>
    obtain ⟨htoken, hvalue, hbefore, hafter⟩ := h
    intro hin
    simp only [WrittenLine.text, List.mem_append, List.mem_cons] at hin
    rcases hin with hin | hin | (hin | hin) | hin
    · exact (token_plain (htoken.chars _ hin)).2.2.2 rfl
    · cases hin
    · exact (line_blank hbefore hin).2 rfl
    · exact (value_plain (hvalue.chars _ hin)).1 rfl
    · exact (line_blank hafter hin).2 rfl
  | passed line => exact h.2

theorem splitOn_written {ls : List (WrittenLine × LineEnd)} {last : WrittenLine}
    (h : ∀ l ∈ ls, l.1.Fits) (hlast : last.Fits) :
    (written ls last).toList.splitOn '\n' =
      ((ls.map fun l => l.1.close l.2) ++ [last]).map WrittenLine.text := by
  rw [written, String.toList_ofList]
  induction ls with
  | nil => exact List.splitOn_eq_singleton (no_feed hlast)
  | cons l ls ih =>
    have hline : '\n' ∉ l.1.text ++ l.2.carriage := by
      rw [← text_close]
      exact no_feed (fits_close l.2 (h l (by simp)))
    rw [List.flatMap_cons, List.append_assoc, List.append_assoc, List.singleton_append,
      List.splitOn_append_cons_self_of_not_mem hline,
      ih fun x hx => h x (List.mem_cons_of_mem _ hx), List.map_cons, List.cons_append,
      List.map_cons, text_close]

/-! ## The headers of a text -/

def writtenEntries (ls : List (WrittenLine × LineEnd)) (last : WrittenLine) : List PageEntry :=
  (ls.map Prod.fst ++ [last]).filterMap WrittenLine.shown?

theorem filterMap_close (ls : List (WrittenLine × LineEnd)) (last : WrittenLine) :
    ((ls.map fun l => l.1.close l.2) ++ [last]).filterMap WrittenLine.shown? =
      writtenEntries ls last := by
  rw [writtenEntries, List.filterMap_append, List.filterMap_append, List.filterMap_map,
    List.filterMap_map]
  simp only [Function.comp_def, shown?_close]

theorem value_of_mem_writtenEntries {ls : List (WrittenLine × LineEnd)} {last : WrittenLine}
    (h : ∀ l ∈ ls.map Prod.fst ++ [last], l.Fits) :
    ∀ e ∈ writtenEntries ls last, IsValue e.value.toList := by
  intro e he
  obtain ⟨l, hl, hentry⟩ := List.mem_filterMap.1 he
  have hfits := h l hl
  cases l with
  | header name value before after =>
    cases hentry
    exact hfits.2.1
  | passed line => cases hentry

theorem headerLines_value {h : Header} {e : PageEntry} (hholds : Holds h e)
    (hvalue : IsValue e.value.toList) : headerLines h = [⟨h.name.text, e.value⟩] := by
  have hfeed : '\n' ∉ e.value.toList := fun hin => (value_plain (hvalue.chars _ hin)).1 rfl
  have hreturn : e.value.toList.rdropWhile (· == '\r') = e.value.toList := by
    rw [List.rdropWhile_eq_self_iff]
    intro hne
    simpa using (value_plain (hvalue.chars _ (List.getLast_mem hne))).2
  rw [headerLines, hholds.value, Text.mendUtf8_utf8Bytes, List.splitOn_eq_singleton hfeed,
    List.map_singleton, hreturn, String.ofList_toList]

theorem gather_headerEntries {hs : List Header} {es : List PageEntry}
    (h : List.Forall₂ Holds hs es) (hvalues : ∀ e ∈ es, IsValue e.value.toList) :
    PageEntry.gather (headerEntries hs) = PageEntry.gather es := by
  have hsame : (headerEntries hs).map (fun e => (Snapshot.lowerName e.name, e.value)) =
      es.map fun e => (Snapshot.lowerName e.name, e.value) := by
    induction h with
    | nil => rfl
    | @cons header e hs es hholds _ ih =>
      have hrest := ih fun x hx => hvalues x (List.mem_cons_of_mem _ hx)
      have hline := headerLines_value hholds (hvalues e (by simp))
      have hname := (lowerName_header header.name).trans hholds.name
      rw [headerEntries, List.flatMap_cons, ← headerEntries, hline, List.map_append, hrest,
        List.map_singleton, hname]
      rfl
  rw [PageEntry.gather, PageEntry.gather, hsame]

/-- Headers are read back from a text exactly as they were written: with their names in lower case,
their values and their order, and so with the same values under each name. Blanks around the values,
the kinds of line ends and the lines that do not count leave no trace. A text is refused exactly if
it has a line that counts, but with something else than a name before the colon or something else
than a value behind it. -/
theorem rawHeaders_written {ls : List (WrittenLine × LineEnd)} {last : WrittenLine}
    (h : ∀ l ∈ ls.map Prod.fst ++ [last], l.Fits) :
    (∃ hs, rawHeaders (written ls last) = .ok hs ∧
      hs.map (fun h => (h.name.text, h.value)) = (writtenEntries ls last).map
        (fun e => (Snapshot.lowerName e.name, Text.utf8Bytes e.value)) ∧
      ∀ name, ((headerMap hs).get? (Snapshot.lowerName name)).getD [] =
        PageEntry.valuesUnder name (writtenEntries ls last)) ∧
    ∀ text, (∃ e, rawHeaders text = .error e) ↔
      ∃ line ∈ text.toList.splitOn '\n', Faulty line := by
  refine ⟨?_, exists_error_iff⟩
  have hlast : last.Fits := h last (by simp)
  have hfits : ∀ l ∈ ls, l.1.Fits := fun l hl =>
    h l.1 (List.mem_append_left _ (List.mem_map_of_mem hl))
  have hclosed : ∀ l ∈ (ls.map fun l => l.1.close l.2) ++ [last], l.Fits := by
    intro l hl
    rcases List.mem_append.1 hl with hl | hl
    · obtain ⟨x, hx, rfl⟩ := List.mem_map.1 hl
      exact fits_close x.2 (hfits x hx)
    · rwa [List.mem_singleton.1 hl]
  obtain ⟨hs, hread, hholds⟩ := exists_headers hclosed
  rw [filterMap_close] at hholds
  refine ⟨hs, ?_, ?_, fun name => ?_⟩
  · rw [rawHeaders_eq, splitOn_written hfits hlast, hread]
  · rw [← List.forall₂_eq_eq_eq, List.forall₂_map_left_iff, List.forall₂_map_right_iff]
    exact hholds.imp fun _ _ hboth => Prod.ext hboth.name hboth.value
  · rw [headerMap_eq_gather, gather_headerEntries hholds (value_of_mem_writtenEntries h),
      PageEntry.get?_gather]

def savedLines : List (WrittenLine × LineEnd) :=
  [(.passed "HTTP/1.1 200 OK: fine".toList, .returnFeed),
    (.header "Set-Cookie" "a=1; t=12:30" [' '] [], .returnFeed),
    (.passed [' ', '\t'], .feed),
    (.header "X-Via" "HTTP/1.1 proxy:80" [] ['\t'], .feed),
    (.passed "no header".toList, .returnFeed)]

def savedText : String :=
  "HTTP/1.1 200 OK: fine\r\nSet-Cookie: a=1; t=12:30\r\n \t\nX-Via:HTTP/1.1 proxy:80\t\n" ++
    "no header\r\nset-cookie:  b=2"

theorem rawHeaders_written_saved : (∃ hs, rawHeaders savedText = .ok hs ∧
      hs.map (fun h => (h.name.text, h.value)) =
        [("set-cookie", Text.utf8Bytes "a=1; t=12:30"),
          ("x-via", Text.utf8Bytes "HTTP/1.1 proxy:80"), ("set-cookie", Text.utf8Bytes "b=2")] ∧
      ((headerMap hs).get? "set-cookie").getD [] = ["a=1; t=12:30", "b=2"]) ∧
    ∃ e, rawHeaders (savedText ++ "\nServer name: x") = .error e := by
  have hfits : ∀ l ∈ savedLines.map Prod.fst ++ [.header "set-cookie" "b=2" [' ', ' '] []],
      l.Fits := by decide
  have htext : written savedLines (.header "set-cookie" "b=2" [' ', ' '] []) = savedText := by
    decide
  obtain ⟨⟨hs, hread, hheaders, hvalues⟩, hrefused⟩ := rawHeaders_written hfits
  rw [htext] at hread
  refine ⟨⟨hs, hread, ?_, ?_⟩, (hrefused _).2 ⟨"Server name: x".toList, ?_, ?_⟩⟩
  · exact hheaders.trans (by decide +kernel)
  · exact (hvalues "set-cookie").trans (by decide +kernel)
  · decide +kernel
  · refine ⟨by decide, .inl fun htoken => ?_⟩
    exact absurd (htoken.chars ' ' (by decide)) (by decide)

end Page

end Webprint
