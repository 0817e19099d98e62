import Webprint.Page.Builder
import Webprint.Proofs.PageEntries

set_option autoImplicit false

/-!
# Spellings of paths

A key writes each segment of a path behind a dot or in brackets, and the first one bare or in
brackets. Whichever it does, the key names the path of its segments, so all its spellings stand for
one entry of a table.
-/

namespace Webprint

namespace Page

/-! ## Keys -/

inductive Access where
  | dot
  | bracket
deriving DecidableEq

def Access.text : Access → List Char → List Char
  | .dot, s => '.' :: s
  | .bracket, s => '[' :: (s ++ [']'])

def Access.start : Access → List Char → List Char
  | .dot, s => s
  | .bracket, s => '[' :: (s ++ [']'])

def spelling : List (Access × String) → String
  | [] => ""
  | (a, s) :: rest =>
    String.ofList (a.start s.toList ++ rest.flatMap fun (b, t) => b.text t.toList)

structure IsSegment (s : String) : Prop where
  ne_empty : s ≠ ""
  no_dot : '.' ∉ s.toList
  no_open : '[' ∉ s.toList
  no_close : ']' ∉ s.toList

/-! ## Brackets as dots -/

theorem unbracket_plain {s : List Char} (h : '[' ∉ s) (rest : List Char) :
    unbracket false (s ++ rest) = s ++ unbracket false rest := by
  induction s with
  | nil => rfl
  | cons c s ih =>
    rw [List.mem_cons, not_or] at h
    have hplain : (c == '[' && (s ++ rest).contains ']') = false := by
      simp [Ne.symm h.1]
    rw [List.cons_append, unbracket, hplain, ih h.2]
    rfl

theorem unbracket_open {s : List Char} (h : ']' ∉ s) (rest : List Char) :
    unbracket true (s ++ ']' :: rest) = s ++ unbracket false rest := by
  induction s with
  | nil => rfl
  | cons c s ih =>
    rw [List.mem_cons, not_or] at h
    have hopen : (c == ']') = false := by simpa using Ne.symm h.1
    rw [List.cons_append, unbracket, hopen, ih h.2]
    rfl

theorem unbracket_bracket {s : List Char} (h : ']' ∉ s) (rest : List Char) :
    unbracket false ('[' :: (s ++ [']']) ++ rest) = '.' :: (s ++ unbracket false rest) := by
  have hclosed : (s ++ ']' :: rest).contains ']' = true := by simp
  rw [List.cons_append, List.append_assoc, List.singleton_append, unbracket, hclosed,
    unbracket_open h]
  rfl

theorem unbracket_text (a : Access) {s : String} (h : IsSegment s) (rest : List Char) :
    unbracket false (a.text s.toList ++ rest) = '.' :: (s.toList ++ unbracket false rest) := by
  cases a with
  | dot =>
    have hplain : '[' ∉ '.' :: s.toList := by simp [h.no_open]
    exact unbracket_plain hplain rest
  | bracket => exact unbracket_bracket h.no_close rest

/-- Behind the first segment all spellings come to the same. -/
theorem unbracket_rest {ps : List (Access × String)} (h : ∀ p ∈ ps, IsSegment p.2) :
    unbracket false (ps.flatMap fun (a, s) => a.text s.toList) =
      ps.flatMap fun p => '.' :: p.2.toList := by
  induction ps with
  | nil => rfl
  | cons p ps ih =>
    rw [List.flatMap_cons, unbracket_text p.1 (h p (by simp)),
      ih fun q hq => h q (List.mem_cons_of_mem _ hq), List.flatMap_cons, List.cons_append]

/-! ## Segments -/

theorem splitOn_rest {s : List Char} (hs : '.' ∉ s) {ps : List (Access × String)}
    (h : ∀ p ∈ ps, IsSegment p.2) :
    (s ++ ps.flatMap fun p => '.' :: p.2.toList).splitOn '.' = s :: ps.map fun p => p.2.toList := by
  induction ps generalizing s with
  | nil => rw [List.flatMap_nil, List.append_nil, List.splitOn_eq_singleton hs, List.map_nil]
  | cons p ps ih =>
    rw [List.flatMap_cons, List.cons_append, List.splitOn_append_cons_self_of_not_mem hs,
      ih (h p (by simp)).no_dot fun q hq => h q (List.mem_cons_of_mem _ hq), List.map_cons]

theorem jsPath_eq (key : String) :
    jsPath key =
      (((unbracket false key.toList).splitOn '.').filter (!·.isEmpty)).map String.ofList := by
  rw [jsPath, Text.splitWhere_eq_splitOnP, ← List.splitOn]

theorem filter_segments {ps : List (Access × String)} (h : ∀ p ∈ ps, IsSegment p.2) :
    ((ps.map fun p => p.2.toList).filter (!·.isEmpty)).map String.ofList = ps.map Prod.snd := by
  have hkept : (ps.map fun p => p.2.toList).filter (!·.isEmpty) = ps.map fun p => p.2.toList := by
    rw [List.filter_eq_self]
    intro s hs
    obtain ⟨p, hp, rfl⟩ := List.mem_map.1 hs
    simpa using (h p hp).ne_empty
  rw [hkept, List.map_map]
  exact List.map_congr_left fun p _ => String.ofList_toList

theorem jsPath_spelling {ps : List (Access × String)} (h : ∀ p ∈ ps, IsSegment p.2) :
    jsPath (spelling ps) = ps.map Prod.snd := by
  cases ps with
  | nil => decide
  | cons p ps =>
    obtain ⟨a, s⟩ := p
    have hs := h (a, s) (by simp)
    have hrest : ∀ q ∈ ps, IsSegment q.2 := fun q hq => h q (List.mem_cons_of_mem _ hq)
    rw [jsPath_eq, spelling, String.toList_ofList, ← filter_segments h, List.map_cons]
    cases a with
    | dot =>
      rw [Access.start, unbracket_plain hs.no_open, unbracket_rest hrest,
        splitOn_rest hs.no_dot hrest]
    | bracket =>
      -- the bracket in front leaves an empty piece before its dot
      have hempty := List.splitOn_append_cons_self_of_not_mem (List.not_mem_nil (a := '.'))
      rw [Access.start, unbracket_bracket hs.no_close, unbracket_rest hrest,
        ← List.nil_append ('.' :: _), hempty, splitOn_rest hs.no_dot hrest]
      rfl

theorem segments_of_jsPath {key s : String} (h : s ∈ jsPath key) : s ≠ "" ∧ '.' ∉ s.toList := by
  obtain ⟨piece, hpiece, rfl⟩ := List.mem_map.1 h
  obtain ⟨hpiece, hne⟩ := List.mem_filter.1 hpiece
  refine ⟨by simpa using hne, fun hdot => ?_⟩
  rw [String.toList_ofList] at hdot
  rw [Text.splitWhere_eq_splitOnP] at hpiece
  have hnot := Text.not_of_mem_splitOnP hpiece hdot
  simp at hnot

/-- A key names the path of its segments however it spells them, so that the value of every spelling
is the one that stands under the segments with dots between them, and one technology's declarations
find the same values under all spellings. No key names a segment that is empty or holds a dot. -/
theorem every_spelling_named {ps : List (Access × String)} (h : ∀ p ∈ ps, IsSegment p.2)
    (hne : ps ≠ []) :
    jsPath (spelling ps) = ps.map Prod.snd ∧
      (∀ t : JsTable, t.evaluate (jsPath (spelling ps)) =
        t.values.get? (".".intercalate (ps.map Prod.snd))) ∧
      (∀ lookup : JsLookup, Snapshot.declaredValue? lookup (spelling ps) =
        (lookup (ps.map Prod.snd)).filter (· != .bool false)) ∧
      ∀ key, ∀ s ∈ jsPath key, s ≠ "" ∧ '.' ∉ s.toList := by
  have hpath := jsPath_spelling h
  refine ⟨hpath, fun t => by rw [hpath, JsTable.evaluate], fun lookup => ?_,
    fun key s => segments_of_jsPath⟩
  rw [Snapshot.declaredValue?, hpath]
  split
  · rename_i hnil
    exact absurd (List.map_eq_nil_iff.1 hnil) hne
  · rfl

def mixedPath : List (Access × String) :=
  [(.bracket, "my app"), (.dot, "fn"), (.bracket, "v-1"), (.bracket, "0")]

theorem every_spelling_named_mixed : spelling mixedPath = "[my app].fn[v-1][0]" ∧
    jsPath "[my app].fn[v-1][0]" = ["my app", "fn", "v-1", "0"] ∧
    (JsTable.ofList [("my app.fn.v-1.0", .string "2.1")]).evaluate (jsPath "[my app].fn[v-1][0]") =
      some (.string "2.1") := by
  have hspelling : spelling mixedPath = "[my app].fn[v-1][0]" := by decide
  have hsegments : ∀ p ∈ mixedPath, IsSegment p.2 := by
    intro p hp
    simp only [mixedPath, List.mem_cons, List.not_mem_nil, or_false] at hp
    rcases hp with rfl | rfl | rfl | rfl <;> exact ⟨by decide, by decide, by decide, by decide⟩
  have hnamed := every_spelling_named hsegments (by simp [mixedPath])
  rw [hspelling] at hnamed
  refine ⟨hspelling, hnamed.1, ?_⟩
  rw [hnamed.2.1]
  decide

end Page

end Webprint
