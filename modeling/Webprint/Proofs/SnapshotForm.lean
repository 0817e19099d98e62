import Webprint.Analysis
import Webprint.Proofs.DocumentForm
import Webprint.Snapshot

set_option autoImplicit false

/-!
# The text of a snapshot

A snapshot is given back whole by decoding its text: its texts, the values under each name in their
order, and every global variable as the kind of value that it is.
-/

namespace Webprint.Json

namespace Decode

/-! ## Global variables -/

/-- Truth values, numbers and strings are told apart by how they are written. -/
theorem jsValue_undoes : Undoes jsValue JsValue.toJson 0 := by
  intro depth _ v
  cases v <;> cases depth <;> rfl

theorem multiMap_undoes {α : Type} {item : Decoder α} {form : α → Value} {levels : Nat}
    (h : Undoes item form levels) : Undoes (multiMap item) (MultiMap.toJson form) (levels + 2) :=
  sortedMap_undoes (list_undoes h)

/-! ## Snapshots -/

theorem snapshot_undoes : Undoes snapshot Snapshot.toJson 4 := by
  refine undoes_succ fun depth hd s => ?_
  have htext (t : Option String) := optionalText_undoes depth (Nat.zero_le _) t
  have hmap (m : MultiMap String) := multiMap_undoes text_undoes depth (by omega) m
  have hscripts := strings_undoes depth (by omega) s.scripts
  have hjs : sortedMap (multiMap jsValue) depth (.ofValue (.object
      (s.js.entries.map fun e => (e.1, MultiMap.toJson JsValue.toJson e.2)))) = .ok s.js :=
    sortedMap_undoes (multiMap_undoes jsValue_undoes) depth hd s.js
  rw [snapshot, Snapshot.toJson, record_ofValue]
  simp [readingsOfMembers, foldMembers, snapshotStep, htext _, hmap _, hscripts, hjs]

end Decode

/-! ## The text -/

/-- A snapshot is given back by its own text, be it read as a text or as bytes, so that a page is
analysed as before with every catalogue. So reading a text, writing what was read and reading that
again changes nothing. The numbers among the global variables are taken to be such as are read back
from what is printed for them. -/
theorem snapshot_restored {s : Snapshot}
    (hnumbers : ∀ n ∈ s.toJson.numbers, decodeText Decode.value n.text = .ok (.number n)) :
    decodeText Decode.snapshot s.toJson.compact = .ok s ∧
      decodeBytes Decode.snapshot (Text.utf8Bytes s.toJson.compact) = .ok s ∧
      (∀ c : Catalogue, (decodeText Decode.snapshot s.toJson.compact).map (Analysis.analyze c) =
        .ok (Analysis.analyze c s)) ∧
      (∀ text, decodeText Decode.snapshot text = .ok s →
        decodeText Decode.snapshot s.toJson.compact = decodeText Decode.snapshot text) ∧
      ∀ bytes, decodeBytes Decode.snapshot bytes = .ok s →
        decodeBytes Decode.snapshot (Text.utf8Bytes s.toJson.compact) =
          decodeBytes Decode.snapshot bytes := by
  have hreadable : s.toJson.Readable :=
    s.toJson.readable_of_numbers fun n hn => Number.readsBack (hnumbers n hn)
  have hvalue : Decode.snapshot maxDepth (.ofValue s.toJson) = .ok s :=
    Decode.snapshot_undoes maxDepth (by decide) s
  have htext : decodeText Decode.snapshot s.toJson.compact = .ok s := by
    rw [decodeText_compact Decode.snapshot hreadable, hvalue]
  have hbytes : decodeBytes Decode.snapshot (Text.utf8Bytes s.toJson.compact) = .ok s := by
    rw [decodeBytes_compact Decode.snapshot hreadable, hvalue]
  exact ⟨htext, hbytes, fun c => by rw [htext]; rfl, fun text h => by rw [htext, h],
    fun bytes h => by rw [hbytes, h]⟩

def lookalikes : Snapshot :=
  { Snapshot.ofUrl "https://a.b/" with
    css := some ""
    headers := .ofList [("via", ["1.1 x", "\t\"y\""])]
    scripts := ["b.js", "a.js"]
    js := .ofList [("App", .ofList [("on", [.bool true]), ("off", [.string "true"]),
      ("v", [.number (.integer 1), .string "1", .number (.double ⟨0x3ff0000000000000⟩)])])] }

theorem snapshot_restored_lookalikes :
    lookalikes.toJson.compact =
      "\x7b\"url\":\"https://a.b/\",\"html\":null,\"css\":\"\",\"robots\":null," ++
        "\"cert_issuer\":null,\"headers\":\x7b\"via\":[\"1.1 x\",\"\\t\\\"y\\\"\"]\x7d," ++
        "\"cookies\":\x7b\x7d,\"meta\":\x7b\x7d,\"scripts\":[\"b.js\",\"a.js\"]," ++
        "\"js\":\x7b\"App\":\x7b\"off\":[\"true\"],\"on\":[true],\"v\":[1,\"1\",1.0]\x7d\x7d\x7d" ∧
      decodeText Decode.snapshot lookalikes.toJson.compact = .ok lookalikes := by
  have hnumbers : lookalikes.toJson.numbersReadBack = true := by decide +kernel
  exact ⟨by decide +kernel, (snapshot_restored (Value.of_numbersReadBack hnumbers)).1⟩

end Webprint.Json
