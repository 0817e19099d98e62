import Webprint.Loader
import Webprint.Proofs.JsonBytes
import Webprint.Proofs.Store

set_option autoImplicit false

/-!
# What the kept catalogue says

Whatever has been loaded, kept and cleared before, the file with the kept catalogue holds what the last
successful load has given, and a load that fails leaves everything as it was.
-/

namespace Webprint

/-! ## Keeping and removing -/

namespace Cache

/-- A catalogue can be kept at a path. -/
def Writable (s : Store) (path : String) : Prop := (save s path .empty).1 = .ok ()

variable {s t made : Store} {path : String} {loc : Location}

theorem load_encode {content : List UInt8} {c : Catalogue}
    (hfind : s.find path = .ok (.file content)) (hcontent : content = encode c) :
    load s path = .ok c := by
  subst hcontent
  rw [load, Store.read, hfind]
  change (Json.decodeBytes Json.Decode.catalogue (Text.utf8Bytes c.toJson.compact)).mapError _ = _
  rw [Json.Decode.decodeBytes_catalogue]
  rfl

theorem isFile_of_load {c : Catalogue} (h : load s path = .ok c) : s.isFile path = true := by
  unfold Store.isFile
  cases hfind : s.find path with
  | error fault =>
    rw [load, Store.read, hfind] at h
    cases h
  | ok e =>
    cases e with
    | file content => rfl
    | directory =>
      rw [load, Store.read, hfind] at h
      cases h

theorem place_of_writable (h : Writable s path) :
    ∃ made loc, s.createParent path = (.ok (), made) ∧ made.HasPlace path loc := by
  unfold Writable save at h
  split at h
  · cases h
  · rename_i made hmade
    split at h
    · cases h
    · rename_i t hwrite
      obtain ⟨loc, hplace⟩ := Store.place_of_write hwrite
      exact ⟨made, loc, hmade, hplace⟩

theorem save_of_place (hmade : s.createParent path = (.ok (), made)) (hplace : made.HasPlace path loc)
    (c : Catalogue) : save s path c = (.ok (), made.put loc (.file (encode c))) := by
  simp only [save, hmade, hplace.write]

theorem writable_of_place (h : s.HasPlace path loc) : Writable s path := by
  rw [Writable, save_of_place h.createParent h]

theorem save_of_writable (h : Writable s path) (c : Catalogue) :
    ∃ t, save s path c = (.ok (), t) ∧ Writable t path ∧ load t path = .ok c := by
  obtain ⟨made, loc, hmade, hplace⟩ := place_of_writable h
  exact ⟨_, save_of_place hmade hplace c, writable_of_place (hplace.put _),
    load_encode (hplace.find_put _) rfl⟩

theorem writable_clear (h : Writable s path) : Writable (clear s path).2 path := by
  obtain ⟨_, _, -, hplace⟩ := place_of_writable h
  unfold clear
  split
  · rename_i t hremove
    obtain ⟨directories, name, hsteps, -⟩ := hplace.walks
    -- the file that was removed stood at the place, which it leaves empty
    obtain ⟨loc, hplace', rfl⟩ := Store.place_of_remove ⟨directories, name, hsteps⟩ hremove
    exact writable_of_place hplace'.erase
  · exact h
  · exact h

end Cache

/-! ## Loading -/

namespace Loader

variable {l : Loader} {c : Config} {s : Store}

theorem kept?_eq_some {cat : Catalogue} :
    kept? c s = some cat ↔ c.refresh = false ∧ Cache.load s c.cachePath = .ok cat := by
  unfold kept?
  constructor
  · intro h
    split at h
    · cases h
    · rename_i hwanted
      have hrefresh : c.refresh = false ∧ s.isFile c.cachePath = true := by simpa using hwanted
      cases hload : Cache.load s c.cachePath with
      | error e =>
        rw [hload] at h
        cases h
      | ok cat' =>
        rw [hload] at h
        cases h
        exact ⟨hrefresh.1, rfl⟩
  · rintro ⟨hrefresh, hload⟩
    rw [hrefresh, Cache.isFile_of_load hload, hload]
    rfl

/-- A load uses what is kept, or fails to build anything, or builds and keeps a catalogue. -/
theorem load_cases (l : Loader) (c : Config) (s : Store) :
    (∃ cat, kept? c s = some cat ∧ l.load c s = (.ok cat, s)) ∨
    (kept? c s = none ∧ ∃ e, l.build c s = .error e ∧ l.load c s = (.error e, s)) ∨
    (kept? c s = none ∧ ∃ cat, l.build c s = .ok cat ∧
      l.load c s = (.ok cat, (Cache.save s c.cachePath cat).2)) := by
  rw [load]
  cases kept? c s with
  | some cat => exact .inl ⟨cat, rfl, rfl⟩
  | none =>
    cases l.build c s with
    | error e => exact .inr (.inl ⟨rfl, e, rfl, rfl⟩)
    | ok cat => exact .inr (.inr ⟨rfl, cat, rfl, rfl⟩)

theorem store_of_failed_load {e : ScanError} (h : (l.load c s).1 = .error e) :
    (l.load c s).2 = s := by
  obtain ⟨cat, -, hload⟩ | ⟨-, e', -, hload⟩ | ⟨-, cat, -, hload⟩ := load_cases l c s
  · rw [hload]
  · rw [hload]
  · rw [hload] at h
    cases h

theorem kept_after_load {cat : Catalogue} (hwritable : Cache.Writable s c.cachePath)
    (h : (l.load c s).1 = .ok cat) : Cache.load (l.load c s).2 c.cachePath = .ok cat := by
  obtain ⟨cat', hkept, hload⟩ | ⟨-, e, -, hload⟩ | ⟨-, cat', -, hload⟩ := load_cases l c s
  · rw [hload] at h ⊢
    cases h
    exact (kept?_eq_some.1 hkept).2
  · rw [hload] at h
    cases h
  · obtain ⟨t, hsave, -, ht⟩ := Cache.save_of_writable hwritable cat'
    rw [hload] at h
    cases h
    rwa [hload, hsave]

theorem writable_load (h : Cache.Writable s c.cachePath) :
    Cache.Writable (l.load c s).2 c.cachePath := by
  obtain ⟨cat, -, hload⟩ | ⟨-, e, -, hload⟩ | ⟨-, cat, -, hload⟩ := load_cases l c s
  · rwa [hload]
  · rwa [hload]
  · obtain ⟨t, hsave, ht, -⟩ := Cache.save_of_writable h cat
    rwa [hload, hsave]

theorem load_of_kept {cat : Catalogue} (hrefresh : c.refresh = false)
    (hkept : Cache.load s c.cachePath = .ok cat) : (l.load c s).1 = .ok cat := by
  rw [load, kept?_eq_some.2 ⟨hrefresh, hkept⟩]

theorem load_eq_build (h : c.refresh = true ∨ ∀ cat, Cache.load s c.cachePath ≠ .ok cat) :
    (l.load c s).1 = l.build c s := by
  obtain ⟨cat, hkept, -⟩ | ⟨-, e, hbuild, hload⟩ | ⟨-, cat, hbuild, hload⟩ := load_cases l c s
  · obtain ⟨hrefresh, hcat⟩ := kept?_eq_some.1 hkept
    rcases h with h | h
    · rw [hrefresh] at h
      cases h
    · exact absurd hcat (h cat)
  · rw [hload, hbuild]
  · rw [hload, hbuild]

end Loader

/-! ## Runs -/

inductive CacheUse (path : String) where
  | load (l : Loader) (c : Config) (h : c.cachePath = path)
  | clear

namespace CacheUse

variable {path : String} {s : Store}

def run (s : Store) : CacheUse path → Store
  | .load l c _ => (l.load c s).2
  | .clear => (Cache.clear s path).2

def runAll (s : Store) (us : List (CacheUse path)) : Store := us.foldl run s

theorem writable_run (h : Cache.Writable s path) (u : CacheUse path) :
    Cache.Writable (u.run s) path := by
  cases u with
  | clear => exact Cache.writable_clear h
  | load l c hc =>
    change Cache.Writable (l.load c s).2 path
    rw [← hc] at h ⊢
    exact Loader.writable_load h

theorem writable_runAll (h : Cache.Writable s path) (us : List (CacheUse path)) :
    Cache.Writable (runAll s us) path := by
  -- every use leaves the path writable, which is all that the next one asks for
  induction us generalizing s with
  | nil => exact h
  | cons u us ih => exact ih (writable_run h u)

end CacheUse

namespace Loader

/-- A load that fails leaves the files as they were; after one that succeeds, the file is there and
holds what was returned; a catalogue that is kept and wanted is returned, whatever the rules are; and
if none is kept or it is not wanted, what is returned is what is built. -/
structure LoadsCoherently (l : Loader) (c : Config) (s : Store) : Prop where
  failed : ∀ e, (l.load c s).1 = .error e → (l.load c s).2 = s
  kept : ∀ cat, (l.load c s).1 = .ok cat →
    (l.load c s).2.isFile c.cachePath = true ∧ Cache.load (l.load c s).2 c.cachePath = .ok cat
  used : ∀ cat, c.refresh = false → Cache.load s c.cachePath = .ok cat → (l.load c s).1 = .ok cat
  built : (c.refresh = true ∨ ∀ cat, Cache.load s c.cachePath ≠ .ok cat) →
    (l.load c s).1 = l.build c s

theorem loadsCoherently_of_writable (l : Loader) {c : Config} {s : Store}
    (h : Cache.Writable s c.cachePath) : l.LoadsCoherently c s where
  failed _ he := store_of_failed_load he
  kept cat hcat := by
    have hkept := kept_after_load h hcat
    exact ⟨Cache.isFile_of_load hkept, hkept⟩
  used _ hrefresh hkept := load_of_kept hrefresh hkept
  built := load_eq_build

/-- However often catalogues have been loaded, kept and cleared at a path, the next load there is
coherent. -/
theorem coherent_after_uses {s : Store} {path : String} (h : Cache.Writable s path)
    (us : List (CacheUse path)) (l : Loader) (c : Config) (hc : c.cachePath = path) :
    l.LoadsCoherently c (CacheUse.runAll s us) := by
  subst hc
  exact loadsCoherently_of_writable l (CacheUse.writable_runAll h us)

def keeping (source : RuleSource) : Config := { source, cachePath := ".cache/kept.json" }

def oneRule : Config :=
  keeping (.inline "\x7b\"technologies\":\x7b\"Foo\":\x7b\"html\":\"foo\"\x7d\x7d\x7d")

def missingRules : Config := keeping (.file "missing.json")

/-- What one load has kept, the next one returns, though its rules are missing. -/
theorem coherent_after_uses_missing :
    ∃ cat, cat.names = ["Foo"] ∧
      (load {} missingRules
        (CacheUse.runAll .empty [.clear, .load {} oneRule rfl])).1 = .ok cat := by
  have hwritable : Cache.Writable .empty missingRules.cachePath := by
    obtain ⟨⟨⟩, h⟩ : ∃ u, (Cache.save .empty missingRules.cachePath .empty).1 = .ok u :=
      exists_ok_of_isSome (by decide +kernel)
    exact h
  have hnames : (load {} oneRule
      (CacheUse.runAll .empty [(.clear : CacheUse missingRules.cachePath)])).1.toOption.map
        Catalogue.names = some ["Foo"] := by
    decide +kernel
  obtain ⟨cat, hcat, hfoo⟩ := Option.map_eq_some_iff.1 hnames
  have hfirst := coherent_after_uses hwritable [.clear] {} oneRule rfl
  have hkept := (hfirst.kept cat (ok_of_toOption hcat)).2
  have hused := (coherent_after_uses hwritable [.clear, .load {} oneRule rfl] {} missingRules rfl).used
  exact ⟨cat, hfoo, hused cat rfl hkept⟩

end Loader

end Webprint
