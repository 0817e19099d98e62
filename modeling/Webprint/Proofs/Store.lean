import Webprint.Proofs.Ascending
import Webprint.Proofs.Steps
import Webprint.Store

set_option autoImplicit false

/-!
# Places for files

A path has a place for a file if its walk ends where a file stands or may stand. What is written there
is read back, and the place is kept when the file is written again or removed, since no directory goes
away.
-/

namespace Webprint

namespace Store

/-! ## Walks -/

def KeepsDirectories (s t : Store) : Prop :=
  ∀ loc, s.entry? loc = some .directory → t.entry? loc = some .directory

variable {s t : Store}

theorem walk_append (s : Store) (loc : Location) (xs ys : List String) :
    s.walk loc (xs ++ ys) = (s.walk loc xs).bind fun mid => s.walk mid ys := by
  induction xs generalizing loc with
  | nil => rfl
  | cons x xs ih =>
    rw [List.cons_append, walk, walk]
    split
    · rfl
    · rfl
    · split_ifs
      · exact ih _
      · exact ih _
      · rfl
      · exact ih _

theorem directory_of_walk {loc dest : Location} {name : String} {rest : List String}
    (h : s.walk loc (name :: rest) = .ok dest) : s.entry? loc = some .directory := by
  unfold walk at h
  split at h
  · cases h
  · cases h
  · assumption

theorem walk_keeps (hkeeps : s.KeepsDirectories t) {names : List String} {loc dest : Location}
    (h : s.walk loc names = .ok dest) : t.walk loc names = .ok dest := by
  induction names generalizing loc with
  | nil => exact h
  | cons name rest ih =>
    have hs := directory_of_walk h
    have ht := hkeeps loc hs
    simp only [walk, hs] at h
    simp only [walk, ht]
    split_ifs at h ⊢
    · exact ih h
    · exact ih h
    · exact ih h

theorem walk_filter_dots {names : List String} {loc dest : Location}
    (h : s.walk loc names = .ok dest) : s.walk loc (names.filter (· ≠ ".")) = .ok dest := by
  induction names generalizing loc with
  | nil => exact h
  | cons name rest ih =>
    have hs := directory_of_walk h
    -- a dot is only passed where there is a directory, and it stays there
    by_cases hdot : name = "."
    · simp only [walk, hs, if_pos hdot] at h
      rw [List.filter_cons_of_neg (by simpa using hdot)]
      exact ih h
    · rw [List.filter_cons_of_pos (by simpa using hdot)]
      simp only [walk, hs, if_neg hdot] at h ⊢
      split_ifs at h ⊢
      · exact ih h
      · exact ih h

/-! ## Places -/

/-- The names of a path to a file: the last one leads to no directory. -/
def FileSteps (path : String) (directories : List String) (name : String) : Prop :=
  steps path = .ok (directories ++ [name]) ∧ name ≠ "." ∧ name ≠ ".."

structure HasPlace (s : Store) (path : String) (loc : Location) : Prop where
  walks : ∃ directories name, FileSteps path directories name ∧
    s.walk (start path) (directories ++ [name]) = .ok loc
  free : s.entry? loc ≠ some .directory

variable {path : String} {loc : Location} {content : List UInt8}

theorem at_of_free (hfree : s.entry? loc ≠ some .directory) :
    s.entry? loc = s.entries.get? loc ∧ ¬(loc = [] ∨ loc = root) := by
  by_cases h : loc = [] || loc = root
  · rw [ Store.entry?, if_pos h] at hfree
    exact absurd rfl hfree
  · rw [ Store.entry?, if_neg h]
    exact ⟨rfl, by simpa using h⟩

theorem at_put (hfree : s.entry? loc ≠ some .directory) (e : Entry) (l : Location) :
    Store.entry? (s.put loc e) l = if loc = l then some e else s.entry? l := by
  have hloc := (at_of_free hfree).2
  rw [ Store.entry?, Store.entry?, put]
  by_cases h : loc = l
  · subst h
    simp [hloc]
  · simp [h]

theorem at_erase (hfree : s.entry? loc ≠ some .directory) (l : Location) :
    Store.entry? ⟨s.entries.erase loc⟩ l = if loc = l then none else s.entry? l := by
  have hloc := (at_of_free hfree).2
  rw [ Store.entry?, Store.entry?]
  by_cases h : loc = l
  · subst h
    simp [hloc]
  · simp [h]

/-- A place is kept with the directories, as long as none is put there. -/
theorem HasPlace.keeps (h : s.HasPlace path loc) (hkeeps : s.KeepsDirectories t)
    (hfree : t.entry? loc ≠ some .directory) : t.HasPlace path loc := by
  obtain ⟨directories, name, hsteps, hwalk⟩ := h.walks
  exact ⟨⟨directories, name, hsteps, walk_keeps hkeeps hwalk⟩, hfree⟩

theorem HasPlace.put (h : s.HasPlace path loc) (content : List UInt8) :
    (s.put loc (.file content)).HasPlace path loc := by
  refine h.keeps (fun l hl => ?_) ?_
  · rw [at_put h.free, if_neg, hl]
    rintro rfl
    exact h.free hl
  · rw [at_put h.free, if_pos rfl]
    simp

theorem HasPlace.erase (h : s.HasPlace path loc) :
    (⟨s.entries.erase loc⟩ : Store).HasPlace path loc := by
  refine h.keeps (fun l hl => ?_) ?_
  · rw [at_erase h.free, if_neg, hl]
    rintro rfl
    exact h.free hl
  · rw [at_erase h.free, if_pos rfl]
    simp

theorem HasPlace.write (h : s.HasPlace path loc) (content : List UInt8) :
    s.write path content = .ok (s.put loc (.file content)) := by
  obtain ⟨directories, name, ⟨hsteps, hdot, hdots⟩, hwalk⟩ := h.walks
  have hfree := h.free
  have hlast : ((directories ++ [name]).getLast?.all fun n => n = "." || n = "..") = false := by
    simp [hdot, hdots]
  simp only [Store.write, hsteps, hwalk, hlast, bind, Except.bind]
  rfl

theorem place_of_write (h : s.write path content = .ok t) : ∃ loc, s.HasPlace path loc := by
  unfold Store.write at h
  obtain ⟨names, hsteps, h⟩ := ok_of_bind h
  split at h
  · obtain ⟨_, -, h⟩ := ok_of_bind h
    cases h
  rename_i hlast
  obtain ⟨loc, hwalk, h⟩ := ok_of_bind h
  have hfree : s.entry? loc ≠ some .directory := by
    intro hentry
    rw [hentry] at h
    cases h
  rcases List.eq_nil_or_concat' names with rfl | ⟨directories, name, rfl⟩
  · exact absurd rfl hlast
  · have hname : name ≠ "." ∧ name ≠ ".." := by simpa using hlast
    exact ⟨loc, ⟨directories, name, ⟨hsteps, hname⟩, hwalk⟩, hfree⟩

theorem HasPlace.locate (h : s.HasPlace path loc) : s.locate path = .ok loc := by
  obtain ⟨directories, name, ⟨hsteps, -⟩, hwalk⟩ := h.walks
  rw [Store.locate, hsteps]
  exact hwalk

/-- The path of a file does not end in a slash, so its names are all there are to walk. -/
theorem names_of_steps {directories : List String} {name : String}
    (h : steps path = .ok (directories ++ [name])) (hdot : name ≠ ".") :
    names path = directories ++ [name] := by
  unfold steps at h
  split_ifs at h with _ _ _ hslash
  · have hlast := congrArg List.getLast? (Except.ok.inj h)
    rw [List.getLast?_concat, List.getLast?_concat] at hlast
    exact absurd (Option.some.inj hlast).symm hdot
  · rw [← Except.ok.inj h, List.append_nil]

theorem HasPlace.createParent (h : s.HasPlace path loc) : s.createParent path = (.ok (), s) := by
  -- the walk to the place passes through the parent, so the parent is found there
  obtain ⟨directories, name, ⟨hsteps, hdot, hdots⟩, hwalk⟩ := h.walks
  have hparent : ((names path).filter (· ≠ ".")).dropLast = directories.filter (· ≠ ".") := by
    rw [names_of_steps hsteps hdot, List.filter_append, List.filter_cons_of_pos (by simpa using hdot),
      List.filter_nil, List.dropLast_concat]
  rw [walk_append] at hwalk
  obtain ⟨directory, hdirectory, hname⟩ := ok_of_bind hwalk
  have hentry := directory_of_walk hname
  have hfound : ((s.walk (start path) (directories.filter (· ≠ "."))).toOption.bind s.entry?) =
      some .directory := by
    rw [walk_filter_dots hdirectory]
    exact hentry
  simp only [Store.createParent, hparent, hfound]

theorem HasPlace.find_put (h : s.HasPlace path loc) (content : List UInt8) :
    (s.put loc (.file content)).find path = .ok (.file content) := by
  have hentry := at_put h.free (.file content) loc
  rw [if_pos rfl] at hentry
  simp [find, (h.put content).locate, hentry, bind, Except.bind]

theorem place_of_remove (hpath : ∃ directories name, FileSteps path directories name)
    (h : s.remove path = .ok t) :
    ∃ loc, s.HasPlace path loc ∧ t = ⟨s.entries.erase loc⟩ := by
  obtain ⟨directories, name, hsteps⟩ := hpath
  unfold remove at h
  obtain ⟨loc, hlocate, h⟩ := ok_of_bind h
  have hwalk : s.walk (start path) (directories ++ [name]) = .ok loc := by
    rwa [locate, hsteps.1] at hlocate
  split at h
  · cases h
  · cases h
  · rename_i hentry
    cases h
    exact ⟨loc, ⟨⟨directories, name, hsteps, hwalk⟩, by simp [hentry]⟩, rfl⟩

end Store

end Webprint
