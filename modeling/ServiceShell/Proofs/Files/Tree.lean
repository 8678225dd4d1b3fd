import ServiceShell.Files.Tree
import ServiceShell.Proofs.Result

/-!
# Trees of files that grow

Making directories leaves everything that is there as it is, so paths that could be followed lead to
the same places afterwards.  A directory that was made is there, and making it again changes
nothing.

Main results:

- Definition `FileTree.Grows`: only directories are new.
- Theorem `FileTree.locate_of_keepsDirectories`: where directories stay, paths lead to the same
  places.
- Theorem `FileTree.ensureDirectories_eq_ok`: what making directories comes to.
- Theorem `FileTree.ensureDirectories_eq_error`: what is left where they cannot all be made.
- Theorem `FileTree.ensureDirectories_of_find`: directories that are there are not made again.
-/

namespace ServiceShell.FileTree

/-! ## Growth -/

/-- Every directory is still there. -/
def KeepsDirectories (before after : FileTree) : Prop :=
  ∀ place, before.lookup? place = some .directory → after.lookup? place = some .directory

/-- At a place there is what was there, or a new directory where nothing was. -/
def GrowsAt (before after : FileTree) (place : Place) : Prop :=
  after.lookup? place = before.lookup? place ∨
    before.lookup? place = none ∧ after.lookup? place = some .directory

/-- Everything is as it was, but that there may be new directories. -/
def Grows (before after : FileTree) : Prop := ∀ place, GrowsAt before after place

variable {t u v : FileTree}

theorem GrowsAt.trans {place : Place} (h : GrowsAt t u place) (h' : GrowsAt u v place) :
    GrowsAt t v place := by
  unfold GrowsAt at *
  rcases h' with heq | ⟨hnone, hdirectory⟩
  · rwa [heq]
  · rw [hdirectory]
    rcases h with heq | ⟨-, hsome⟩
    · exact .inr ⟨heq ▸ hnone, rfl⟩
    · rw [hsome] at hnone
      cases hnone

theorem Grows.refl (t : FileTree) : Grows t t := fun _ => .inl rfl

theorem Grows.trans (h : Grows t u) (h' : Grows u v) : Grows t v :=
  fun place => (h place).trans (h' place)

theorem Grows.keepsDirectories (h : Grows t u) : KeepsDirectories t u := by
  intro place hplace
  rcases h place with heq | ⟨hnone, -⟩
  · rw [heq, hplace]
  · rw [hplace] at hnone
    cases hnone

/-- A place that is empty, or a directory, holds no file after growth either. -/
theorem GrowsAt.file_iff {place : Place} (h : GrowsAt t u place) (content : ByteArray) :
    u.lookup? place = some (.file content) ↔ t.lookup? place = some (.file content) := by
  rcases h with heq | ⟨hnone, hdirectory⟩
  · rw [heq]
  · simp [hnone, hdirectory]

theorem grows_put {place : Place} (h : t.lookup? place = none) :
    Grows t (t.put place .directory) := by
  intro other
  by_cases hne : place = other
  · subst hne
    refine .inr ⟨h, lookup?_put_same ?_⟩
    rintro rfl
    cases h
  · exact .inl (lookup?_put_other hne)

/-! ## Following paths -/

/-- Where directories stay, names lead to the same place. -/
theorem walk_of_keepsDirectories (h : KeepsDirectories t u) {place last : Place}
    {names : List String} (hwalk : t.walk place names = .ok last) :
    u.walk place names = .ok last := by
  induction names generalizing place with
  | nil => exact hwalk
  | cons name rest ih =>
      rw [walk] at hwalk
      split at hwalk
      · cases hwalk
      · cases hwalk
      · rename_i hplace
        rw [walk, h place hplace]
        simp only
        split at hwalk <;> rename_i hup
        · rw [if_pos hup]
          exact ih hwalk
        · split at hwalk <;> rename_i hlong
          · cases hwalk
          · rw [if_neg hup, if_neg hlong]
            exact ih hwalk

/-- Names behind others are followed from where these lead. -/
theorem walk_append {place last : Place} {names : List String}
    (h : t.walk place names = .ok last) (more : List String) :
    t.walk place (names ++ more) = t.walk last more := by
  induction names generalizing place with
  | nil =>
      cases h
      rfl
  | cons name rest ih =>
      rw [walk] at h
      split at h
      · cases h
      · cases h
      · rename_i hplace
        rw [List.cons_append, walk, hplace]
        simp only
        split at h <;> rename_i hup
        · rw [if_pos hup]
          exact ih h
        · split at h <;> rename_i hlong
          · cases h
          · rw [if_neg hup, if_neg hlong]
            exact ih h

/-- Names behind others are followed only where these lead somewhere. -/
theorem walk_append_eq_ok {place last : Place} {names more : List String}
    (h : t.walk place (names ++ more) = .ok last) :
    ∃ middle, t.walk place names = .ok middle ∧ t.walk middle more = .ok last := by
  induction names generalizing place with
  | nil => exact ⟨place, rfl, h⟩
  | cons name rest ih =>
      rw [List.cons_append, walk] at h
      split at h
      · cases h
      · cases h
      · rename_i hplace
        rw [walk, hplace]
        simp only
        split at h <;> rename_i hup
        · rw [if_pos hup]
          exact ih h
        · split at h <;> rename_i hlong
          · cases h
          · rw [if_neg hup, if_neg hlong]
            exact ih h

/-- Where directories stay, paths lead to the same places. -/
theorem locate_of_keepsDirectories (h : KeepsDirectories t u) {directory place : Place}
    {path : Path} (hplace : t.locate directory path = .ok place) :
    u.locate directory path = .ok place := by
  rw [locate] at hplace ⊢
  split at hplace <;> rename_i hname
  · cases hplace
  · rw [if_neg hname]
    exact walk_of_keepsDirectories h hplace

/-- A name in a directory leads to a place in it, be there something or not. -/
theorem locate_child {directory place : Place} {path : Path} {name : String}
    (hplace : t.locate directory path = .ok place) (hdirectory : t.lookup? place = some .directory)
    (hup : name ≠ "..") (hshort : name.utf8ByteSize ≤ nameLimit) (hnul : '\x00' ∉ name.toList) :
    t.locate directory { path with names := path.names ++ [name] } = .ok (name :: place) := by
  rw [locate] at hplace ⊢
  split at hplace <;> rename_i hfront
  · cases hplace
  · have hall : ¬ ((path.names ++ [name]).any fun name => name.toList.contains '\x00') = true := by
      rw [List.any_append]
      simpa [hnul] using hfront
    rw [if_neg hall, walk_append hplace, walk, hdirectory]
    simp only
    rw [if_neg hup, if_neg (Nat.not_lt.mpr hshort), walk]

/-- A path with more names leads somewhere only where it does without them. -/
theorem locate_append_eq_ok {directory place : Place} {path : Path} {front more : List String}
    (h : t.locate directory { path with names := front ++ more } = .ok place) :
    ∃ middle, t.locate directory { path with names := front } = .ok middle ∧
      t.walk middle more = .ok place := by
  rw [locate] at h
  split at h <;> rename_i hnul
  · cases h
  · have hfront : ¬ (front.any fun name => name.toList.contains '\x00') = true := by
      rw [List.any_append, Bool.or_eq_true, not_or] at hnul
      exact hnul.1
    obtain ⟨middle, hmiddle, hlast⟩ := walk_append_eq_ok h
    exact ⟨middle, by rw [locate, if_neg hfront, hmiddle], hlast⟩

/-- A name in a directory leads nowhere but to a place in it. -/
theorem eq_cons_of_locate {directory place : Place} {path : Path} {name : String}
    (hplace : t.locate directory { path with names := path.names ++ [name] } = .ok place)
    (hup : name ≠ "..") :
    ∃ parent, t.locate directory path = .ok parent ∧ place = name :: parent := by
  obtain ⟨parent, hparent, hlast⟩ := locate_append_eq_ok hplace
  refine ⟨parent, hparent, ?_⟩
  rw [walk] at hlast
  split at hlast
  · cases hlast
  · cases hlast
  · rw [if_neg hup] at hlast
    split at hlast
    · cases hlast
    · exact (Except.ok.inj hlast).symm

/-- Only a path that begins at the current directory depends on it. -/
theorem locate_congr {directory other : Place} {path : Path}
    (h : path.root = "" → directory = other) : t.locate directory path = t.locate other path := by
  rw [locate, locate]
  by_cases hroot : path.root = ""
  · rw [h hroot]
  · rw [if_neg hroot, if_neg hroot]

theorem find_eq_ok_iff {directory : Place} {path : Path} {entry : Entry} :
    t.find directory path = .ok entry ↔
      ∃ place, t.locate directory path = .ok place ∧ t.lookup? place = some entry := by
  rw [find]
  cases hlocate : t.locate directory path with
  | error problem => simp
  | ok place => cases hlookup : t.lookup? place <;> simp [hlookup]

/-- A path with one more name leads somewhere only from a directory. -/
theorem find_of_locate_append {directory place : Place} {path : Path} {front : List String}
    {name : String}
    (h : t.locate directory { path with names := front ++ [name] } = .ok place) :
    t.find directory { path with names := front } = .ok .directory := by
  obtain ⟨parent, hparent, hlast⟩ := locate_append_eq_ok h
  refine find_eq_ok_iff.mpr ⟨parent, hparent, ?_⟩
  rw [walk] at hlast
  split at hlast
  · cases hlast
  · cases hlast
  · assumption

/-- What is around a path that leads somewhere is a directory. -/
theorem find_parent_of_locate {directory place : Place} {path : Path} (hnames : path.names ≠ [])
    (h : t.locate directory path = .ok place) :
    t.find directory path.parent = .ok .directory := by
  have hpath : ⟨path.root, path.names.dropLast ++ [path.names.getLast hnames]⟩ = path := by
    rw [List.dropLast_concat_getLast]
  rw [← hpath] at h
  exact find_of_locate_append h

/-! ## Directories -/

/-- A directory that was made is new, and is there. -/
theorem makeDirectory_eq_ok {directory : Place} {path : Path}
    (h : t.makeDirectory directory path = .ok u) :
    Grows t u ∧ u.find directory path = .ok .directory := by
  rw [makeDirectory] at h
  split at h
  · cases h
  · rename_i place hlocate
    split at h
    · cases h
    · rename_i hnone
      cases h
      have hgrows := grows_put hnone
      refine ⟨hgrows, find_eq_ok_iff.mpr
        ⟨place, locate_of_keepsDirectories hgrows.keepsDirectories hlocate, lookup?_put_same ?_⟩⟩
      rintro rfl
      cases hnone

theorem ensureDirectory_eq_ok {directory : Place} {path : Path}
    (h : t.ensureDirectory directory path = .ok u) :
    Grows t u ∧ u.find directory path = .ok .directory := by
  rw [ensureDirectory] at h
  split at h
  · rename_i hmade
    cases h
    exact makeDirectory_eq_ok hmade
  · split at h
    · rename_i hfind
      cases h
      exact ⟨Grows.refl t, hfind⟩
    · cases h

/-- Where a directory cannot be made, none is there. -/
theorem find_of_ensureDirectory_eq_error {directory : Place} {path : Path} {e : FileError}
    (h : t.ensureDirectory directory path = .error e) :
    t.find directory path ≠ .ok .directory := by
  intro hfind
  rw [ensureDirectory] at h
  split at h
  · cases h
  · rw [hfind] at h
    cases h

theorem ensureUpTo_eq_ok {directory : Place} {path : Path} {n : Nat}
    (h : t.ensureUpTo directory path n = .ok u) :
    Grows t u ∧ u.find directory { path with names := path.names.take n } = .ok .directory := by
  induction n generalizing u with
  | zero => exact ensureDirectory_eq_ok (mapError_eq_ok_iff.mp h)
  | succ n ih =>
      rw [ensureUpTo] at h
      split at h
      · obtain ⟨between, hbetween, hlast⟩ := bind_eq_ok_iff.mp h
        obtain ⟨hgrows, hfind⟩ := ensureDirectory_eq_ok (mapError_eq_ok_iff.mp hlast)
        exact ⟨(ih hbetween).1.trans hgrows, hfind⟩
      · exact ensureDirectory_eq_ok (mapError_eq_ok_iff.mp h)

/-- Making directories leaves everything as it is but for new directories, and the last one is there
then. -/
theorem ensureDirectories_eq_ok {directory : Place} {path : Path}
    (h : t.ensureDirectories directory path = .ok u) :
    Grows t u ∧ u.find directory path = .ok .directory := by
  have hupTo := ensureUpTo_eq_ok h
  rwa [List.take_length] at hupTo

/-- Where they cannot all be made, everything is as it was but for new directories too, and the last
one is not there. -/
theorem ensureUpTo_eq_error {directory : Place} {path : Path} {n : Nat} {e : FileError}
    (h : t.ensureUpTo directory path n = .error (e, u)) :
    Grows t u ∧ u.find directory { path with names := path.names.take n } ≠ .ok .directory := by
  -- Trouble with one directory leaves all that was made before it.
  have hone {between : FileTree} {here : Path}
      (h : (between.ensureDirectory directory here).mapError (·, between) = .error (e, u)) :
      between = u ∧ u.find directory here ≠ .ok .directory := by
    obtain ⟨e', herror, heq⟩ := mapError_eq_error_iff.mp h
    cases heq
    exact ⟨rfl, find_of_ensureDirectory_eq_error herror⟩
  induction n with
  | zero =>
      obtain ⟨rfl, hfind⟩ := hone h
      exact ⟨.refl t, hfind⟩
  | succ n ih =>
      rw [ensureUpTo] at h
      split at h
      · rcases bind_eq_error_iff.mp h with hfront | ⟨between, hbetween, hlast⟩
        · obtain ⟨hgrows, hfind⟩ := ih hfront
          refine ⟨hgrows, fun hhere => hfind ?_⟩
          rw [List.take_add_one] at hhere
          cases hname : path.names[n]? with
          | none => simpa [hname] using hhere
          | some name =>
              rw [hname] at hhere
              obtain ⟨place, hlocate, -⟩ := find_eq_ok_iff.mp hhere
              exact find_of_locate_append hlocate
        · obtain ⟨rfl, hfind⟩ := hone hlast
          exact ⟨(ensureUpTo_eq_ok hbetween).1, hfind⟩
      · obtain ⟨rfl, hfind⟩ := hone h
        exact ⟨.refl t, hfind⟩

theorem ensureDirectories_eq_error {directory : Place} {path : Path} {e : FileError}
    (h : t.ensureDirectories directory path = .error (e, u)) :
    Grows t u ∧ u.find directory path ≠ .ok .directory := by
  have hupTo := ensureUpTo_eq_error h
  rwa [List.take_length] at hupTo

/-- Directories that are there are not made again. -/
theorem ensureDirectories_of_find {directory : Place} {path : Path}
    (h : t.find directory path = .ok .directory) :
    t.ensureDirectories directory path = .ok t := by
  obtain ⟨place, hlocate, hlookup⟩ := find_eq_ok_iff.mp h
  have hthere : t.makeDirectory directory path = .error .alreadyThere := by
    rw [makeDirectory, hlocate]
    simp only [hlookup]
  have hensured : t.ensureDirectory directory path = .ok t := by
    rw [ensureDirectory, hthere]
    simp only [h]
  unfold ensureDirectories
  cases hlength : path.names.length with
  | zero =>
      have hpath : ({ path with names := [] } : Path) = path := by
        rw [← List.length_eq_zero_iff.mp hlength]
      rw [ensureUpTo, hpath, hensured]
      rfl
  | succ n =>
      have hpath : ({ path with names := path.names.take (n + 1) } : Path) = path := by
        rw [← hlength, List.take_length]
      simp only [ensureUpTo, hpath, hthere, hensured]
      rfl

/-! ## Other directories -/

section

variable {directory other : Place} {path : Path}

theorem makeDirectory_congr (h : path.root = "" → directory = other) :
    t.makeDirectory directory path = t.makeDirectory other path := by
  rw [makeDirectory, makeDirectory, locate_congr h]

theorem ensureDirectory_congr (h : path.root = "" → directory = other) :
    t.ensureDirectory directory path = t.ensureDirectory other path := by
  rw [ensureDirectory, ensureDirectory, makeDirectory_congr h, find, find, locate_congr h]

/-- Only a path that begins at the current directory depends on it. -/
theorem ensureDirectories_congr (h : path.root = "" → directory = other) :
    t.ensureDirectories directory path = t.ensureDirectories other path := by
  have hfront : ∀ names : List String, ({ path with names } : Path).root = "" →
      directory = other := fun _ => h
  unfold ensureDirectories
  induction path.names.length with
  | zero => rw [ensureUpTo, ensureUpTo, ensureDirectory_congr (hfront [])]
  | succ n ih =>
      have hhere := hfront (path.names.take (n + 1))
      simp only [ensureUpTo, makeDirectory_congr hhere, ensureDirectory_congr hhere, ih]

end

end ServiceShell.FileTree
