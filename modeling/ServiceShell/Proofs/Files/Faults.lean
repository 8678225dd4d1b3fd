import ServiceShell.Proofs.Files.Replacement

/-!
# Files that are written while calls fail

Any of the calls that it takes to write a file as a whole can fail.  Then every file is as it was,
and nothing is left of the temporary file, with one exception: where a call on the open temporary
file fails and it cannot be given up either, it stays.  This module tells that exception, and
another one that comes of the path alone: the directories around the target can be made in its own
place.

Main results:

- Definition `FileTree.IsWhole`: a file was written as a whole, or every file is as it was.
- Theorem `FileTree.writeWhole_of_strand`: what is left where the temporary file stays.
- Theorem `FileTree.isWhole_writeWhole_iff`: which faults and which paths are the exceptions.
-/

namespace ServiceShell.FileTree

variable {t made after : FileTree} {directory parent : Place} {token : String} {faults : Faults}
  {path : Path} {content : ByteArray}

/-- Trees with the same at every place lead to the same places. -/
theorem locate_congr_lookup (h : ∀ place, after.lookup? place = made.lookup? place)
    {place : Place} :
    after.locate directory path = .ok place ↔ made.locate directory path = .ok place := by
  constructor
  · exact locate_of_keepsDirectories fun other hother => by rwa [← h]
  · exact locate_of_keepsDirectories fun other hother => by rwa [h]

/-! ## All or nothing -/

/-- A file was written as a whole, and only directories are new besides; or every file is as it was,
so no temporary file is left, and there is at the path what was there. -/
def IsWhole (t : FileTree) (directory : Place) (path : Path) (content : ByteArray) :
    Except FileError Unit × FileTree → Prop
  | (.ok (), after) =>
    ∃ place, after.locate directory path = .ok place ∧ t.IsWritten after place content
  | (.error _, after) =>
    Grows t after ∧
      ∀ place, after.locate directory path = .ok place → after.lookup? place = t.lookup? place

/-- A place for the temporary file, which can be made there. -/
def Begins (t : FileTree) (directory : Place) (token : String) (faults : Faults) (path : Path)
    (temporary : Place) : Prop :=
  ∃ made parent, t.ensureDirectories directory path.parent = .ok made ∧
    made.locate directory path.parent = .ok parent ∧
    faults.orElse (made.replacementFaults parent (temporaryName token path)
      (targetPlace parent path)) .create = none ∧
    temporary = temporaryName token path :: parent

/-- Making the directories around a file makes one in its own place. -/
def Blocks (t : FileTree) (directory : Place) (path : Path) : Prop :=
  ∃ made place, t.ensureDirectories directory path.parent = .ok made ∧
    made.locate directory path = .ok place ∧ t.lookup? place = none ∧
    made.lookup? place = some .directory

/-- Where the directories around a file are there and nothing else changes, all is as it was if they
are not in its own place. -/
theorem isWhole_error_iff {e : FileError}
    (hmade : t.ensureDirectories directory path.parent = .ok made)
    (hsame : ∀ place, after.lookup? place = made.lookup? place) :
    t.IsWhole directory path content (.error e, after) ↔ ¬ t.Blocks directory path := by
  have hgrows := (ensureDirectories_eq_ok hmade).1
  constructor
  · rintro ⟨-, hwhole⟩ ⟨_, place, hmade', hlocate, hnone, hdirectory⟩
    rw [hmade] at hmade'
    cases hmade'
    have hkept := hwhole place ((locate_congr_lookup hsame).mpr hlocate)
    rw [hsame, hdirectory, hnone] at hkept
    cases hkept
  · intro hblocks
    refine ⟨fun place => by rw [GrowsAt, hsame]; exact hgrows place, fun place hlocate => ?_⟩
    rw [hsame]
    rcases hgrows place with hkept | ⟨hnone, hdirectory⟩
    · exact hkept
    · exact absurd ⟨made, place, hmade, (locate_congr_lookup hsame).mp hlocate, hnone, hdirectory⟩
        hblocks

/-- Where the directories around a file cannot be made, all is as it was. -/
theorem isWhole_of_ensureDirectories_eq_error {e : FileError}
    (h : t.ensureDirectories directory path.parent = .error (e, after)) :
    t.IsWhole directory path content (.error e, after) := by
  obtain ⟨hgrows, hfind⟩ := ensureDirectories_eq_error h
  refine ⟨hgrows, fun place hlocate => ?_⟩
  rcases hgrows place with hkept | ⟨-, hdirectory⟩
  · exact hkept
  · -- The path leads somewhere, so what is around it is a directory.
    refine absurd ?_ hfind
    by_cases hnil : path.names = []
    · have hparent : path.parent = path := by
        rw [Path.parent, hnil, List.dropLast_nil, ← hnil]
      rw [hparent]
      exact find_eq_ok_iff.mpr ⟨place, hlocate, hdirectory⟩
    · exact find_parent_of_locate hnil hlocate

/-! ## Writing -/

/-- Whether the temporary file is made is told by its own call where the directories are there. -/
theorem begins_iff (hmade : t.ensureDirectories directory path.parent = .ok made)
    (hparent : made.locate directory path.parent = .ok parent) {temporary : Place} :
    t.Begins directory token faults path temporary ↔
      faults.orElse (made.replacementFaults parent (temporaryName token path)
        (targetPlace parent path)) .create = none ∧
      temporary = temporaryName token path :: parent := by
  constructor
  · rintro ⟨_, _, hmade', hparent', h⟩
    rw [hmade] at hmade'
    cases hmade'
    rw [hparent] at hparent'
    cases hparent'
    exact h
  · intro h
    exact ⟨made, parent, hmade, hparent, h⟩

/-- Where the temporary file stays, it is all that is new but for directories. -/
theorem writeWhole_of_strand {temporary : Place} (hstrand : faults.Strand)
    (hbegins : t.Begins directory token faults path temporary) (content : ByteArray) :
    ∃ e after, t.writeWhole directory token faults path content = (.error e, after) ∧
      t.lookup? temporary = none ∧ after.lookup? temporary = some (.file content) ∧
      ∀ place, place ≠ temporary → GrowsAt t after place := by
  obtain ⟨made, parent, hmade, hparent, hcreate, rfl⟩ := hbegins
  have hgrows := (ensureDirectories_eq_ok hmade).1
  have hfresh := fresh_of_orElse hcreate
  obtain ⟨_, after, hran, hwrite⟩ := writeWhole_ran hmade hparent token faults content
  cases hran with
  | unmade hfault => exact absurd hcreate hfault
  | removed _ _ hnone => exact absurd (strand_orElse_replacementFaults.mpr hstrand) hnone
  | renamed _ hopen =>
      obtain ⟨⟨call, hmem, hfault⟩, -⟩ := hstrand
      exact absurd (faults_eq_none_of_orElse (hopen call hmem)).1 hfault
  | stranded =>
      refine ⟨_, _, hwrite, ?_, lookup?_put_same (by simp), fun place hplace => ?_⟩
      · rcases hgrows (temporaryName token path :: parent) with hkept | ⟨hnone, -⟩
        · rw [← hkept, hfresh]
        · exact hnone
      · rw [GrowsAt, lookup?_put_other (Ne.symm hplace)]
        exact hgrows place

/-- A file is written as a whole or all is as it was, whichever calls fail: except where the
temporary file is made and stays, and where the directories around the file are made in its own
place. -/
theorem isWhole_writeWhole_iff (t : FileTree) (directory : Place) (token : String)
    (faults : Faults) (path : Path) (content : ByteArray) :
    t.IsWhole directory path content (t.writeWhole directory token faults path content) ↔
      ¬ (faults.Strand ∧ ∃ temporary, t.Begins directory token faults path temporary) ∧
        ¬ t.Blocks directory path := by
  cases hmade : t.ensureDirectories directory path.parent with
  | error trouble =>
      simp only [writeWhole, hmade]
      refine iff_of_true (isWhole_of_ensureDirectories_eq_error hmade) ⟨?_, ?_⟩
      · rintro ⟨-, _, made, _, hmade', -⟩
        rw [hmade] at hmade'
        cases hmade'
      · rintro ⟨made, _, hmade', -⟩
        rw [hmade] at hmade'
        cases hmade'
  | ok made =>
      obtain ⟨parent, hparent, -⟩ := find_eq_ok_iff.mp (ensureDirectories_eq_ok hmade).2
      obtain ⟨_, after, hran, hwrite⟩ := writeWhole_ran hmade hparent token faults content
      cases hran with
      | unmade hfault =>
          rw [hwrite, isWhole_error_iff hmade fun _ => rfl]
          refine (and_iff_right ?_).symm
          rintro ⟨-, temporary, hbegins⟩
          exact hfault ((begins_iff hmade hparent).mp hbegins).1
      | removed hcreate _ hnone =>
          have hfresh := fresh_of_orElse hcreate
          rw [hwrite, isWhole_error_iff hmade (lookup?_remove_put hfresh _)]
          have hnot : ¬ faults.Strand := fun h => hnone (strand_orElse_replacementFaults.mpr h)
          exact (and_iff_right fun h => hnot h.1).symm
      | renamed hcreate hopen hrename =>
          have hadmitted := isAdmitted_of_faults hmade hparent
            (faults_eq_none_of_orElse hcreate).2 (faults_eq_none_of_orElse hrename).2
          have hwritten := hadmitted.isWritten_rename content
          rw [hwrite]
          refine iff_of_true ⟨_, hadmitted.locate hwritten.keepsDirectories,
            hwritten.of_grows (ensureDirectories_eq_ok hmade).1⟩ ⟨?_, ?_⟩
          · rintro ⟨⟨⟨call, hmem, hfault⟩, -⟩, -⟩
            exact hfault (faults_eq_none_of_orElse (hopen call hmem)).1
          · rintro ⟨_, place, hmade', hlocate, -, hdirectory⟩
            rw [hmade] at hmade'
            cases hmade'
            rw [hadmitted.locate fun _ h => h] at hlocate
            cases hlocate
            exact hadmitted.replaceable hdirectory
      | stranded hcreate hstrand =>
          have hbegins := (begins_iff hmade hparent).mpr ⟨hcreate, rfl⟩
          have hfaults := strand_orElse_replacementFaults.mp hstrand
          obtain ⟨e, left, hleft, hnone, hfile, -⟩ := writeWhole_of_strand hfaults hbegins content
          rw [hleft]
          refine iff_of_false ?_ fun h => h.1 ⟨hfaults, _, hbegins⟩
          rintro ⟨hgrows, -⟩
          rcases hgrows (temporaryName token path :: parent) with h | ⟨-, h⟩
          · rw [hfile, hnone] at h
            cases h
          · rw [hfile] at h
            cases h

/-- The content cannot be passed on, as on a full device, and not when the temporary file is given
up either. -/
def unflushed : Faults
  | .flush | .abandon => some .busy
  | _ => none

/-- Where the content cannot be passed on, the temporary file stays; and a path that leads through
its own target and back makes that target a directory. -/
theorem not_isWhole_writeWhole :
    ¬ IsWhole ⟨[]⟩ [] ⟨"", ["out"]⟩ .empty
        (writeWhole ⟨[]⟩ [] "0" unflushed ⟨"", ["out"]⟩ .empty) ∧
      ¬ IsWhole ⟨[]⟩ [] ⟨"", ["out", "..", "out"]⟩ .empty
        (writeWhole ⟨[]⟩ [] "0" .none ⟨"", ["out", "..", "out"]⟩ .empty) := by
  constructor
  · rintro ⟨hgrows, -⟩
    rcases hgrows [".out.0.tmp"] with h | ⟨-, h⟩
    · cases h
    · cases h
  · rintro ⟨-, hkept⟩
    cases hkept ["out"] (by decide)

end ServiceShell.FileTree
