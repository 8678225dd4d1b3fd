import ServiceShell.Files.Replacement
import ServiceShell.Proofs.Files.Tree

/-!
# Files that are written as a whole

A file is written as a whole, or no file changes: directories may be new in either case, and of the
temporary file nothing is left.

Main results:

- Theorem `Replacement.ran_run`: what replacing a file comes to, whichever calls fail.
- Definition `FileTree.Admits`: what it takes for a file to be written at a path.
- Definition `FileTree.IsWritten`: a file was written, and only directories are new besides.
- Theorem `FileTree.writeWhole_of_isAdmitted`: where it can be, the file is written.
- Theorem `FileTree.writeWhole_of_not_admits`: where it cannot be, no file changes.
-/

namespace ServiceShell

/-! ## Calls -/

/-- Whether the temporary file stays: a call on it fails while it is open, and it cannot be given up
then. -/
def Faults.Strand (faults : Faults) : Prop :=
  (∃ call ∈ Replacement.openCalls, faults call ≠ Option.none) ∧ faults .abandon ≠ Option.none

namespace Replacement

theorem firstFault_eq_none_iff {faults : Faults} {calls : List ReplacementCall} :
    firstFault faults calls = none ↔ ∀ call ∈ calls, faults call = none := by
  induction calls with
  | nil => simp [firstFault]
  | cons call rest ih =>
      rw [firstFault]
      cases h : faults call with
      | some problem => simp [h]
      | none => simp [h, ih]

/-- What replacing a file comes to. -/
inductive Ran (r : Replacement) (faults : Faults) (t : FileTree) :
    Option (ReplacementCall × FileProblem) × FileTree → Prop where
  /-- There is no temporary file. -/
  | unmade {fault : ReplacementCall × FileProblem} (hcreate : faults .create ≠ none) :
    Ran r faults t (some fault, t)
  /-- The temporary file stays. -/
  | stranded {fault : ReplacementCall × FileProblem} (hcreate : faults .create = none)
    (hstrand : faults.Strand) : Ran r faults t (some fault, t.put r.temporary (.file r.content))
  /-- The temporary file is removed. -/
  | removed {fault : ReplacementCall × FileProblem} (hcreate : faults .create = none)
    (hfault : ∃ call ∈ openCalls ++ [.rename], faults call ≠ none) (hstrand : ¬ faults.Strand) :
    Ran r faults t (some fault, (t.put r.temporary (.file r.content)).remove r.temporary)
  /-- The temporary file takes the place of the target. -/
  | renamed (hcreate : faults .create = none) (hopen : ∀ call ∈ openCalls, faults call = none)
    (hrename : faults .rename = none) :
    Ran r faults t (none, r.rename (t.put r.temporary (.file r.content)))

theorem ran_run (r : Replacement) (faults : Faults) (t : FileTree) :
    r.Ran faults t (r.run faults t) := by
  rw [run]
  cases hcreate : faults .create with
  | some problem => exact .unmade (by simp [hcreate])
  | none =>
      simp only
      cases hopen : firstFault faults openCalls with
      | some fault =>
          have hsome : ¬ ∀ call ∈ openCalls, faults call = none := by
            rw [← firstFault_eq_none_iff, hopen]
            simp
          simp only [not_forall] at hsome
          obtain ⟨call, hmem, hfault⟩ := hsome
          cases habandon : faults .abandon with
          | some problem => exact .stranded hcreate ⟨⟨call, hmem, hfault⟩, by simp [habandon]⟩
          | none =>
              exact .removed hcreate ⟨call, List.mem_append_left _ hmem, hfault⟩
                fun hstrand => hstrand.2 habandon
      | none =>
          have hnone := firstFault_eq_none_iff.mp hopen
          cases hrename : faults .rename with
          | some problem =>
              refine .removed hcreate ⟨.rename, by simp, by simp [hrename]⟩ ?_
              rintro ⟨⟨call, hmem, hfault⟩, -⟩
              exact hfault (hnone call hmem)
          | none => exact .renamed hcreate hnone hrename

end Replacement

namespace FileTree

/-! ## What it takes -/

/-- What it takes for a file to be written at a path, where `made` are the files with the
directories around it, and `parent` is the place of its directory: a name for the temporary file
that is new and not too long, and no directory in the place of the file. -/
structure IsAdmitted (t : FileTree) (directory : Place) (token : String) (path : Path)
    (made : FileTree) (parent : Place) : Prop where
  /-- The directories around the file are there, or can be made. -/
  ensured : t.ensureDirectories directory path.parent = .ok made
  /-- Its directory has a place. -/
  located : made.locate directory path.parent = .ok parent
  /-- The path has a name for the file. -/
  name_ne : path.name ≠ "" ∧ path.name ≠ ".."
  /-- The name of the temporary file holds no NUL. -/
  noNul : '\x00' ∉ (temporaryName token path).toList
  /-- It is not too long. -/
  short : (temporaryName token path).utf8ByteSize ≤ nameLimit
  /-- It is new. -/
  fresh : made.lookup? (temporaryName token path :: parent) = none
  /-- There is no directory in the place of the file. -/
  replaceable : made.lookup? (path.name :: parent) ≠ some .directory

/-- Whether a file can be written at a path. -/
def Admits (t : FileTree) (directory : Place) (token : String) (path : Path) : Prop :=
  ∃ made parent, t.IsAdmitted directory token path made parent

/-! ## What comes of it -/

/-- A file was written at a place, and nothing else changed, but that directories may be new. -/
structure IsWritten (before after : FileTree) (place : Place) (content : ByteArray) : Prop where
  /-- The file is there. -/
  written : after.lookup? place = some (.file content)
  /-- There was no directory in its place. -/
  replaced : before.lookup? place ≠ some .directory
  /-- Everything else is as it was, or a new directory. -/
  others : ∀ other, other ≠ place → GrowsAt before after other

variable {t made : FileTree} {directory parent : Place} {token : String} {path : Path}
  {content : ByteArray}

/-- Directories may have been made before. -/
theorem IsWritten.of_grows {after : FileTree} {place : Place} (hgrows : Grows t made)
    (h : made.IsWritten after place content) : t.IsWritten after place content :=
  ⟨h.written, fun hdirectory => h.replaced (hgrows.keepsDirectories _ hdirectory),
    fun other hother => (hgrows other).trans (h.others other hother)⟩

theorem IsWritten.keepsDirectories {after : FileTree} {place : Place}
    (h : t.IsWritten after place content) : KeepsDirectories t after := by
  intro other hother
  by_cases heq : other = place
  · exact absurd (heq ▸ hother) h.replaced
  · rcases h.others other heq with hsame | ⟨hnone, -⟩
    · rw [hsame, hother]
    · rw [hother] at hnone
      cases hnone

/-- The file is found by its path. -/
theorem IsAdmitted.locate (h : t.IsAdmitted directory token path made parent) {after : FileTree}
    (hkeeps : KeepsDirectories made after) :
    after.locate directory path = .ok (path.name :: parent) := by
  have hlocate := locate_of_keepsDirectories hkeeps h.located
  have hparent : after.lookup? parent = some .directory := by
    obtain ⟨place, hplace, hlookup⟩ := find_eq_ok_iff.mp (ensureDirectories_eq_ok h.ensured).2
    rw [h.located] at hplace
    cases hplace
    exact hkeeps parent hlookup
  have hpath : { path.parent with names := path.parent.names ++ [path.name] } = path := by
    have hne : path.names ≠ [] := by
      intro hnil
      exact h.name_ne.1 (by rw [Path.name, hnil]; rfl)
    rw [Path.parent, Path.name, List.getLast?_eq_some_getLast hne, Option.getD_some,
      List.dropLast_concat_getLast hne]
  have hshort : path.name.utf8ByteSize ≤ nameLimit := by
    have hall := h.short
    simp only [temporaryName, String.utf8ByteSize_append] at hall
    omega
  have hnul : '\x00' ∉ path.name.toList := by
    have hall := h.noNul
    simp only [temporaryName, String.toList_append, List.mem_append, not_or] at hall
    exact hall.1.1.1.2
  have hchild := locate_child hlocate hparent h.name_ne.2 hshort hnul
  rwa [hpath] at hchild

/-! ## Writing -/

/-- A file that was put in an empty place and removed again leaves nothing. -/
theorem lookup?_remove_put {place : Place} (h : t.lookup? place = none) (entry : Entry)
    (other : Place) : ((t.put place entry).remove place).lookup? other = t.lookup? other := by
  by_cases heq : place = other
  · rw [← heq, h]
    refine lookup?_remove_same ?_
    rintro rfl
    cases h
  · rw [lookup?_remove_other heq, lookup?_put_other heq]

/-- It leaves the very same entries. -/
theorem remove_put_of_eq_none {place : Place} (h : t.lookup? place = none) (entry : Entry) :
    (t.put place entry).remove place = t := by
  have hplace : place ≠ [] := by
    rintro rfl
    cases h
  rw [lookup?, if_neg hplace] at h
  obtain ⟨entries⟩ := t
  refine congrArg FileTree.mk ?_
  change (putEntry place entry entries).filter (fun e => e.1 ≠ place) = entries
  induction entries with
  | nil => simp [putEntry]
  | cons e rest ih =>
      rw [entryIn] at h
      split at h
      · cases h
      · rename_i hne
        rw [putEntry, if_neg hne, List.filter_cons_of_pos (by simpa using hne), ih h]

/-- Nothing goes wrong where a file can be written. -/
theorem IsAdmitted.replacementFaults (h : t.IsAdmitted directory token path made parent) :
    made.replacementFaults parent (temporaryName token path) (targetPlace parent path) =
      Faults.none := by
  funext call
  have htarget : targetPlace parent path = .ok (path.name :: parent) :=
    if_neg (not_or.mpr h.name_ne)
  cases call with
  | create =>
      simp [FileTree.replacementFaults, Faults.none, h.noNul, Nat.not_lt.mpr h.short, h.fresh]
  | rename =>
      simp only [FileTree.replacementFaults, htarget]
      split
      · rename_i hdirectory
        exact absurd hdirectory h.replaceable
      · rfl
  | write | flush | sync | close | abandon => rfl

/-- What is there when the temporary file has taken the place of the target. -/
theorem IsAdmitted.isWritten_rename (h : t.IsAdmitted directory token path made parent)
    (content : ByteArray) :
    made.IsWritten (((made.put (temporaryName token path :: parent) (.file content)).remove
      (temporaryName token path :: parent)).put (path.name :: parent) (.file content))
      (path.name :: parent) content := by
  refine ⟨lookup?_put_same (by simp), h.replaceable, fun other hother => .inl ?_⟩
  rw [lookup?_put_other (Ne.symm hother)]
  exact lookup?_remove_put h.fresh (.file content) other

/-- Where it can be, a file is written, and is found by its path. -/
theorem writeWhole_of_isAdmitted (h : t.IsAdmitted directory token path made parent)
    (content : ByteArray) :
    ∃ after, t.writeWhole directory token Faults.none path content = (.ok (), after) ∧
      t.IsWritten after (path.name :: parent) content ∧
      after.locate directory path = .ok (path.name :: parent) := by
  have hwritten := h.isWritten_rename content
  refine ⟨_, ?_, hwritten.of_grows (ensureDirectories_eq_ok h.ensured).1,
    h.locate hwritten.keepsDirectories⟩
  simp only [writeWhole, h.ensured, h.located, h.replacementFaults]
  rw [show Faults.none.orElse Faults.none = Faults.none from rfl, Replacement.run_no_fault]
  rfl

/-- What is there then: the file is put among the files with the directories around it. -/
theorem writeWhole_eq_of_isAdmitted (h : t.IsAdmitted directory token path made parent)
    (content : ByteArray) :
    t.writeWhole directory token Faults.none path content =
      (.ok (), made.put (path.name :: parent) (.file content)) := by
  simp only [writeWhole, h.ensured, h.located, h.replacementFaults]
  rw [show Faults.none.orElse Faults.none = Faults.none from rfl, Replacement.run_no_fault]
  simp only [Replacement.rename, remove_put_of_eq_none h.fresh]

/-- A temporary file that can be made has a name that is new and not too long. -/
theorem fresh_of_create_eq_none {temporary : String} {target : Except FileProblem Place}
    (h : t.replacementFaults parent temporary target .create = none) :
    '\x00' ∉ temporary.toList ∧ temporary.utf8ByteSize ≤ nameLimit ∧
      t.lookup? (temporary :: parent) = none := by
  simp only [FileTree.replacementFaults] at h
  split at h <;> rename_i hnul
  · cases h
  · split at h <;> rename_i hshort
    · cases h
    · split at h <;> rename_i hfresh
      · cases h
      · exact ⟨by simpa using hnul, Nat.not_lt.mp hshort, by simpa using hfresh⟩

/-- Without a fault for the temporary file and for the target, a file can be written. -/
theorem isAdmitted_of_faults (hensured : t.ensureDirectories directory path.parent = .ok made)
    (hlocated : made.locate directory path.parent = .ok parent)
    (hcreate : made.replacementFaults parent (temporaryName token path) (targetPlace parent path)
      .create = none)
    (hrename : made.replacementFaults parent (temporaryName token path) (targetPlace parent path)
      .rename = none) : t.IsAdmitted directory token path made parent := by
  have hname : path.name ≠ "" ∧ path.name ≠ ".." := by
    rw [← not_or]
    intro hbusy
    simp [FileTree.replacementFaults, targetPlace, hbusy] at hrename
  obtain ⟨hnul, hshort, hfresh⟩ := fresh_of_create_eq_none hcreate
  refine ⟨hensured, hlocated, hname, hnul, hshort, hfresh, fun hdirectory => ?_⟩
  simp [FileTree.replacementFaults, targetPlace, not_or.mpr hname, hdirectory] at hrename

/-- The faults of the files are about the temporary file's name and the target only. -/
theorem strand_orElse_replacementFaults {faults : Faults} {temporary : String}
    {target : Except FileProblem Place} :
    (faults.orElse (t.replacementFaults parent temporary target)).Strand ↔ faults.Strand := by
  simp [Faults.Strand, Faults.orElse, replacementFaults, Replacement.openCalls]

/-- Where the directories around a file are there, writing it comes to what replacing it does. -/
theorem writeWhole_ran (hmade : t.ensureDirectories directory path.parent = .ok made)
    (hparent : made.locate directory path.parent = .ok parent) (token : String) (faults : Faults)
    (content : ByteArray) :
    ∃ fault? after,
      Replacement.Ran ⟨temporaryName token path :: parent, path.name :: parent, content⟩
        (faults.orElse (made.replacementFaults parent (temporaryName token path)
          (targetPlace parent path))) made (fault?, after) ∧
      t.writeWhole directory token faults path content =
        (match fault? with
          | none => .ok ()
          | some fault =>
            .error (replacementError (placeText (temporaryName token path :: parent)) path fault),
          after) := by
  have hran := Replacement.ran_run
    ⟨temporaryName token path :: parent, path.name :: parent, content⟩
    (faults.orElse (made.replacementFaults parent (temporaryName token path)
      (targetPlace parent path))) made
  simp only [writeWhole, hmade, hparent]
  split <;> rename_i hrun <;> rw [hrun] at hran
  · exact ⟨_, _, hran, rfl⟩
  · exact ⟨_, _, hran, rfl⟩

theorem faults_eq_none_of_orElse {faults others : Faults} {call : ReplacementCall}
    (h : faults.orElse others call = none) : faults call = none ∧ others call = none := by
  rwa [Faults.orElse, Option.or_eq_none_iff] at h

/-- The place of a temporary file that can be made is empty. -/
theorem fresh_of_orElse {faults : Faults} {temporary : String} {target : Except FileProblem Place}
    (h : faults.orElse (t.replacementFaults parent temporary target) .create = none) :
    t.lookup? (temporary :: parent) = none :=
  (fresh_of_create_eq_none (faults_eq_none_of_orElse h).2).2.2

/-- Where it cannot be, no file changes. -/
theorem writeWhole_of_not_admits (h : ¬ t.Admits directory token path) (content : ByteArray) :
    ∃ e after, t.writeWhole directory token Faults.none path content = (.error e, after) ∧
      Grows t after := by
  cases hmade : t.ensureDirectories directory path.parent with
  | error trouble =>
      exact ⟨trouble.1, trouble.2, by simp only [writeWhole, hmade],
        (ensureDirectories_eq_error hmade).1⟩
  | ok made =>
      obtain ⟨hgrows, hfind⟩ := ensureDirectories_eq_ok hmade
      obtain ⟨parent, hparent, -⟩ := find_eq_ok_iff.mp hfind
      obtain ⟨_, after, hran, hwrite⟩ := writeWhole_ran hmade hparent token Faults.none content
      cases hran with
      | unmade => exact ⟨_, _, hwrite, hgrows⟩
      | stranded _ hstrand => exact absurd rfl (strand_orElse_replacementFaults.mp hstrand).2
      | removed hcreate =>
          have hfresh := fresh_of_orElse hcreate
          exact ⟨_, _, hwrite, hgrows.trans fun other => .inl (lookup?_remove_put hfresh _ other)⟩
      | renamed hcreate _ hrename =>
          exact absurd ⟨made, parent, isAdmitted_of_faults hmade hparent
            (faults_eq_none_of_orElse hcreate).2 (faults_eq_none_of_orElse hrename).2⟩ h

end FileTree

end ServiceShell
