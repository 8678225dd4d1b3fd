import ServiceShell.Files.Path
import ServiceShell.Proofs.Text.Split

/-!
# Files that are named for something

A file in a directory is named by a text with an ending behind it, and the text may be any.  A slash
in it makes a path of it that leads away from the directory, unless what is before the slash means
nothing; a slash at its start makes it forget the directory.

Main results:

- Definition `Path.IsBare`: nothing in a text leads away from the directory.
- Definition `Path.LeadsInto`: so it is, or the text spells the directory out.
- Theorem `Path.parent_child_eq_iff`: the file for a text is in the directory exactly then.
-/

namespace ServiceShell.Path

/-! ## Parts -/

/-- What stands between the slashes of a text. -/
def parts (text : String) : List (List Char) := text.toList.splitOn '/'

/-- What stands behind the last slash of a text. -/
def lastPart (text : String) : String :=
  .ofList ((parts text).getLast (List.splitOn_ne_nil '/' text.toList))

/-- Whether a name along a path means something. -/
def isMeant (name : String) : Bool := name ≠ "" && name ≠ "."

/-- The names before the last slash of a text that mean something. -/
def around (text : String) : List String :=
  ((parts text).dropLast.map String.ofList).filter isMeant

/-- Whether nothing in a text leads away from the directory: it does not begin with a slash, and
between its slashes there is nothing, or the name of the current directory. -/
def IsBare (text : String) : Prop :=
  text.toList.head? ≠ some '/' ∧ ∀ part ∈ (parts text).dropLast, part = [] ∨ part = ['.']

instance (text : String) : Decidable (IsBare text) := inferInstanceAs (Decidable (_ ∧ _))

/-- Whether a text, seen from a directory, leads into it: nothing in the text leads away, or it
spells the directory out from the root. -/
def LeadsInto (directory : Path) (text : String) : Prop :=
  IsBare text ∨ rootOf text.toList ≠ "" ∧ directory = ⟨rootOf text.toList, around text⟩

/-- A text without a slash leads nowhere, and is its own last part. -/
theorem isBare_of_not_mem {text : String} (h : '/' ∉ text.toList) :
    IsBare text ∧ lastPart text = text := by
  have hparts : parts text = [text.toList] := List.splitOn_eq_singleton h
  refine ⟨⟨?_, by simp [hparts]⟩, by simp [lastPart, hparts]⟩
  intro hhead
  exact h (List.mem_of_mem_head? hhead)

/-- The name of the directory around leads away. -/
example : IsBare "./a" ∧ ¬ IsBare "../a" ∧ ¬ IsBare "/a" := by decide

/-- A text leads nowhere exactly when its path does not begin at the root, and there are no names
before its last slash. -/
theorem isBare_iff {text : String} :
    IsBare text ↔ rootOf text.toList = "" ∧ around text = [] := by
  have hroot : text.toList.head? ≠ some '/' ↔ rootOf text.toList = "" := by
    unfold rootOf
    cases text.toList with
    | nil => simp
    | cons c rest =>
        by_cases hc : c = '/'
        · rw [List.takeWhile_cons_of_pos (by simp [hc]), List.length_cons]
          rcases (rest.takeWhile fun c => decide (c = '/')).length with _ | _ | n <;> simp [hc]
        · simp [hc]
  have hpart : ∀ part : List Char, ¬ isMeant (.ofList part) = true ↔ part = [] ∨ part = ['.'] := by
    intro part
    have hempty : String.ofList part = "" ↔ part = [] := String.ofList_eq_empty_iff
    have hdot : String.ofList part = "." ↔ part = ['.'] := by
      rw [← String.toList_inj, String.toList_ofList]
      rfl
    simp [isMeant, hempty, hdot, or_iff_not_imp_left]
  unfold IsBare around
  rw [hroot, List.filter_eq_nil_iff, List.forall_mem_map]
  simp only [hpart]

/-! ## Endings -/

section

variable {name ending : String}

/-- An ending does not change where the path of a text begins. -/
theorem rootOf_append (hslash : '/' ∉ ending.toList) :
    rootOf (name ++ ending).toList = rootOf name.toList := by
  have hending : ending.toList.takeWhile (fun c => decide (c = '/')) = [] := by
    cases hcs : ending.toList with
    | nil => rfl
    | cons c rest =>
        rw [hcs, List.mem_cons, not_or] at hslash
        simp [Ne.symm hslash.1]
  have hslashes : (name ++ ending).toList.takeWhile (fun c => decide (c = '/')) =
      name.toList.takeWhile fun c => decide (c = '/') := by
    rw [String.toList_append, List.takeWhile_append, hending, List.append_nil]
    split <;> rename_i hall
    · exact ((List.takeWhile_prefix _).eq_of_length hall).symm
    · rfl
  rw [rootOf, rootOf, hslashes]

/-- The path of a text with an ending: the ending goes with what is behind the last slash. -/
theorem ofText_append (hslash : '/' ∉ ending.toList) (hlong : 1 < ending.toList.length) :
    ofText (name ++ ending) =
      { root := rootOf name.toList, names := around name ++ [lastPart name ++ ending] } := by
  have hmeant : isMeant (lastPart name ++ ending) = true := by
    have hlength : 1 < (lastPart name ++ ending).toList.length := by
      rw [String.toList_append, List.length_append]
      omega
    rw [isMeant, Bool.and_eq_true, decide_eq_true_eq, decide_eq_true_eq]
    constructor <;> intro h <;> simp [h] at hlength
  have hsplit : (name ++ ending).splitOn "/" =
      (parts name).dropLast.map String.ofList ++ [lastPart name ++ ending] := by
    rw [show "/" = String.ofList ['/'] from rfl, Text.splitOn_ofList, String.toList_append,
      Text.splitOn_append hslash, List.map_append, List.map_singleton, String.ofList_append,
      String.ofList_toList]
    rfl
  have hlast : [lastPart name ++ ending].filter isMeant = [lastPart name ++ ending] :=
    List.filter_eq_self.mpr (List.forall_mem_singleton.mpr hmeant)
  rw [ofText, rootOf_append hslash, hsplit, List.filter_append]
  exact congrArg (fun names => Path.mk _ (_ ++ names)) hlast

/-- The file for a text is in the directory exactly when the text leads into it. -/
theorem parent_child_eq_iff (hslash : '/' ∉ ending.toList) (hlong : 1 < ending.toList.length)
    (directory : Path) :
    (directory.child (name ++ ending)).parent = directory ↔ directory.LeadsInto name := by
  rw [child, join, ofText_append hslash hlong, LeadsInto, isBare_iff]
  by_cases hroot : rootOf name.toList = ""
  · cases directory
    simp [parent, hroot]
  · rw [if_neg hroot, parent, List.dropLast_concat]
    constructor
    · exact fun h => .inr ⟨hroot, h.symm⟩
    · rintro (⟨hempty, -⟩ | ⟨-, h⟩)
      · exact absurd hempty hroot
      · exact h.symm

/-- For a text that leads into the directory, what is behind its last slash gives the file its
name. -/
theorem LeadsInto.child_eq {directory : Path} (h : directory.LeadsInto name)
    (hslash : '/' ∉ ending.toList) (hlong : 1 < ending.toList.length) :
    directory.child (name ++ ending) =
      { directory with names := directory.names ++ [lastPart name ++ ending] } := by
  rw [child, join, ofText_append hslash hlong]
  rcases h with hbare | ⟨hroot, hdirectory⟩
  · obtain ⟨hroot, haround⟩ := isBare_iff.mp hbare
    simp [hroot, haround]
  · rw [if_neg hroot, hdirectory]

end

end ServiceShell.Path
