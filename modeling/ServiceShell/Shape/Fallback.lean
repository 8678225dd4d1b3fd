import ServiceShell.Shape.Basic

/-!
# Shapes that cannot be expanded

The reasons for which a name is resolved to `any`, and their texts. The text of the reason becomes
the note on every generated type that had to fall back.

Main statements:

- `reason_ne_empty`: every reason has a text.
- `eq_malformedMembers_of_reason_eq`: the text that the members of a record make no sense is that of
  no other reason.
-/

namespace ServiceShell

/-- Why a shape is resolved to `any`. -/
inductive Fallback where
  /-- There is no name to resolve. -/
  | missingReference
  /-- A member is neither a name nor an object that holds one. -/
  | malformedReference
  /-- The name is one of the shapes around. -/
  | cycle (name : String)
  /-- No definition has the name. -/
  | undefined (name : String)
  /-- The definition has no type. -/
  | untyped (name : String)
  /-- The definition is a union. -/
  | union (name : String)
  /-- The type is not one of those known. -/
  | unsupported (type : String)
  /-- The shape lies deeper than the limit. -/
  | tooDeep (limit : Int) (name : String)
  /-- The members of the definition are no object. -/
  | malformedMembers (name : String)
  deriving DecidableEq, Repr

namespace Fallback

/-- The text of a reason. -/
def reason : Fallback → String
  | missingReference => "missing shape reference"
  | malformedReference => "malformed member reference"
  | cycle name => s!"self-referencing shape '{name}'"
  | undefined name => s!"shape '{name}' is not defined"
  | untyped name => s!"shape '{name}' has no type"
  | union name => s!"union shape '{name}' holds one of several member types"
  | unsupported type => s!"unsupported shape type '{type}'"
  | tooDeep limit name => s!"maximum resolution depth ({limit}) reached at '{name}'"
  | malformedMembers name => s!"structure '{name}' has malformed members"

/-! ## What a text tells -/

/-- What the text of a reason begins with. -/
def opening : Fallback → String
  | missingReference => "missing shape reference"
  | malformedReference => "malformed member reference"
  | cycle _ => "self-referencing shape '"
  | undefined _ => "shape '"
  | untyped _ => "shape '"
  | union _ => "union shape '"
  | unsupported _ => "unsupported shape type '"
  | tooDeep _ _ => "maximum resolution depth ("
  | malformedMembers _ => "structure '"

theorem exists_reason_eq_append (f : Fallback) : ∃ rest, f.reason = f.opening ++ rest := by
  cases f with
  | missingReference => exact ⟨"", String.append_empty.symm⟩
  | malformedReference => exact ⟨"", String.append_empty.symm⟩
  | tooDeep limit name =>
      refine ⟨toString limit ++ (") reached at '" ++ (name ++ "'")), ?_⟩
      change "maximum resolution depth (" ++ toString limit ++ ") reached at '" ++ name ++ "'" = _
      simp only [String.append_assoc, opening]
  | _ => exact ⟨_, String.append_assoc⟩

theorem one_lt_length_opening (f : Fallback) : 1 < f.opening.toList.length := by
  cases f <;> simp [opening]

/-- The second letter of a reason is enough to tell it from some others. -/
theorem getElem?_reason (f : Fallback) : f.reason.toList[1]? = f.opening.toList[1]? := by
  obtain ⟨rest, hrest⟩ := f.exists_reason_eq_append
  rw [hrest, String.toList_append, List.getElem?_append_left f.one_lt_length_opening]

/-- Every reason has a text. -/
theorem reason_ne_empty (f : Fallback) : f.reason ≠ "" := by
  intro hempty
  have hletter := f.getElem?_reason
  rw [hempty, List.getElem?_eq_getElem f.one_lt_length_opening] at hletter
  cases hletter

/-- Only records have members that make no sense. -/
theorem eq_malformedMembers_of_reason_eq {f : Fallback} {name : String}
    (h : f.reason = (malformedMembers name).reason) : ∃ n, f = malformedMembers n := by
  have hletter : f.opening.toList[1]? = (malformedMembers name).opening.toList[1]? := by
    rw [← getElem?_reason, h, getElem?_reason]
  cases f with
  | malformedMembers n => exact ⟨n, rfl⟩
  | _ => simp [opening] at hletter

/-! ## Shapes -/

/-- The shape for a reason, with the attributes that are known. -/
def shape (f : Fallback) (info : ShapeInfo) : Shape :=
  match f with
  | cycle name => .any info f.reason true false (some name)
  | union _ => .any info f.reason false true none
  | _ => .any info f.reason false false none

end Fallback

end ServiceShell
