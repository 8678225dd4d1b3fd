import ServiceShell.Proofs.Result
import ServiceShell.Service.Operation

/-!
# What an operation is made of

Only the shapes of its input and output can keep an operation from being described; all else has a
value whatever the model says.  This module states what that value is, and that the method and the
path of a request are never empty.

Main results:

- Theorem `Operation.ofEntry_eq_ok_iff`: the fields of the operation that an entry describes.
- Theorem `Operation.input_output_of_ofEntry`: what holds of all shapes holds of its input and its
  output.
- Theorem `Operation.ofModel_eq_ok_iff`: the operations of a model are those of its entries.
- Theorem `Operation.request_ne_empty`: the method and the path of a request are not empty.
-/

namespace ServiceShell

/-! ## Upper case -/

namespace Text

/-- The upper case of a character is one letter at least. -/
theorem upper_ne_nil (c : Char) : upper c ≠ [] := by
  unfold upper
  split <;> rename_i hlookup
  · have hexpansions : ∀ e ∈ upperExpansions, e.2 ≠ [] := by decide
    rw [List.lookup_eq_some_iff] at hlookup
    obtain ⟨before, after, heq, -⟩ := hlookup
    rw [ne_eq, List.map_eq_nil_iff]
    exact hexpansions (c.toNat, _) (by simp [heq])
  · simp

/-- The upper case of a text is empty only if the text is. -/
theorem toUpper_eq_empty_iff {text : String} : toUpper text = "" ↔ text = "" := by
  rw [toUpper, String.ofList_eq_empty_iff, List.flatMap_eq_nil_iff]
  constructor
  · intro h
    rw [← String.toList_eq_nil_iff]
    apply List.eq_nil_iff_forall_not_mem.mpr
    intro c hc
    exact upper_ne_nil c (h c hc)
  · rintro rfl
    simp

end Text

/-! ## Operations -/

namespace Operation

/-- The name that an entry gives its operation: its own, or else its key. -/
def entryName (key : String) (entry : Document) : String := (entry.getD "name").text?.getD key

/-- The operation that an entry describes, once its input and output are resolved. -/
def ofShapes (key : String) (entry : Document) (input output : Shape) : Operation :=
  { name := Naming.kebab (entryName key entry)
    modelName := entryName key entry
    httpMethod := Text.toUpper (textOr "POST" ((entry.getD "http").getD "method"))
    httpUri := textOr "/" ((entry.getD "http").getD "requestUri")
    inputShape := referenceName? (entry.getD "input")
    outputShape := referenceName? (entry.getD "output")
    input, output
    errors := ((entry.getD "errors").items?.getD []).filterMap referenceName?
    documentation := textOrEmpty (entry.getD "documentation")
    deprecated := (entry.getD "deprecated").isTruthy
    deprecationMessage := (entry.getD "deprecatedMessage").text? }

/-- An entry describes an operation exactly when its input and output can be resolved. -/
theorem ofEntry_eq_ok_iff {key : String} {entry : Document} {table : Fields}
    {limit : Option Int} {o : Operation} :
    ofEntry key entry table limit = .ok o ↔
      ∃ input output,
        resolveOrEmpty table limit (referenceName? (entry.getD "input")) = .ok input ∧
          resolveOrEmpty table limit (referenceName? (entry.getD "output")) = .ok output ∧
            o = ofShapes key entry input output := by
  simp only [ofEntry, bind_eq_ok_iff, pure_eq_ok_iff]
  constructor
  · rintro ⟨input, hinput, output, houtput, rfl⟩
    exact ⟨input, output, hinput, houtput, rfl⟩
  · rintro ⟨input, output, hinput, houtput, rfl⟩
    exact ⟨input, hinput, output, houtput, rfl⟩

/-- What holds of the empty record, and of every shape that a name is resolved to, holds of the
input and the output of an operation. -/
theorem input_output_of_ofEntry {motive : Shape → Prop} {key : String} {entry : Document}
    {table : Fields} {limit : Option Int} {o : Operation} (hempty : motive .empty)
    (hresolve : ∀ name shape, Shape.resolve table limit (.text name) = .ok shape → motive shape)
    (h : ofEntry key entry table limit = .ok o) : motive o.input ∧ motive o.output := by
  have hreferred : ∀ name? shape, resolveOrEmpty table limit name? = .ok shape →
      motive shape := by
    intro name? shape hshape
    cases name? with
    | none =>
        cases hshape
        exact hempty
    | some name => exact hresolve name shape hshape
  obtain ⟨input, output, hinput, houtput, rfl⟩ := ofEntry_eq_ok_iff.mp h
  exact ⟨hreferred _ input hinput, hreferred _ output houtput⟩

/-- The operations of a model are those that its entries describe, in order. -/
theorem ofModel_eq_ok_iff {model : Document} {limit : Option Int} {operations : List Operation} :
    ofModel model limit = .ok operations ↔
      (entries model).map (fun e => ofEntry e.1 e.2 (shapeTable model) limit) =
        operations.map .ok :=
  mapM_eq_ok_iff

/-- A text that stands in for an empty one is not empty. -/
theorem textOr_ne_empty {default : String} (hdefault : default ≠ "") (d : Document) :
    textOr default d ≠ "" := by
  unfold textOr
  cases htext : nonEmpty? d.text? with
  | none => exact hdefault
  | some text =>
      have hne := (Option.filter_eq_some_iff.mp htext).2
      exact of_decide_eq_true hne

/-- The method and the path of a request are not empty. -/
theorem request_ne_empty (key : String) (entry : Document) (input output : Shape) :
    (ofShapes key entry input output).httpMethod ≠ "" ∧
      (ofShapes key entry input output).httpUri ≠ "" := by
  constructor
  · change Text.toUpper _ ≠ ""
    rw [ne_eq, Text.toUpper_eq_empty_iff]
    exact textOr_ne_empty (by decide) _
  · exact textOr_ne_empty (by decide) _

end Operation

end ServiceShell
