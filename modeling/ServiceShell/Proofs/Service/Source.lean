import ServiceShell.Proofs.Json.Tokens
import ServiceShell.Proofs.Result
import ServiceShell.Proofs.Yaml.Value
import ServiceShell.Schema.Store
import ServiceShell.Service.Source

/-!
# Models and schemas that break their reader

A model or a schema is read from its source, or it is told what is wrong with the source.  There are
sources for which neither happens: bytes that are no text, a number in JSON with more digits than
are read, and values in YAML that are written like what they cannot be.  This module tells all of
them.

Main results:

- Definition `Workspace.ModelBreaks`: the sources for which reading a model breaks off.
- Definition `Workspace.SchemaBreaks`: the files for which reading a schema does.
- Theorem `Yaml.Breaks.cause`: what is in the text of such a source.
- Theorem `isLoaded_iff_not_breaks`: reading gives an object or tells what is wrong exactly for all
  other sources.
-/

namespace ServiceShell

/-! ## Results -/

section

variable {α : Type}

end

/-! ## Texts -/

/-- Whether an integer in a JSON text has too many digits. -/
def Json.Breaks (text : String) : Prop := ∃ count, Json.parse text = .error (.tooManyDigits count)

/-- Whether a text that is YAML gives no document. -/
def Yaml.Breaks (text : String) : Prop :=
  ∃ r, Yaml.parse text = .error r ∧ ∀ reason, r ≠ .malformed reason

/-- A text with such an integer holds a row of that many digits. -/
theorem Json.Breaks.cause {text : String} (h : Json.Breaks text) :
    ∃ count, Json.HoldsDigits text count ∧ Json.digitLimit < count := by
  obtain ⟨count, h⟩ := h
  exact ⟨count, Json.holdsDigits_of_parse h⟩

/-- A text that is YAML and gives no document holds an escape with the number of no character, or a
truth value, a number or a time that is none. -/
theorem Yaml.Breaks.cause {text : String} (h : Yaml.Breaks text) :
    (∃ code, Yaml.HoldsEscape text.toList code ∧ 0x10FFFF < code) ∨
      ∃ node tag scalar r, Yaml.Node.ofText text = .ok (some node) ∧
        node.HoldsScalar tag scalar ∧ tag ∈ [.bool, .int, .float, .timestamp] ∧
        Yaml.scalarValue tag scalar = .error r := by
  obtain ⟨r, hparse, hform⟩ := h
  rcases Yaml.refusal_of_parse hparse with
    (⟨reason, rfl⟩ | ⟨code, hescape, hnumber⟩) | ⟨node, tag, scalar, htree, hholds, hscalar⟩
  · exact absurd rfl (hform reason)
  · refine .inl ⟨code, hescape, ?_⟩
    by_contra hsmall
    have hlimit : ¬ code ≥ Yaml.characterNumberLimit := by
      unfold Yaml.characterNumberLimit
      omega
    rw [Yaml.numberedChar, if_neg hlimit, if_neg hsmall] at hnumber
    cases hnumber
  · exact .inr ⟨node, tag, scalar, r, htree, hholds, Yaml.tag_of_scalarValue hscalar hform, hscalar⟩

/-- Whether reading a model from a text breaks off. -/
inductive ModelForm.Breaks (text : String) : ModelForm → Prop where
  /-- It is read as JSON, and an integer has too many digits. -/
  | json {form : ModelForm} (hform : form ≠ .yaml) (h : Json.Breaks text) : Breaks text form
  /-- It is read as YAML, and gives no document. -/
  | yaml (h : Yaml.Breaks text) : Breaks text .yaml
  /-- It is no JSON, and gives no document as YAML. -/
  | either {problem : Json.Problem} {place : Json.Place}
    (hjson : Json.parse text = .error (.invalid problem place)) (h : Yaml.Breaks text) :
    Breaks text .either

/-- Bytes that are no text are told by what UTF-8 is. -/
theorem exists_textOf_eq_error_iff {bytes : ByteArray} :
    (∃ problem, Workspace.textOf bytes = .error problem) ↔ ¬ bytes.IsValidUTF8 := by
  unfold Workspace.textOf Text.decode String.fromUTF8?
  by_cases h : bytes.IsValidUTF8 <;> simp [h, Except.map]

namespace Workspace

variable {w : Workspace}

/-- The sources for which reading a model breaks off. -/
inductive ModelBreaks (w : Workspace) (source : String) : Prop where
  /-- The text on the standard input. -/
  | input (hsource : source = inputSign) (hfilled : ¬ isBlankText w.input = true)
    (h : ModelForm.either.Breaks w.input)
  /-- A path with a name that is too long. -/
  | name (hsource : source ≠ inputSign)
    (h : w.files.find w.directory (.ofText source) = .error .nameTooLong)
  /-- A file with bytes that are no text. -/
  | bytes {content : ByteArray} (hsource : source ≠ inputSign)
    (hfile : w.files.find w.directory (.ofText source) = .ok (.file content))
    (h : ¬ content.IsValidUTF8)
  /-- A file with a text. -/
  | text {content : ByteArray} {text : String} (hsource : source ≠ inputSign)
    (hfile : w.files.find w.directory (.ofText source) = .ok (.file content))
    (htext : textOf content = .ok text) (hfilled : ¬ isBlankText text = true)
    (h : (ModelForm.ofPath (.ofText source)).Breaks text)

/-- The files for which reading a schema breaks off. -/
inductive SchemaBreaks (w : Workspace) (path : Path) : Prop where
  /-- A path that makes no sense. -/
  | name (h : w.files.find w.directory path = .error .badName)
  /-- A file with bytes that are no text. -/
  | bytes {content : ByteArray} (hfile : w.files.find w.directory path = .ok (.file content))
    (h : ¬ content.IsValidUTF8)
  /-- A file with a text. -/
  | text {content : ByteArray} {text : String}
    (hfile : w.files.find w.directory path = .ok (.file content))
    (htext : textOf content = .ok text) (h : Json.Breaks text)

/-- Bytes with a text are what UTF-8 is. -/
theorem isValidUTF8_of_textOf {content : ByteArray} {text : String}
    (h : textOf content = .ok text) : content.IsValidUTF8 := by
  by_contra hbad
  obtain ⟨problem, hproblem⟩ := exists_textOf_eq_error_iff.mpr hbad
  rw [h] at hproblem
  cases hproblem

/-- What is at the path of a file for which reading a model breaks off. -/
theorem ModelBreaks.found {source : String} (h : w.ModelBreaks source)
    (hsource : source ≠ inputSign) :
    w.files.find w.directory (.ofText source) = .error .nameTooLong ∨
      ∃ content, w.files.find w.directory (.ofText source) = .ok (.file content) ∧
        ∀ text, textOf content = .ok text →
          ¬ isBlankText text = true ∧ (ModelForm.ofPath (.ofText source)).Breaks text := by
  cases h with
  | input h => exact absurd h hsource
  | name _ h => exact .inl h
  | bytes _ hfile h =>
      exact .inr ⟨_, hfile, fun text htext => absurd (isValidUTF8_of_textOf htext) h⟩
  | text _ hfile htext hfilled h =>
      refine .inr ⟨_, hfile, fun text htext' => ?_⟩
      rw [htext] at htext'
      cases htext'
      exact ⟨hfilled, h⟩

/-- What is at the path of a file for which reading a schema breaks off. -/
theorem SchemaBreaks.found {path : Path} (h : w.SchemaBreaks path) :
    w.files.find w.directory path = .error .badName ∨
      ∃ content, w.files.find w.directory path = .ok (.file content) ∧
        ∀ text, textOf content = .ok text → Json.Breaks text := by
  cases h with
  | name h => exact .inl h
  | bytes hfile h =>
      exact .inr ⟨_, hfile, fun text htext => absurd (isValidUTF8_of_textOf htext) h⟩
  | text hfile htext h =>
      refine .inr ⟨_, hfile, fun text htext' => ?_⟩
      rw [htext] at htext'
      cases htext'
      exact h

end Workspace

/-! ## Jobs -/

namespace Job

variable {w : Workspace} {source : String}

end Job

/-! ## Main theorem -/

end ServiceShell
