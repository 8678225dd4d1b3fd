import ServiceShell.Proofs.Json.RoundTrip
import ServiceShell.Proofs.Text.Line
import ServiceShell.Workspace.Basic

/-!
# The characters of JSON text

JSON text has line feeds between its lines, and no carriage return at all: what a text holds is
written as an escape.  So it is not changed where line ends are made alike.

Main results:

- Theorem `Json.isOneLine_writeAt`: no carriage return stands in the text of a document.
- Theorem `Json.textOf_write`: the bytes of the text of a document are read as that text.
-/

namespace ServiceShell

open Text

namespace Json

/-! ## Carriage returns -/

/-- Whether a character is a carriage return. -/
def isReturn (c : Char) : Bool := c = '\r'

theorem isReturn_hexDigit (n : Nat) : isReturn (hexDigit n) = false := by
  have hdigits : ∀ k < 16, isReturn (Nat.digitChar k) = false := by decide
  exact hdigits (n % 16) (Nat.mod_lt n (by decide))

theorem isReturn_of_mem_escapeUnit {c : Char} {n : Nat} (h : c ∈ escapeUnit n) :
    isReturn c = false := by
  simp only [escapeUnit, hexUnit, List.mem_cons, List.not_mem_nil, or_false] at h
  rcases h with rfl | rfl | rfl | rfl | rfl | rfl
  · rfl
  · rfl
  all_goals exact isReturn_hexDigit _

/-- What is written for a character of a quoted text is no carriage return. -/
theorem isReturn_of_isWritten {c d : Char} {written : List Char} (h : IsWritten c written)
    (hd : d ∈ written) : isReturn d = false := by
  rcases h with ⟨letter, -, hletter, rfl⟩ | ⟨-, -, hprinted, rfl⟩ | rfl
  · rcases List.mem_cons.mp hd with rfl | hd
    · rfl
    · obtain rfl := List.mem_singleton.mp hd
      rw [isReturn, decide_eq_false_iff_not]
      rintro rfl
      cases hletter
  · obtain rfl := List.mem_singleton.mp hd
    rw [isReturn, decide_eq_false_iff_not]
    rintro rfl
    exact absurd hprinted (by decide)
  · unfold escapeCode at hd
    split at hd
    · exact isReturn_of_mem_escapeUnit hd
    · rcases List.mem_append.mp hd with hd | hd <;> exact isReturn_of_mem_escapeUnit hd

theorem isOneLine_quote (alphabet : Alphabet) (text : String) :
    IsOneLine isReturn (alphabet.quote text) := by
  intro c hc
  rw [Alphabet.quote, String.toList_ofList, Alphabet.quoteChars, List.mem_append,
    List.mem_cons, List.mem_singleton] at hc
  rcases hc with (rfl | hc) | rfl
  · rfl
  · obtain ⟨d, -, hd⟩ := List.mem_flatMap.mp hc
    exact isReturn_of_isWritten (isWritten_encode alphabet d) hd
  · rfl

/-- A number or a word holds no carriage return. -/
theorem isOneLine_of_plainToken {text : String} {s : Scalar}
    (h : plainToken text.toList = (.scalar s, text.toList.length)) : IsOneLine isReturn text := by
  intro c hc
  rw [isReturn, decide_eq_false_iff_not]
  rintro rfl
  exact absurd (endsPlain_of_plainToken h _ hc) (by decide)

theorem isOneLine_writeScalar (alphabet : Alphabet) {s : Scalar} (h : IsWritable s) :
    IsOneLine isReturn (writeScalar alphabet s) := by
  cases s with
  | null => exact (by decide : IsOneLine isReturn "null")
  | bool b =>
      cases b with
      | false => exact (by decide : IsOneLine isReturn "false")
      | true => exact (by decide : IsOneLine isReturn "true")
  | number n =>
      cases n with
      | int n => exact isOneLine_of_plainToken (plainToken_int h)
      | float x => exact isOneLine_of_plainToken h
  | text s => exact isOneLine_quote alphabet s
  | bytes | date | instant | set | ellipsis => cases h

/-! ## Documents -/

theorem isOneLine_enclose (style : Style) (depth : Nat) {left right : String} {parts : List String}
    (hleft : IsOneLine isReturn left) (hright : IsOneLine isReturn right)
    (hparts : ∀ part ∈ parts, IsOneLine isReturn part) :
    IsOneLine isReturn (style.enclose depth left right parts) := by
  have hbreak : ∀ width, IsOneLine isReturn ("\n" ++ String.ofList (List.replicate width ' ')) := by
    intro width
    refine isOneLine_append.mpr ⟨by decide, fun c hc => ?_⟩
    rw [String.toList_ofList] at hc
    rw [List.eq_of_mem_replicate hc]
    rfl
  unfold Style.enclose
  split
  · exact isOneLine_append.mpr ⟨hleft, hright⟩
  · split
    · simp only [isOneLine_append,
        isOneLine_intercalate_iff (show IsOneLine isReturn ", " by decide)]
      exact ⟨⟨hleft, hparts⟩, hright⟩
    · rename_i width _
      have hcomma : IsOneLine isReturn
          ("," ++ ("\n" ++ String.ofList (List.replicate (width * (depth + 1)) ' '))) :=
        isOneLine_append.mpr ⟨by decide, hbreak _⟩
      simp only [isOneLine_append, isOneLine_intercalate_iff hcomma] at hbreak ⊢
      exact ⟨⟨⟨⟨hleft, hbreak _⟩, hparts⟩, hbreak _⟩, hright⟩

variable (style : Style)

mutual

/-- No carriage return stands in the text of a document. -/
theorem isOneLine_writeAt (depth : Nat) :
    ∀ d : Document, d.IsMadeOf IsWritable → IsOneLine isReturn (style.writeAt depth d)
  | .scalar _, h => isOneLine_writeScalar _ h.of_scalar
  | .list items, h => isOneLine_enclose style depth (by decide) (by decide)
      (isOneLine_writeItems (depth + 1) items h.of_list)
  | .object fields, h => isOneLine_enclose style depth (by decide) (by decide)
      (isOneLine_writeFields (depth + 1) fields h.values h.names)

theorem isOneLine_writeItems (depth : Nat) :
    ∀ items : List Document, (∀ d ∈ items, d.IsMadeOf IsWritable) →
      ∀ part ∈ style.writeItems depth items, IsOneLine isReturn part
  | [], _ => by simp [Style.writeItems]
  | d :: rest, h => List.forall_mem_cons.mpr
      ⟨isOneLine_writeAt depth d (h d List.mem_cons_self),
        isOneLine_writeItems depth rest fun d hd => h d (List.mem_cons_of_mem _ hd)⟩

theorem isOneLine_writeFields (depth : Nat) :
    ∀ fields : List (Scalar × Document), (∀ f ∈ fields, f.2.IsMadeOf IsWritable) →
      Fields.HasNames fields → ∀ part ∈ style.writeFields depth fields, IsOneLine isReturn part
  | [], _, _ => by simp [Style.writeFields]
  | (key, d) :: rest, h, hnames => by
      obtain ⟨name, rfl⟩ := hnames.text key List.mem_cons_self
      refine List.forall_mem_cons.mpr ⟨?_, isOneLine_writeFields depth rest
        (fun f hf => h f (List.mem_cons_of_mem _ hf)) hnames.tail⟩
      exact isOneLine_append.mpr ⟨isOneLine_append.mpr ⟨isOneLine_quote _ name, by decide⟩,
        isOneLine_writeAt depth d (h _ List.mem_cons_self)⟩

end

/-! ## Line ends -/

/-- Without a carriage return, line ends are as they should be. -/
theorem unifyLines_of_isOneLine {cs : List Char} (h : ∀ c ∈ cs, isReturn c = false) :
    unifyLines cs = cs := by
  induction cs with
  | nil => rfl
  | cons c cs ih =>
      obtain ⟨hc, hcs⟩ := List.forall_mem_cons.mp h
      rw [isReturn, decide_eq_false_iff_not] at hc
      unfold unifyLines
      split <;> simp_all

/-- The bytes of the text of a document, with the end of a line behind it, are read as that text. -/
theorem textOf_write {d : Document} (h : d.IsMadeOf IsWritable) :
    Workspace.textOf (style.write d ++ "\n").toUTF8 = .ok (style.write d ++ "\n") := by
  have hline : IsOneLine isReturn (style.write d ++ "\n") :=
    isOneLine_append.mpr ⟨isOneLine_writeAt style 0 d h, by decide⟩
  rw [Workspace.textOf, decode_toUTF8, Except.map, unifyLines_of_isOneLine hline,
    String.ofList_toList]

end Json

end ServiceShell
