import ServiceShell.Proofs.Schema.Time
import ServiceShell.Proofs.Schema.Validity

/-!
# Schemas that the check lets pass

A schema has six fields that are not null, and each operation in it has four that count as true.
Its time is a date and a time of day in blocks of digits, perhaps a fraction of a second, and a `Z`.
The check takes digits of any script, and does not mind a line break at the end; apart from that it
lets exactly the schemas pass.

Main results:

- Definition `TimeText`: the parts of a written time.
- Definition `Schema.IsSchemaDated`: what a schema is, given how its time is written.
- Theorem `Schema.isTime_iff`: the texts that the check takes for times.
- Theorem `Schema.isExactTime_iff`: which of them are times as they should be.
- Theorem `Schema.check_accepts_iff`: what the check lets pass, and what it should not.
-/

namespace ServiceShell

/-! ## Written times -/

/-- Whether characters are a number of digits. -/
structure IsBlock (digit : Char → Bool) (width : Nat) (cs : List Char) : Prop where
  /-- So many characters. -/
  length_eq : cs.length = width
  /-- Each of them is a digit. -/
  digits : ∀ c ∈ cs, digit c = true

/-- The parts of a written time, without the marks between them. -/
structure TimeText where
  /-- The year. -/
  year : List Char
  /-- The month. -/
  month : List Char
  /-- The day of the month. -/
  day : List Char
  /-- The hour. -/
  hour : List Char
  /-- The minute. -/
  minute : List Char
  /-- The second. -/
  second : List Char
  /-- The digits of a fraction of a second, if there are any. -/
  fraction : List Char

namespace TimeText

/-- The parts of the date and the time of day, with the number of digits of each. -/
def blocks (t : TimeText) : List (Nat × List Char) :=
  [(4, t.year), (2, t.month), (2, t.day), (2, t.hour), (2, t.minute), (2, t.second)]

/-- The date and the time of day. -/
def front (t : TimeText) : List Char :=
  t.year ++ '-' :: (t.month ++ '-' :: (t.day ++ 'T' :: (t.hour ++ ':' :: (t.minute ++ ':' ::
    t.second))))

/-- All characters: these, perhaps a fraction, and the mark of universal time. -/
def chars (t : TimeText) : List Char :=
  t.front ++ ((if t.fraction = [] then [] else '.' :: t.fraction) ++ ['Z'])

/-- Whether the parts are digits of a kind, as many as there should be. -/
structure IsOf (digit : Char → Bool) (t : TimeText) : Prop where
  /-- The date and the time of day. -/
  blocks : ∀ b ∈ t.blocks, IsBlock digit b.1 b.2
  /-- The fraction has any number of digits. -/
  fraction : ∀ c ∈ t.fraction, digit c = true

variable {digit other : Char → Bool} {t : TimeText} {c : Char}

@[simp] theorem front_with_fraction (t : TimeText) (fraction : List Char) :
    ({ t with fraction } : TimeText).front = t.front := rfl

theorem mem_front_iff : c ∈ t.front ↔ (∃ b ∈ t.blocks, c ∈ b.2) ∨ c ∈ ['-', 'T', ':'] := by
  simp only [front, blocks, List.mem_append, List.mem_cons, List.not_mem_nil, or_false,
    exists_eq_or_imp, exists_eq_left]
  tauto

/-- The characters of a written time are those of its parts, and marks. -/
theorem mem_chars_iff : c ∈ t.chars ↔
    (∃ b ∈ t.blocks, c ∈ b.2) ∨ c ∈ t.fraction ∨ c ∈ ['-', 'T', ':', 'Z'] ∨
      c = '.' ∧ t.fraction ≠ [] := by
  rw [chars, List.mem_append, mem_front_iff]
  generalize (∃ b ∈ t.blocks, c ∈ b.2) = inBlock
  by_cases hfraction : t.fraction = []
  · simp only [hfraction, if_pos, List.mem_append, List.mem_cons, List.not_mem_nil, ne_eq,
      not_true_eq_false]
    tauto
  · simp only [hfraction, if_neg, not_false_eq_true, List.mem_append, List.mem_cons,
      List.not_mem_nil, ne_eq]
    tauto

/-- Digits of one kind may be digits of another one. -/
theorem IsOf.imp (h : t.IsOf digit)
    (himp : ∀ c ∈ t.chars, digit c = true → other c = true) : t.IsOf other := by
  constructor
  · intro b hb
    refine ⟨(h.blocks b hb).length_eq, fun c hc => ?_⟩
    exact himp c (mem_chars_iff.mpr (.inl ⟨b, hb, hc⟩)) ((h.blocks b hb).digits c hc)
  · intro c hc
    exact himp c (mem_chars_iff.mpr (.inr (.inl hc))) (h.fraction c hc)

/-- The characters of a written time are digits and marks. -/
theorem IsOf.digit_or_mark (h : t.IsOf digit) (hc : c ∈ t.chars) :
    digit c = true ∨ c ∈ ['-', 'T', ':', 'Z', '.'] := by
  rcases mem_chars_iff.mp hc with ⟨b, hb, hc⟩ | hc | hc | ⟨rfl, -⟩
  · exact .inl ((h.blocks b hb).digits c hc)
  · exact .inl (h.fraction c hc)
  · exact .inr (List.mem_append_left ['.'] hc)
  · exact .inr (by decide)

end TimeText

namespace Schema

/-! ## Texts that the check takes for times -/

section Times

variable {cs rest form : List Char} {text : String}

/-- What follows as many digits as a form asks for: a block of digits is in front. -/
theorem afterForm?_digits_iff {width : Nat} :
    afterForm? (List.replicate width '0' ++ form) cs = some rest ↔
      ∃ block more, cs = block ++ more ∧ IsBlock Text.isDecimal width block ∧
        afterForm? form more = some rest := by
  induction width generalizing cs with
  | zero =>
      constructor
      · intro h
        exact ⟨[], cs, rfl, ⟨rfl, nofun⟩, h⟩
      · rintro ⟨block, more, rfl, hblock, h⟩
        rw [List.length_eq_zero_iff.mp hblock.length_eq]
        exact h
  | succ width ih =>
      rw [List.replicate_succ, List.cons_append]
      constructor
      · intro h
        cases cs with
        | nil => cases h
        | cons c cs =>
            obtain ⟨hc, hrest⟩ := Option.ite_none_right_eq_some.mp h
            obtain ⟨block, more, rfl, hblock, hmore⟩ := ih.mp hrest
            refine ⟨c :: block, more, rfl, ⟨by simp [hblock.length_eq], ?_⟩, hmore⟩
            exact List.forall_mem_cons.mpr ⟨by simpa using hc, hblock.digits⟩
      · rintro ⟨block, more, rfl, hblock, hmore⟩
        cases block with
        | nil => cases hblock.length_eq
        | cons c block =>
            obtain ⟨hc, hdigits⟩ := List.forall_mem_cons.mp hblock.digits
            have hlength : block.length = width := by simpa using hblock.length_eq
            have hrest := ih.mpr ⟨block, more, rfl, ⟨hlength, hdigits⟩, hmore⟩
            rw [List.cons_append, afterForm?]
            simpa [hc] using hrest

/-- A mark of a form is in front too. -/
theorem afterForm?_mark_iff {mark : Char} (hmark : mark ≠ '0') :
    afterForm? (mark :: form) cs = some rest ↔
      ∃ more, cs = mark :: more ∧ afterForm? form more = some rest := by
  cases cs with
  | nil => simp [afterForm?]
  | cons c cs =>
      rw [afterForm?, if_neg hmark, Option.ite_none_right_eq_some]
      constructor
      · rintro ⟨hc, h⟩
        exact ⟨cs, by rw [of_decide_eq_true hc], h⟩
      · rintro ⟨more, heq, h⟩
        cases heq
        exact ⟨decide_eq_true rfl, h⟩

/-- A date and a time of day are in front of what follows the form of a time. -/
theorem afterForm?_timeForm_iff :
    afterForm? timeForm cs = some rest ↔
      ∃ t : TimeText, (∀ b ∈ t.blocks, IsBlock Text.isDecimal b.1 b.2) ∧ cs = t.front ++ rest := by
  have hform : timeForm = List.replicate 4 '0' ++ '-' :: (List.replicate 2 '0' ++ '-' ::
      (List.replicate 2 '0' ++ 'T' :: (List.replicate 2 '0' ++ ':' ::
        (List.replicate 2 '0' ++ ':' :: (List.replicate 2 '0' ++ []))))) := by decide
  have hdash : '-' ≠ '0' := by decide
  have hday : 'T' ≠ '0' := by decide
  have hcolon : ':' ≠ '0' := by decide
  simp only [hform, afterForm?_digits_iff, afterForm?_mark_iff hdash, afterForm?_mark_iff hday,
    afterForm?_mark_iff hcolon, afterForm?, Option.some.injEq]
  constructor
  · rintro ⟨year, _, rfl, hyear, _, rfl, month, _, rfl, hmonth, _, rfl, day, _, rfl, hday, _, rfl,
      hour, _, rfl, hhour, _, rfl, minute, _, rfl, hminute, _, rfl, second, _, rfl, hsecond, rfl⟩
    refine ⟨⟨year, month, day, hour, minute, second, []⟩, ?_, by simp [TimeText.front]⟩
    simp only [TimeText.blocks, List.forall_mem_cons, List.not_mem_nil, false_implies,
      implies_true, and_true]
    exact ⟨hyear, hmonth, hday, hhour, hminute, hsecond⟩
  · rintro ⟨t, hblocks, rfl⟩
    simp only [TimeText.blocks, List.forall_mem_cons, List.not_mem_nil, false_implies,
      implies_true, and_true] at hblocks
    obtain ⟨hyear, hmonth, hday, hhour, hminute, hsecond⟩ := hblocks
    exact ⟨t.year, _, by simp [TimeText.front], hyear, _, rfl, t.month, _, rfl, hmonth, _, rfl,
      t.day, _, rfl, hday, _, rfl, t.hour, _, rfl, hhour, _, rfl, t.minute, _, rfl, hminute, _, rfl,
      t.second, _, rfl, hsecond, rfl⟩

theorem isZoneMark_iff : isZoneMark cs = true ↔ cs = ['Z'] ∨ cs = ['Z', '\n'] := by
  simp [isZoneMark]

/-- The mark of universal time stands behind one digit at least. -/
theorem digits_then_isZoneMark_iff :
    (!(cs.takeWhile Text.isDecimal).isEmpty && isZoneMark (cs.dropWhile Text.isDecimal)) = true ↔
      ∃ digits mark, cs = digits ++ mark ∧ digits ≠ [] ∧
        (∀ c ∈ digits, Text.isDecimal c = true) ∧ isZoneMark mark = true := by
  rw [Bool.and_eq_true, Bool.not_eq_true', List.isEmpty_eq_false_iff]
  constructor
  · rintro ⟨hne, hmark⟩
    exact ⟨_, _, List.takeWhile_append_dropWhile.symm, hne,
      fun c hc => List.all_eq_true.mp List.all_takeWhile c hc, hmark⟩
  · rintro ⟨digits, mark, rfl, hne, hdigits, hmark⟩
    rw [List.takeWhile_append_of_pos hdigits, List.dropWhile_append_of_pos hdigits]
    have hstop : mark.takeWhile Text.isDecimal = [] ∧ mark.dropWhile Text.isDecimal = mark := by
      rcases isZoneMark_iff.mp hmark with rfl | rfl <;> decide
    rw [hstop.1, hstop.2, List.append_nil]
    exact ⟨hne, hmark⟩

/-- Whether a text is a time in digits of any script, perhaps with a line break behind it. -/
def IsLooseTime (text : String) : Prop :=
  ∃ t : TimeText, t.IsOf Text.isDecimal ∧
    (text.toList = t.chars ∨ text.toList = t.chars ++ ['\n'])

/-- The check takes exactly such texts for times. -/
theorem isTime_iff : isTime text = true ↔ IsLooseTime text := by
  unfold isTime
  constructor
  · intro h
    split at h
    · cases h
    · rename_i rest hafter
      obtain ⟨t, hblocks, htext⟩ := afterForm?_timeForm_iff.mp hafter
      obtain ⟨digits, mark, rfl, hne, hdigits, hmark⟩ := digits_then_isZoneMark_iff.mp h
      refine ⟨{ t with fraction := digits }, ⟨hblocks, hdigits⟩, ?_⟩
      rcases isZoneMark_iff.mp hmark with rfl | rfl
      · exact .inl (by simpa [TimeText.chars, hne] using htext)
      · exact .inr (by simpa [TimeText.chars, hne] using htext)
    · rename_i rest hpoint hafter
      obtain ⟨t, hblocks, htext⟩ := afterForm?_timeForm_iff.mp hafter
      refine ⟨{ t with fraction := [] }, ⟨hblocks, nofun⟩, ?_⟩
      rcases isZoneMark_iff.mp h with rfl | rfl
      · exact .inl (by simpa [TimeText.chars] using htext)
      · exact .inr (by simpa [TimeText.chars] using htext)
  · rintro ⟨t, ht, htext⟩
    obtain ⟨mark, hmark, hrest⟩ : ∃ mark, isZoneMark mark = true ∧
        text.toList = t.front ++ ((if t.fraction = [] then [] else '.' :: t.fraction) ++ mark) := by
      rcases htext with htext | htext
      · exact ⟨['Z'], rfl, htext⟩
      · exact ⟨['Z', '\n'], rfl, by simpa [TimeText.chars] using htext⟩
    rw [afterForm?_timeForm_iff.mpr ⟨t, ht.blocks, hrest⟩]
    by_cases hfraction : t.fraction = []
    · rw [if_pos hfraction, List.nil_append]
      rcases isZoneMark_iff.mp hmark with rfl | rfl <;> rfl
    · rw [if_neg hfraction, List.cons_append]
      exact digits_then_isZoneMark_iff.mpr ⟨_, mark, rfl, hfraction, ht.fraction, hmark⟩

/-- Whether a text is a time in digits of ASCII, with nothing behind it. -/
def IsExactTime (text : String) : Prop :=
  ∃ t : TimeText, t.IsOf Char.isDigit ∧ text.toList = t.chars

/-- The texts that are times as they should be are those without a line break and without digits
of other scripts. -/
theorem isExactTime_iff :
    IsExactTime text ↔ IsLooseTime text ∧ '\n' ∉ text.toList ∧
      ∀ c ∈ text.toList, Text.isDecimal c = true → c.isDigit = true := by
  constructor
  · rintro ⟨t, ht, htext⟩
    have hloose : t.IsOf Text.isDecimal := ht.imp fun c _ hc => Text.isDecimal_of_isDigit hc
    refine ⟨⟨t, hloose, .inl htext⟩, ?_, ?_⟩
    · rw [htext]
      intro hbreak
      rcases ht.digit_or_mark hbreak with hdigit | hmark
      · exact absurd hdigit (by decide)
      · exact absurd hmark (by decide)
    · intro c hc hdecimal
      rw [htext] at hc
      refine (ht.digit_or_mark hc).resolve_right fun hmark => ?_
      have hmarks : ['-', 'T', ':', 'Z', '.'].all (!Text.isDecimal ·) = true := by decide
      have hother : Text.isDecimal c = false := by simpa using List.all_eq_true.mp hmarks c hmark
      cases hdecimal.symm.trans hother
  · rintro ⟨⟨t, ht, htext⟩, hbreak, hdigits⟩
    have hchars : text.toList = t.chars := by
      refine htext.resolve_right fun hother => hbreak ?_
      rw [hother]
      exact List.mem_append_right _ (List.mem_singleton_self _)
    refine ⟨t, ht.imp fun c hc hdecimal => ?_, hchars⟩
    exact hdigits c (hchars ▸ hc) hdecimal

end Times

/-! ## Schemas -/

/-- Whether a document is a schema, given how its time is written. -/
structure IsSchemaDated (isDate : String → Prop) (d : Document) : Prop where
  /-- It is an object. -/
  isObject_eq : d.isObject = true
  /-- No field is missing or null. -/
  present : ∀ field ∈ requiredFields, ∃ value, d.get? field = some value ∧ value ≠ .null
  /-- The service has a name. -/
  service : ∃ name, d.get? "service" = some (.text name) ∧ name ≠ ""
  /-- The metadata are an object. -/
  metadata : ∃ fields, d.get? "metadata" = some (.object fields)
  /-- It tells when it was made. -/
  generatedAt : ∃ text, d.get? "generated_at" = some (.text text) ∧ isDate text
  /-- The operations are a list of operations. -/
  operations : ∃ items, d.get? "operations" = some (.list items) ∧ ∀ item ∈ items, IsOperation item

section Schemas

variable {d : Document}

/-- A value that is not null stands in a field exactly when it is found there. -/
theorem getD_eq_iff {key : String} {value : Document} (hvalue : value ≠ .null) :
    d.getD key = value ↔ d.get? key = some value := by
  rw [Document.getD]
  cases d.get? key with
  | none => simpa using hvalue.symm
  | some found => simp

theorem isNull_getD_eq_false_iff {key : String} :
    (d.getD key).isNull = false ↔ ∃ value, d.get? key = some value ∧ value ≠ .null := by
  have hnull (value : Document) : value.isNull = false ↔ value ≠ .null := by
    cases value with
    | scalar s => cases s <;> simp [Document.isNull]
    | _ => simp [Document.isNull]
  rw [Document.getD, hnull]
  cases d.get? key <;> simp

/-- The check lets exactly the schemas pass whose time it takes for one. -/
theorem isSchema_iff_isSchemaDated : IsSchema d ↔ IsSchemaDated IsLooseTime d := by
  have htext (text : String) : Document.text text ≠ .null := nofun
  have hlist (items : List Document) : Document.list items ≠ .null := nofun
  have hobject (fields : Fields) : Document.object fields ≠ .null := nofun
  constructor
  · intro h
    obtain ⟨name, hname, hne⟩ := h.service
    obtain ⟨text, htime, hdate⟩ := h.generatedAt
    obtain ⟨items, hitems, hoperations⟩ := h.operations
    have hpresent (field : String) (hfield : field ∈ requiredFields) :=
      isNull_getD_eq_false_iff.mp (h.isNull_eq field hfield)
    refine ⟨h.isObject_eq, hpresent, ⟨name, (getD_eq_iff (htext name)).mp hname, hne⟩, ?_,
      ⟨text, (getD_eq_iff (htext text)).mp htime, isTime_iff.mp hdate⟩,
      ⟨items, (getD_eq_iff (hlist items)).mp hitems, hoperations⟩⟩
    have hmetadata := h.metadata
    cases hvalue : d.getD "metadata" with
    | object fields => exact ⟨fields, (getD_eq_iff (hobject fields)).mp hvalue⟩
    | _ =>
        rw [hvalue] at hmetadata
        cases hmetadata
  · intro h
    obtain ⟨name, hname, hne⟩ := h.service
    obtain ⟨fields, hfields⟩ := h.metadata
    obtain ⟨text, htime, hdate⟩ := h.generatedAt
    obtain ⟨items, hitems, hoperations⟩ := h.operations
    have hpresent (field : String) (hfield : field ∈ requiredFields) :=
      isNull_getD_eq_false_iff.mpr (h.present field hfield)
    refine ⟨h.isObject_eq, hpresent, ⟨name, (getD_eq_iff (htext name)).mpr hname, hne⟩, ?_,
      ⟨text, (getD_eq_iff (htext text)).mpr htime, isTime_iff.mpr hdate⟩,
      ⟨items, (getD_eq_iff (hlist items)).mpr hitems, hoperations⟩⟩
    rw [(getD_eq_iff (hobject fields)).mpr hfields]
    rfl

/-- The check lets exactly the documents pass that are schemas but for how their time is written:
it may be in digits of any script, and a line break may stand behind it.  Any other document has a
problem that is told.  The schemas whose time is written as it should be are those that pass without
such a digit and such a break. -/
theorem check_accepts_iff (d : Document) :
    (isValid d = true ∧ problemTexts d = [] ↔ IsSchemaDated IsLooseTime d) ∧
    (¬ IsSchemaDated IsLooseTime d → isValid d = false ∧ problemTexts d ≠ []) ∧
    (IsSchemaDated IsExactTime d ↔ IsSchemaDated IsLooseTime d ∧
      ∀ text, d.get? "generated_at" = some (.text text) →
        '\n' ∉ text.toList ∧ ∀ c ∈ text.toList, Text.isDecimal c = true → c.isDigit = true) := by
  have hvalid : isValid d = true ↔ IsSchemaDated IsLooseTime d :=
    isValid_iff_isSchema.trans isSchema_iff_isSchemaDated
  refine ⟨?_, fun h => ?_, ?_⟩
  · rw [problemTexts_eq_nil_iff, and_self, hvalid]
  · rw [← hvalid, Bool.not_eq_true] at h
    rw [ne_eq, problemTexts_eq_nil_iff, h]
    exact ⟨rfl, Bool.false_ne_true⟩
  · constructor
    · intro h
      obtain ⟨text, htime, hdate⟩ := h.generatedAt
      obtain ⟨hloose, hplain⟩ := isExactTime_iff.mp hdate
      refine ⟨{ h with generatedAt := ⟨text, htime, hloose⟩ }, fun other hother => ?_⟩
      rw [htime] at hother
      cases hother
      exact hplain
    · rintro ⟨h, hplain⟩
      obtain ⟨text, htime, hloose⟩ := h.generatedAt
      exact { h with
        generatedAt := ⟨text, htime, isExactTime_iff.mpr ⟨hloose, hplain text htime⟩⟩ }

/-- The time of a schema may be in digits of another script, with a line break behind it. -/
example : isTime "\u0662\u0660\u0662\u0664-01-01T00:00:00Z\n" = true := by decide

end Schemas

end Schema

end ServiceShell
