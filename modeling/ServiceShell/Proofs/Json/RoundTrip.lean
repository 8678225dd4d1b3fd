import ServiceShell.Json.Printer
import ServiceShell.Json.Reader
import ServiceShell.Proofs.Document.Made
import ServiceShell.Proofs.Json.Splitting
import ServiceShell.Proofs.Text.Digits

/-!
# Documents are read back from JSON text

The text of a document is read as that document, in whatever style it is laid out, as long as each
of its scalars is read back.  The text is first split into the tokens of the document, by induction
on the document; then these tokens are read, each part at the place where it stands.

Main results:

- Definition `Json.IsWritable`: the scalars that JSON text has a token for.
- Definition `Document.tokens`: the tokens that a document is written with.
- Theorem `Json.splitsInto_writeAt`: the text of a document is split into its tokens.
- Theorem `Json.State.read?_tokens`: the tokens of a document are read as the document.
- Theorem `Json.parse_write`: the text of a document is read as the document.
-/

namespace ServiceShell

namespace Json

open Text

/-! ## Scalars -/

/-- The text of a double is read as that double. -/
def IsReadBack (x : Float) : Prop :=
  plainToken (layout.write x).toList =
    (.scalar (.number (.float x)), (layout.write x).toList.length)

/-- The scalars that JSON text has a token for: integers with not too many digits, and doubles that
are read back from their text; no bytes, dates or points of time. -/
def IsWritable : Scalar → Prop
  | .null | .bool _ | .text _ => True
  | .number (.int n) => HasFewDigits n
  | .number (.float x) => IsReadBack x
  | .bytes _ | .date _ | .instant _ | .set _ | .ellipsis => False

/-- The token that a scalar is written as. -/
def scalarToken : Scalar → Token
  | .text s => .text s
  | s => .scalar s

/-- The text of a scalar is its token. -/
theorem splitsInto_writeScalar (alphabet : Alphabet) {s : Scalar} (h : IsWritable s) :
    SplitsInto (writeScalar alphabet s).toList [scalarToken s] := by
  cases s with
  | null => exact @splitsInto_plain "null".toList .null (by decide)
  | bool b =>
      cases b with
      | false => exact @splitsInto_plain "false".toList (.bool false) (by decide)
      | true => exact @splitsInto_plain "true".toList (.bool true) (by decide)
  | number n =>
      cases n with
      | int n => exact splitsInto_plain (plainToken_int h)
      | float x => exact splitsInto_plain h
  | text s => exact splitsInto_quote alphabet s
  | bytes | date | instant | set | ellipsis => cases h

end Json

/-! ## Tokens of documents -/

open Json in
mutual

/-- The tokens that a document is written with. -/
def Document.tokens : Document → List Token
  | .scalar s => [scalarToken s]
  | .list items => .openList :: ([.comma].intercalate (itemTokens items) ++ [.closeList])
  | .object fields => .openObject :: ([.comma].intercalate (fieldTokens fields) ++ [.closeObject])

/-- The tokens of each item of a list. -/
def Document.itemTokens : List Document → List (List Token)
  | [] => []
  | d :: rest => d.tokens :: itemTokens rest

/-- The tokens of each field of an object. -/
def Document.fieldTokens : List (Scalar × Document) → List (List Token)
  | [] => []
  | (key, d) :: rest => (scalarToken key :: .colon :: d.tokens) :: fieldTokens rest

end

namespace Json

open Text Document

/-! ## Layout -/

/-- Parts with their tokens. -/
abbrev PartsSplitInto (parts : List String) (ts : List (List Token)) : Prop :=
  List.Forall₂ (fun part t => SplitsInto part.toList t) parts ts

/-- Parts with commas and spaces between them. -/
theorem splitsInto_intercalate {spaces : List Char} (hspaces : ∀ c ∈ spaces, isSpace c = true)
    {parts : List String} {ts : List (List Token)} (h : PartsSplitInto parts ts) :
    SplitsInto ((',' :: spaces).intercalate (parts.map String.toList))
      ([.comma].intercalate ts) := by
  induction h with
  | nil => exact splitsInto_nil
  | cons hpart hrest ih =>
      cases hrest with
      | nil => simpa using hpart
      | cons hnext hmore =>
          simp only [List.map_cons, List.intercalate_cons_cons] at ih ⊢
          rw [List.append_assoc, List.append_assoc]
          exact hpart.append ((ih.spaces hspaces).symbol isSymbol_comma)
            fun _ _ => (cutsOff_cons _ _).mpr isSymbol_comma.ends

/-- Whether there are only spaces in a text. -/
def IsBlank (cs : List Char) : Prop := ∀ c ∈ cs, isSpace c = true

theorem cutsOff_of_isBlank {cs : List Char} (h : IsBlank cs) : CutsOff cs := by
  cases cs with
  | nil => exact cutsOff_nil
  | cons c cs =>
      have hc := h c List.mem_cons_self
      simp only [isSpace, Bool.or_eq_true, decide_eq_true_eq] at hc
      refine (cutsOff_cons _ _).mpr ?_
      rcases hc with ((rfl | rfl) | rfl) | rfl <;> decide

/-- The end of a line, and the spaces before the next one. -/
def lineBreak (width : Nat) : List Char := '\n' :: List.replicate width ' '

theorem isBlank_lineBreak (width : Nat) : IsBlank (lineBreak width) := by
  intro c hc
  rcases List.mem_cons.mp hc with rfl | hblank
  · rfl
  · rw [List.eq_of_mem_replicate hblank]
    rfl

/-- Parts between brackets: there are only spaces besides the commas. -/
theorem exists_enclose (style : Style) (depth : Nat) (left right : String) (parts : List String) :
    ∃ first between last, IsBlank first ∧ IsBlank between ∧ IsBlank last ∧
      (style.enclose depth left right parts).toList = left.toList ++ (first ++
        ((',' :: between).intercalate (parts.map String.toList) ++ (last ++ right.toList))) := by
  unfold Style.enclose
  split <;> rename_i hempty
  · rw [List.isEmpty_iff] at hempty
    exact ⟨[], [], [], by simp [IsBlank], by simp [IsBlank], by simp [IsBlank], by simp [hempty]⟩
  · split
    · exact ⟨[], [' '], [], by simp [IsBlank], by simp [IsBlank, isSpace], by simp [IsBlank],
        by simp [String.toList_intercalate]⟩
    · rename_i width _
      exact ⟨lineBreak (width * (depth + 1)), lineBreak (width * (depth + 1)),
        lineBreak (width * depth), isBlank_lineBreak _, isBlank_lineBreak _, isBlank_lineBreak _,
        by simp [lineBreak, String.toList_intercalate]⟩

/-- Parts between brackets are split into the brackets and the parts with commas between them. -/
theorem splitsInto_enclose (style : Style) (depth : Nat) {left right : String} {l r : Char}
    {opening closing : Token} (hleft : left.toList = [l]) (hl : IsSymbol l opening)
    (hright : right.toList = [r]) (hr : IsSymbol r closing) {parts : List String}
    {ts : List (List Token)} (h : PartsSplitInto parts ts) :
    SplitsInto (style.enclose depth left right parts).toList
      (opening :: ([.comma].intercalate ts ++ [closing])) := by
  obtain ⟨first, between, last, hfirst, hbetween, hlast, heq⟩ :=
    exists_enclose style depth left right parts
  have hend : SplitsInto (last ++ [r]) [closing] := (splitsInto_nil.symbol hr).spaces hlast
  have hcut : ∀ rest, CutsOff rest → CutsOff (last ++ [r] ++ rest) := by
    intro rest _
    cases last with
    | nil => exact (cutsOff_cons _ _).mpr hr.ends
    | cons c last =>
        exact (cutsOff_cons _ _).mpr ((cutsOff_cons _ _).mp (cutsOff_of_isBlank hlast))
  rw [heq, hleft, hright, List.singleton_append]
  exact (((splitsInto_intercalate hbetween h).append hend hcut).spaces hfirst).symbol hl

/-! ## Documents -/

open Text

variable (style : Style)

mutual

/-- The text of a document is split into its tokens. -/
theorem splitsInto_writeAt (depth : Nat) :
    ∀ d : Document, d.IsMadeOf IsWritable → SplitsInto (style.writeAt depth d).toList d.tokens
  | .scalar _, h => splitsInto_writeScalar _ h.of_scalar
  | .list items, h => splitsInto_enclose style depth rfl isSymbol_openList rfl isSymbol_closeList
      (splitsInto_writeItems (depth + 1) items h.of_list)
  | .object fields, h => splitsInto_enclose style depth rfl isSymbol_openObject rfl
      isSymbol_closeObject (splitsInto_writeFields (depth + 1) fields h.values h.names)

theorem splitsInto_writeItems (depth : Nat) :
    ∀ items : List Document, (∀ d ∈ items, d.IsMadeOf IsWritable) →
      PartsSplitInto (style.writeItems depth items) (itemTokens items)
  | [], _ => .nil
  | d :: rest, h =>
      .cons (splitsInto_writeAt depth d (h d List.mem_cons_self))
        (splitsInto_writeItems depth rest fun d hd => h d (List.mem_cons_of_mem _ hd))

theorem splitsInto_writeFields (depth : Nat) :
    ∀ fields : List (Scalar × Document), (∀ f ∈ fields, f.2.IsMadeOf IsWritable) →
      Fields.HasNames fields → PartsSplitInto (style.writeFields depth fields) (fieldTokens fields)
  | [], _, _ => .nil
  | (key, d) :: rest, h, hnames => by
      obtain ⟨name, rfl⟩ := hnames.text key List.mem_cons_self
      refine .cons ?_ (splitsInto_writeFields depth rest
        (fun f hf => h f (List.mem_cons_of_mem _ hf)) hnames.tail)
      have hvalue := splitsInto_writeAt depth d (h _ List.mem_cons_self)
      rw [String.toList_append, String.toList_append, List.append_assoc]
      exact (splitsInto_quote _ name).append
        ((hvalue.spaces (by simp [isSpace] : ∀ c ∈ [' '], isSpace c = true)).symbol isSymbol_colon)
        fun _ _ => (cutsOff_cons _ _).mpr isSymbol_colon.ends

end

/-! ## Reading tokens -/

namespace State

/-- The document that tokens without places are read as, if they make one. -/
def read? (s : State) : List Token → Option Document
  | [] =>
    match s.phase with
    | .done d => some d
    | _ => none
  | token :: rest =>
    match s.step token 0 with
    | .ok s => s.read? rest
    | .error _ => none

/-- The place of a token has no effect on the state behind it. -/
theorem toOption_step (s : State) (token : Token) (offset : Nat) :
    (s.step token offset).toOption = (s.step token 0).toOption := by
  have hvalue : (s.beginValue token offset).toOption = (s.beginValue token 0).toOption := by
    cases token <;> rfl
  have hfield : (s.beginField token offset).toOption = (s.beginField token 0).toOption := by
    unfold beginField
    split <;> rfl
  unfold step
  split <;> first | exact hvalue | exact hfield | rfl

/-- Tokens are read alike with and without their places. -/
theorem run_eq_ok_iff {length : Nat} {s : State} {ts : List (Token × Nat)} {d : Document} :
    s.run length ts = .ok d ↔ s.read? (ts.map Prod.fst) = some d := by
  induction ts generalizing s with
  | nil =>
      obtain ⟨phase, stack⟩ := s
      cases phase <;> simp [run, read?]
  | cons t ts ih =>
      obtain ⟨token, offset⟩ := t
      have hstep := s.toOption_step token offset
      rw [run, List.map_cons, read?]
      cases hleft : s.step token offset <;> cases hright : s.step token 0 <;>
        simp_all [Except.toOption]

/-- A list that has just begun goes on like any other, unless it ends at once. -/
theorem read?_firstItem {token : Token} (h : token ≠ .closeList) (stack : List Frame)
    (ts : List Token) :
    (⟨.firstItem, stack⟩ : State).read? (token :: ts) = read? ⟨.value, stack⟩ (token :: ts) := by
  cases token <;> first | exact absurd rfl h | rfl

/-- No document begins with the end of a list, or with what is no token at all. -/
theorem exists_tokens (d : Document) : ∃ token more, d.tokens = token :: more ∧
    token ≠ .closeList ∧ token ≠ .unknown := by
  cases d with
  | scalar s => cases s <;> exact ⟨_, _, rfl, by simp [scalarToken], by simp [scalarToken]⟩
  | list items => exact ⟨_, _, rfl, by simp, by simp⟩
  | object fields => exact ⟨_, _, rfl, by simp, by simp⟩

mutual

/-- The tokens of a document are read as the document, where a value may stand. -/
theorem read?_tokens {kind : Scalar → Prop} (stack : List Frame) (ts : List Token) :
    ∀ d : Document, d.IsMadeOf kind →
      (⟨.value, stack⟩ : State).read? (d.tokens ++ ts) = (deliver d stack).read? ts
  | .scalar s, _ => by cases s <;> rfl
  | .list [], _ => rfl
  | .list (d :: rest), h => by
      have hitems := read?_items [] stack ts (d :: rest) (List.cons_ne_nil d rest) h.of_list
      obtain ⟨token, more, htokens, hne, -⟩ := exists_tokens d
      rw [itemTokens, htokens, List.intercalate_cons_cons_left] at hitems
      have hlist : (Document.list (d :: rest)).tokens ++ ts = .openList :: (token ::
          ([.comma].intercalate (more :: itemTokens rest) ++ .closeList :: ts)) := by
        rw [Document.tokens, itemTokens, htokens, List.intercalate_cons_cons_left]
        simp
      rw [hlist]
      exact (read?_firstItem hne _ _).trans hitems
  | .object [], _ => rfl
  | .object (f :: rest), h => by
      obtain ⟨key, d⟩ := f
      have hfields := read?_fields [] "" stack ts ((key, d) :: rest) (List.cons_ne_nil _ rest)
        h.values h.names
      obtain ⟨name, rfl⟩ := h.names.text key List.mem_cons_self
      rw [List.reverse_nil, List.nil_append, Fields.ofEntries_eq_self h.names, fieldTokens,
        List.intercalate_cons_cons_left] at hfields
      have hobject : (Document.object ((.text name, d) :: rest)).tokens ++ ts =
          .openObject :: (.text name :: ([.comma].intercalate
            ((.colon :: d.tokens) :: fieldTokens rest) ++ .closeObject :: ts)) := by
        rw [Document.tokens, fieldTokens, List.intercalate_cons_cons_left]
        simp [scalarToken]
      rw [hobject]
      exact hfields

/-- The items of a list are read behind those that were read. -/
theorem read?_items {kind : Scalar → Prop} (read : List Document) (stack : List Frame)
    (ts : List Token) :
    ∀ items : List Document, items ≠ [] → (∀ d ∈ items, d.IsMadeOf kind) →
      (⟨.value, .list read :: stack⟩ : State).read?
          ([.comma].intercalate (itemTokens items) ++ .closeList :: ts) =
        (deliver (.list (read.reverse ++ items)) stack).read? ts
  | [d], _, h => by
      rw [itemTokens, itemTokens, List.intercalate_singleton,
        read?_tokens _ _ d (h d List.mem_cons_self), ← List.reverse_cons]
      rfl
  | d :: e :: rest, _, h => by
      have hrest := read?_items (d :: read) stack ts (e :: rest) (List.cons_ne_nil e rest)
        fun d hd => h d (List.mem_cons_of_mem _ hd)
      rw [List.reverse_cons, List.append_assoc] at hrest
      rw [itemTokens, itemTokens, List.intercalate_cons_cons, List.append_assoc, List.append_assoc,
        read?_tokens _ _ d (h d List.mem_cons_self)]
      exact hrest

/-- The fields of an object are read behind those that were read. -/
theorem read?_fields {kind : Scalar → Prop} (read : List (Scalar × Document)) (last : String)
    (stack : List Frame) (ts : List Token) :
    ∀ fields : List (Scalar × Document), fields ≠ [] → (∀ f ∈ fields, f.2.IsMadeOf kind) →
      Fields.HasNames fields →
      (⟨.name, .object read last :: stack⟩ : State).read?
          ([.comma].intercalate (fieldTokens fields) ++ .closeObject :: ts) =
        (deliver (.object (Fields.ofEntries (read.reverse ++ fields))) stack).read? ts
  | [(key, d)], _, h, hnames => by
      obtain ⟨name, rfl⟩ := hnames.text key List.mem_cons_self
      have hvalue := read?_tokens (.object read name :: stack) (.closeObject :: ts) d
        (h _ List.mem_cons_self)
      rw [fieldTokens, fieldTokens, List.intercalate_singleton, ← List.reverse_cons]
      exact hvalue
  | (key, d) :: g :: rest, _, h, hnames => by
      obtain ⟨name, rfl⟩ := hnames.text key List.mem_cons_self
      have hrest := read?_fields ((.text name, d) :: read) name stack ts (g :: rest)
        (List.cons_ne_nil g rest) (fun f hf => h f (List.mem_cons_of_mem _ hf)) hnames.tail
      have hvalue := read?_tokens (.object read name :: stack)
        (.comma :: ([.comma].intercalate (fieldTokens (g :: rest)) ++ .closeObject :: ts)) d
        (h _ List.mem_cons_self)
      rw [List.reverse_cons, List.append_assoc] at hrest
      rw [fieldTokens, fieldTokens, List.intercalate_cons_cons, List.append_assoc,
        List.append_assoc]
      exact hvalue.trans hrest

end

end State

/-! ## Main statement -/

theorem kinds_of_isBlank {cs : List Char} (h : IsBlank cs) : kinds cs = [] := by
  have hall := splitsInto_nil.spaces h [] cutsOff_nil
  rw [List.append_nil, List.append_nil] at hall
  exact hall

/-- The text of a document, with spaces behind it, is read as the document. -/
theorem parse_write (style : Style) {d : Document} (h : d.IsMadeOf IsWritable) {blank : String}
    (hblank : IsBlank blank.toList) : parse (style.write d ++ blank) = .ok d := by
  have hkinds : kinds (style.write d ++ blank).toList = d.tokens := by
    rw [String.toList_append, Style.write,
      splitsInto_writeAt style 0 d h _ (cutsOff_of_isBlank hblank), kinds_of_isBlank hblank,
      List.append_nil]
  have hread : State.start.run (style.write d ++ blank).toList.length
      (tokens (style.write d ++ blank).toList) = .ok d := by
    rw [State.run_eq_ok_iff]
    show State.start.read? (kinds _) = some d
    rw [hkinds, ← List.append_nil d.tokens]
    exact State.read?_tokens [] [] d h
  have hmark : (style.write d ++ blank).toList.head? ≠ some '\uFEFF' := by
    intro hhead
    obtain ⟨r, hr⟩ := List.head?_eq_some_iff.mp hhead
    obtain ⟨token, more, htokens, -, hne⟩ := State.exists_tokens d
    have hplain : tokenAt '\uFEFF' ([] ++ r) = (.unknown, ([] : List Char).length) := by
      show ((plainToken ('\uFEFF' :: r)).1, (plainToken ('\uFEFF' :: r)).2 - 1) = _
      rw [plainToken_of_not_isAlphanum (by decide) (by decide)]
      rfl
    have hunknown := kinds_token (by decide) hplain
    rw [hr, htokens] at hkinds
    rw [List.nil_append, hkinds] at hunknown
    exact hne (List.cons.inj hunknown).1
  rw [parse, if_neg hmark, hread]

/-- The same for the end of a line behind it, as files have it. -/
theorem parse_write_lineEnd (style : Style) {d : Document} (h : d.IsMadeOf IsWritable) :
    parse (style.write d ++ "\n") = .ok d := by
  have hblank : IsBlank "\n".toList := isBlank_lineBreak 0
  exact parse_write style h hblank

end Json

end ServiceShell
