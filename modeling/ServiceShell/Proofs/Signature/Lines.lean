import ServiceShell.Proofs.Signature.Parameters
import ServiceShell.Proofs.Text.OneLine

/-!
# Lines of a definition

The definition of a command is a list of lines that are joined by newlines.  Documentation, messages
on deprecation, names on the command line and choices stay on their lines, whatever the model says.
Three kinds of texts are copied as they are: the model name of the operation, a record key without
quotes, which may end with a newline, and what comments quote.

Main results:

- Theorem `Signature.isOneLine_recordKey_iff`: a key breaks its line exactly when it has no quotes
  and holds a newline.
- Theorem `Signature.forall_isOneLine_comments_iff`: comments stay on their lines exactly when the
  notes on types and the names of errors do.
- Theorem `Signature.linesBy_render_eq_lines_iff`: when a definition has the lines that its
  structure calls for.
-/

namespace ServiceShell

open Naming Text

variable {ends : Char → Bool} {settings : GeneratorSettings} {service : String}
  {pagination : Pagination} {errors : List ErrorDescriptor} {o : Operation}

/-- The spelling of a type stays on one line. -/
theorem HostType.isOneLine_render (t : HostType) : IsOneLine isLineBreak t.render := by
  fun_induction HostType.render t with
  | case1 => decide
  | case2 element _ _ ih =>
      simp only [isOneLine_append]
      exact ⟨⟨by decide, ih⟩, by decide⟩
  | case3 kind => cases kind <;> decide

/-! ## Parameters -/

namespace Parameter

/-- A parameter whose name and documentation are on one line. -/
structure HasOneLine (p : Parameter) : Prop where
  /-- Its name is on one line. -/
  name : IsOneLine isLineBreak p.name
  /-- Its documentation is on one line. -/
  documentation : IsOneLine isLineBreak p.documentation

/-- The name that a member asks for stays on one line. -/
theorem isOneLine_wantedName (m : MemberInfo) : IsOneLine isLineBreak (wantedName m) := by
  unfold wantedName
  split
  · exact isOneLine_identifier _
  · simp only
    split
    · decide
    · exact isOneLine_kebab _

theorem isOneLine_separator (m : MemberInfo) : IsOneLine isLineBreak (separator m) := by
  unfold separator
  split <;> decide

theorem hasOneLine_of_mem_ofMembersFrom {taken : List String} {members : List (Member Shape)}
    {p : Parameter} (hp : p ∈ ofMembersFrom settings service taken members) : p.HasOneLine := by
  obtain ⟨m, -, before, rfl⟩ := exists_ofMember_of_mem hp
  exact ⟨isOneLine_firstFree (isOneLine_wantedName _) (isOneLine_separator _) before,
    isOneLine_summary _ _⟩

end Parameter

namespace Signature

/-- Whatever the input, the names of the parameters and their documentation are on one line. -/
theorem hasOneLine_of_mem_parameters {p : Parameter}
    (hp : p ∈ (ofOperation settings service pagination errors o).parameters) : p.HasOneLine := by
  simp only [ofOperation, inputParameters] at hp
  split at hp
  · exact Parameter.hasOneLine_of_mem_ofMembersFrom hp
  · rw [List.mem_singleton.mp hp]
    exact ⟨(by decide : IsOneLine isLineBreak Parameter.restName),
      (by decide : IsOneLine isLineBreak "")⟩

/-- What is said on deprecation stays on one line. -/
theorem isOneLine_deprecationText (message : Option String) :
    IsOneLine isLineBreak (deprecationText message) := by
  unfold deprecationText
  simp only
  split
  · decide
  · rw [isOneLine_append]
    exact ⟨by decide, isOneLine_plain _⟩

theorem isOneLine_parameterHead {p : Parameter} (hname : IsOneLine isLineBreak p.name) :
    IsOneLine isLineBreak (parameterHead p) := by
  unfold parameterHead
  split
  · simp only [isOneLine_append]
    exact ⟨⟨⟨by decide, hname⟩, by decide⟩, p.type.isOneLine_render⟩
  · split
    · rw [isOneLine_append]
      exact ⟨by decide, hname⟩
    · split
      · simp only [isOneLine_append]
        exact ⟨⟨hname, by decide⟩, p.type.isOneLine_render⟩
      · simp only [isOneLine_append]
        exact ⟨⟨⟨by decide, hname⟩, by decide⟩, p.type.isOneLine_render⟩

/-- A completion stays on one line: choices and commands are quoted. -/
theorem isOneLine_completionText (commandPrefix : String) (p : Parameter) :
    IsOneLine isLineBreak (completionText commandPrefix p) := by
  unfold completionText
  split
  · decide
  · split
    · decide
    · split
      · simp only [isOneLine_append]
        refine ⟨⟨by decide, ?_⟩, by decide⟩
        rw [isOneLine_intercalate_iff (by decide), List.forall_mem_map]
        exact fun choice _ => isOneLine_quote choice
      · rw [isOneLine_append]
        exact ⟨by decide, isOneLine_quote _⟩

/-- The line of a parameter is one line. -/
theorem isOneLine_parameterLine {p : Parameter} (hp : p.HasOneLine) (commandPrefix : String) :
    IsOneLine isLineBreak (parameterLine commandPrefix p) := by
  have hcomment : IsOneLine isLineBreak (parameterComment p) := by
    unfold parameterComment
    split
    · rw [isOneLine_append]
      exact ⟨by decide, isOneLine_deprecationText _⟩
    · split
      · decide
      · rw [isOneLine_append]
        exact ⟨by decide, hp.documentation⟩
  simp only [parameterLine, isOneLine_append]
  exact ⟨⟨⟨by decide, isOneLine_parameterHead hp.name⟩, isOneLine_completionText _ _⟩, hcomment⟩

/-! ## Keys -/

/-- A word that can be a key is printed as it is. -/
theorem admits_of_isKeyWord {cs : List Char} (h : IsKeyWord cs) :
    ∀ c ∈ cs, Alphabet.ascii.admits c = true := by
  obtain ⟨first, rest, rfl, hstart, hrest⟩ := h
  have hkey {c : Char} (hc : isKeyChar c = true) : Alphabet.ascii.admits c = true := by
    rcases Bool.or_eq_true_iff.mp hc with halnum | hunderscore
    · exact (admits_of_isAlphanum halnum).1
    · rw [of_decide_eq_true hunderscore]
      decide
  refine List.forall_mem_cons.mpr ⟨hkey ?_, fun c hc => hkey (hrest c hc)⟩
  rcases Bool.or_eq_true_iff.mp hstart with halpha | hunderscore
  · rw [isKeyChar, Char.isAlphanum, halpha, Bool.true_or, Bool.true_or]
  · rw [isKeyChar, hunderscore, Bool.or_true]

/-- A key without quotes is printed, up to a newline. -/
theorem eq_newline_or_admits_of_isBareKey {name : String} (h : isBareKey name.toList = true) :
    ∀ c ∈ name.toList, c = '\n' ∨ Alphabet.ascii.admits c = true := by
  intro c hc
  rcases isBareKey_iff.mp h with hword | ⟨word, hword, heq⟩
  · exact .inr (admits_of_isKeyWord hword c hc)
  · rw [heq] at hc
    rcases List.mem_append.mp hc with hmem | hnewline
    · exact .inr (admits_of_isKeyWord hword c hmem)
    · exact .inl (List.mem_singleton.mp hnewline)

/-- A key breaks its line exactly when it stands without quotes and holds a newline. -/
theorem isOneLine_recordKey_iff (hends : EndsLines ends) {name : String} :
    IsOneLine ends (recordKey name) ↔ ¬ (isBareKey name.toList = true ∧ '\n' ∈ name.toList) := by
  unfold recordKey
  split <;> rename_i hbare
  · constructor
    · rintro hline ⟨-, hnewline⟩
      have hend := hends.newline
      rw [hline '\n' hnewline] at hend
      exact Bool.false_ne_true hend
    · intro hnone
      apply hends.isOneLine
      intro c hc
      rcases eq_newline_or_admits_of_isBareKey hbare c hc with rfl | hadmits
      · exact absurd ⟨hbare, hc⟩ hnone
      · exact isLineBreak_of_admits hadmits
  · refine iff_of_true (hends.isOneLine (isOneLine_quote _)) ?_
    rintro ⟨hkey, -⟩
    exact hbare hkey

/-! ## Comments -/

/-- A note stays on its line exactly when what it says does. -/
theorem forall_isOneLine_noteComment?_iff (hends : EndsLines ends) {label : String}
    (hlabel : IsOneLine ends label) (note : Option String) :
    (∀ c ∈ Parameter.noteComment? label note, IsOneLine ends c) ↔
      ∀ text ∈ note, IsOneLine ends text := by
  unfold Parameter.noteComment?
  split
  · simp
  · simpa using hends.isOneLine (by decide)
  · simp [hlabel, hends.isOneLine (by decide : IsOneLine isLineBreak ": ")]

/-- The comments on an input stay on their lines exactly when the notes on its parameters do. -/
theorem forall_isOneLine_inputComments_iff (hends : EndsLines ends) (settings : GeneratorSettings)
    (service : String) (input : Shape) :
    (∀ c ∈ (inputParameters settings service input).2, IsOneLine ends c) ↔
      ∀ p ∈ (inputParameters settings service input).1, ∀ note ∈ p.type.note,
        IsOneLine ends note := by
  unfold inputParameters
  split
  · rename_i members _ _
    have hlabels : ∀ p ∈ Parameter.ofMembers settings service members,
        (∀ c ∈ p.comment?, IsOneLine ends c) ↔ ∀ note ∈ p.type.note, IsOneLine ends note := by
      intro p hp
      exact forall_isOneLine_noteComment?_iff hends
        (hends.isOneLine (Parameter.hasOneLine_of_mem_ofMembersFrom hp).name) _
    simp only [List.mem_filterMap]
    constructor
    · intro hcomments p hp
      exact (hlabels p hp).mp fun c hc => hcomments c ⟨p, hp, hc⟩
    · rintro hnotes c ⟨p, hp, hc⟩
      exact (hlabels p hp).mpr (hnotes p hp) c hc
  · have hfixed : IsOneLine ends "input shape could not be resolved (" ∧
        IsOneLine ends "); accepting any arguments" :=
      ⟨hends.isOneLine (by decide), hends.isOneLine (by decide)⟩
    simp [Parameter.takingAll, hfixed, toString]

/-- The comment that an output comes in pages stays on its line. -/
theorem isOneLine_of_mem_pageComment? {p : Pagination} {c : String} (hc : c ∈ pageComment? p) :
    IsOneLine isLineBreak c := by
  unfold pageComment? at hc
  split at hc
  · rw [← Option.mem_some.mp hc]
    cases p.source.getD .explicit <;> decide
  · cases hc

/-- The comment on errors stays on its line exactly when their names do. -/
theorem forall_isOneLine_retryComment?_iff (hends : EndsLines ends) (names : List String)
    (errors : List ErrorDescriptor) :
    (∀ c ∈ retryComment? names errors, IsOneLine ends c) ↔
      ∀ name ∈ retryableErrors names errors, IsOneLine ends name := by
  unfold retryComment?
  split <;> rename_i hnames
  · simp [hnames]
  · simp only [Option.mem_some_iff, forall_eq', isOneLine_append]
    rw [isOneLine_intercalate_iff (hends.isOneLine (by decide))]
    exact and_iff_right (hends.isOneLine (by decide))

/-- The texts that comments quote are on one line. -/
structure QuotesOneLine (ends : Char → Bool) (errors : List ErrorDescriptor) (s : Signature) :
    Prop where
  /-- The notes on the types of parameters. -/
  parameters : ∀ p ∈ s.parameters, ∀ note ∈ p.type.note, IsOneLine ends note
  /-- The note on the type of the result. -/
  returnType : ∀ note ∈ s.returnType.note, IsOneLine ends note
  /-- The names of the errors for which a retry makes sense. -/
  errors : ∀ name ∈ retryableErrors s.errors errors, IsOneLine ends name

/-- Comments stay on their lines exactly when the notes on types and the names of errors do. -/
theorem forall_isOneLine_comments_iff (hends : EndsLines ends) :
    (∀ c ∈ (ofOperation settings service pagination errors o).comments, IsOneLine ends c) ↔
      QuotesOneLine ends errors (ofOperation settings service pagination errors o) := by
  have hreturn : IsOneLine ends
      ("returns " ++ (outputType settings pagination o).1.render) := by
    rw [isOneLine_append]
    exact ⟨hends.isOneLine (by decide), hends.isOneLine (HostType.isOneLine_render _)⟩
  have hpage : ∀ c ∈ pageComment? pagination, IsOneLine ends c :=
    fun c hc => hends.isOneLine (isOneLine_of_mem_pageComment? hc)
  simp only [ofOperation, List.forall_mem_append, Option.mem_toList]
  have hinput := forall_isOneLine_inputComments_iff hends settings service o.input
  have hresult := forall_isOneLine_noteComment?_iff hends hreturn
    (outputType settings pagination o).1.note
  have hretry := forall_isOneLine_retryComment?_iff hends o.errors errors
  constructor
  · rintro ⟨⟨⟨hinputs, hreturns⟩, -⟩, hretries⟩
    exact ⟨hinput.mp hinputs, hresult.mp hreturns, hretry.mp hretries⟩
  · rintro ⟨hnotes, hnote, hnames⟩
    exact ⟨⟨⟨hinput.mpr hnotes, hresult.mpr hnote⟩, hpage⟩, hretry.mpr hnames⟩

/-! ## Calls -/

/-- The call is one line exactly when its three words are, and the keys that it passes on. -/
theorem isOneLine_callLine_iff (hends : EndsLines ends) {s : Signature}
    (hnames : ∀ p ∈ s.parameters, p.HasOneLine) (dispatcher : String) :
    IsOneLine ends (callLine dispatcher s) ↔
      (IsOneLine ends dispatcher ∧ IsOneLine ends s.service ∧ IsOneLine ends s.modelName) ∧
        (s.parameters.any Parameter.rest = false →
          ∀ p ∈ s.parameters, IsOneLine ends (recordKey p.modelName)) := by
  have hspace : IsOneLine ends " " := hends.isOneLine (by decide)
  have hhead : IsOneLine ends
      ("    " ++ dispatcher ++ " " ++ s.service ++ " " ++ s.modelName) ↔
        IsOneLine ends dispatcher ∧ IsOneLine ends s.service ∧ IsOneLine ends s.modelName := by
    simp [hspace, hends.isOneLine (by decide : IsOneLine isLineBreak "    "), and_assoc]
  have hfields : (∀ p ∈ s.parameters, IsOneLine ends (callField p)) ↔
      ∀ p ∈ s.parameters, IsOneLine ends (recordKey p.modelName) := by
    apply forall₂_congr
    intro p hp
    simp only [callField, isOneLine_append]
    exact ⟨fun h => h.1.1, fun h => ⟨⟨h, hends.isOneLine (by decide)⟩,
      hends.isOneLine (isOneLine_variableOf (hnames p hp).name)⟩⟩
  simp only [callLine]
  split <;> rename_i hrest
  · rw [isOneLine_append, hhead, hrest]
    simp [hends.isOneLine (by decide : IsOneLine isLineBreak " ...$args")]
  · rw [isOneLine_append, isOneLine_append, isOneLine_append, hhead,
      isOneLine_intercalate_iff (hends.isOneLine (by decide)), List.forall_mem_map, hfields]
    simp [hrest, hends.isOneLine (by decide : IsOneLine isLineBreak " \x7b"),
      hends.isOneLine (by decide : IsOneLine isLineBreak "\x7d")]

/-! ## Definitions -/

/-- The number of lines that the structure of a definition calls for: what is said before it, the
line that opens it, one for each parameter, and the three lines that close it. -/
def lineCount (s : Signature) : Nat :=
  (if s.documentation = "" then 0 else 1) + (if s.deprecated then 1 else 0) + s.comments.length
    + 1 + s.parameters.length + 3

/-- There is one line for each thing that a definition says. -/
theorem length_lines (dispatcher : String) (s : Signature) :
    (s.lines dispatcher).length = s.lineCount := by
  simp only [lines, lineCount, List.length_append, List.length_map, List.length_singleton]
  split <;> split <;> rfl

/-- What a definition copies as it is stays on one line. -/
structure CopiesOneLine (ends : Char → Bool) (dispatcher : String)
    (errors : List ErrorDescriptor) (s : Signature) : Prop where
  /-- The command that the body calls. -/
  dispatcher : IsOneLine ends dispatcher
  /-- The name of the service. -/
  service : IsOneLine ends s.service
  /-- The name of the operation in the model. -/
  modelName : IsOneLine ends s.modelName
  /-- The keys without quotes. -/
  keys : ∀ p ∈ s.parameters, ¬ (isBareKey p.modelName.toList = true ∧ '\n' ∈ p.modelName.toList)
  /-- What the comments quote. -/
  comments : QuotesOneLine ends errors s

/-- A parameter that takes all arguments stands alone, and for no member. -/
theorem modelName_of_mem_parameters
    (hrest : (ofOperation settings service pagination errors o).parameters.any Parameter.rest = true)
    {p : Parameter} (hp : p ∈ (ofOperation settings service pagination errors o).parameters) :
    p.modelName = "" := by
  simp only [ofOperation, inputParameters] at hrest hp
  split at hp
  · rename_i members _ _ hinput
    rw [hinput] at hrest
    obtain ⟨q, hq, hqrest⟩ := List.any_eq_true.mp hrest
    obtain ⟨m, -, hstands⟩ := exists_mem_of_forall₂ (Parameter.forall₂_ofMembers members) hq
    rw [hstands.rest_eq] at hqrest
    exact absurd hqrest Bool.false_ne_true
  · rw [List.mem_singleton.mp hp]
    rfl

/-- Only comments and the call can take more than their lines. -/
theorem forall_isOneLine_lines_iff (hends : EndsLines ends) {s : Signature}
    (hdocumentation : IsOneLine isLineBreak s.documentation)
    (hparameters : ∀ p ∈ s.parameters, p.HasOneLine) (dispatcher : String) :
    (∀ l ∈ s.lines dispatcher, IsOneLine ends l) ↔
      (∀ c ∈ s.comments, IsOneLine ends c) ∧ IsOneLine ends (callLine dispatcher s) := by
  have hsummary : ∀ l ∈ (if s.documentation = "" then [] else ["# " ++ s.documentation]),
      IsOneLine ends l := by
    split
    · exact fun _ hl => absurd hl List.not_mem_nil
    · rw [List.forall_mem_singleton, isOneLine_append]
      exact ⟨hends.isOneLine (by decide), hends.isOneLine hdocumentation⟩
  have hdeprecation : ∀ l ∈ (if s.deprecated then
      ["# " ++ deprecationText s.deprecationMessage] else []), IsOneLine ends l := by
    split
    · rw [List.forall_mem_singleton, isOneLine_append]
      exact ⟨hends.isOneLine (by decide), hends.isOneLine (isOneLine_deprecationText _)⟩
    · exact fun _ hl => absurd hl List.not_mem_nil
  have hopening : IsOneLine ends ("export def " ++ quote s.command ++ " [") := by
    simp only [isOneLine_append]
    exact ⟨⟨hends.isOneLine (by decide), hends.isOneLine (isOneLine_quote _)⟩,
      hends.isOneLine (by decide)⟩
  have hlines : ∀ p ∈ s.parameters, IsOneLine ends (parameterLine (firstWord s.command) p) :=
    fun p hp => hends.isOneLine (isOneLine_parameterLine (hparameters p hp) _)
  have hresult : IsOneLine ends ("]: nothing -> " ++ s.returnType.render ++ " \x7b") := by
    simp only [isOneLine_append]
    exact ⟨⟨hends.isOneLine (by decide), hends.isOneLine (HostType.isOneLine_render _)⟩,
      hends.isOneLine (by decide)⟩
  have hclosing : IsOneLine ends "\x7d" := hends.isOneLine (by decide)
  have hcomments : (∀ l ∈ s.comments.map ("# NOTE: " ++ ·), IsOneLine ends l) ↔
      ∀ c ∈ s.comments, IsOneLine ends c := by
    simp only [List.forall_mem_map, isOneLine_append, hends.isOneLine
      (by decide : IsOneLine isLineBreak "# NOTE: "), true_and]
  simp only [lines, List.forall_mem_append, List.forall_mem_singleton]
  rw [hcomments, List.forall_mem_map]
  constructor
  · rintro ⟨⟨⟨⟨⟨⟨-, hnotes⟩, -⟩, -⟩, -⟩, hcall⟩, -⟩
    exact ⟨hnotes, hcall⟩
  · rintro ⟨hnotes, hcall⟩
    exact ⟨⟨⟨⟨⟨⟨⟨hsummary, hdeprecation⟩, hnotes⟩, hopening⟩, hlines⟩, hresult⟩, hcall⟩, hclosing⟩

/-- The call of an operation stays on its line exactly when its words and its keys do. -/
theorem isOneLine_callLine_ofOperation_iff (hends : EndsLines ends) (dispatcher : String) :
    IsOneLine ends (callLine dispatcher (ofOperation settings service pagination errors o)) ↔
      (IsOneLine ends dispatcher ∧
        IsOneLine ends (ofOperation settings service pagination errors o).service ∧
          IsOneLine ends (ofOperation settings service pagination errors o).modelName) ∧
        ∀ p ∈ (ofOperation settings service pagination errors o).parameters,
          IsOneLine ends (recordKey p.modelName) := by
  rw [isOneLine_callLine_iff hends fun p hp => hasOneLine_of_mem_parameters hp]
  apply and_congr_right
  intro _
  constructor
  · intro hkeys p hp
    cases hrest : (ofOperation settings service pagination errors o).parameters.any
        Parameter.rest with
    | false => exact hkeys hrest p hp
    | true =>
        rw [modelName_of_mem_parameters hrest hp]
        exact hends.isOneLine (by decide)
  · exact fun hkeys _ => hkeys

/-! ## Main result -/

/-- The definition of the command for an operation calls for so many lines as it says things, and
it has exactly these lines, however lines are ended, when what it copies as it is has the end of a
line nowhere: the command that it calls, the names of the service and of the operation, the keys
without quotes, and what the comments quote.  Documentation, messages on deprecation, choices and
names on the command line can hold what they like. -/
theorem linesBy_render_eq_lines_iff (hends : EndsLines ends) (settings : GeneratorSettings)
    (service : String) (pagination : Pagination) (errors : List ErrorDescriptor) (o : Operation)
    (dispatcher : String) :
    ((ofOperation settings service pagination errors o).lines dispatcher).length =
        (ofOperation settings service pagination errors o).lineCount ∧
      (linesBy ends ((ofOperation settings service pagination errors o).render dispatcher) =
          (ofOperation settings service pagination errors o).lines dispatcher ↔
        CopiesOneLine ends dispatcher errors
          (ofOperation settings service pagination errors o)) := by
  refine ⟨length_lines _ _, ?_⟩
  have hne : (ofOperation settings service pagination errors o).lines dispatcher ≠ [] := by
    obtain ⟨above, hlines⟩ := lines_eq_concat dispatcher
      (ofOperation settings service pagination errors o)
    rw [hlines]
    exact List.append_ne_nil_of_right_ne_nil _ (List.cons_ne_nil _ _)
  have hdocumentation : IsOneLine isLineBreak
      (ofOperation settings service pagination errors o).documentation := isOneLine_summary _ _
  rw [render, linesBy_intercalate_eq_iff hends.newline hne,
    forall_isOneLine_lines_iff hends hdocumentation
      (fun p hp => hasOneLine_of_mem_parameters hp) dispatcher,
    forall_isOneLine_comments_iff hends, isOneLine_callLine_ofOperation_iff hends]
  simp only [isOneLine_recordKey_iff hends]
  constructor
  · rintro ⟨hcomments, ⟨hdispatcher, hservice, hmodelName⟩, hkeys⟩
    exact ⟨hdispatcher, hservice, hmodelName, hkeys, hcomments⟩
  · rintro ⟨hdispatcher, hservice, hmodelName, hkeys, hcomments⟩
    exact ⟨hcomments, ⟨hdispatcher, hservice, hmodelName⟩, hkeys⟩

/-- An operation whose input has one member, with a name. -/
def labelOperation (name : String) : Operation where
  name := "label"
  modelName := "Label"
  input := .record {} [⟨{ name }, .scalar {} "string"⟩] false false

/-- A member whose name is two lines is quoted, and no reader sees more lines than the definition
calls for.  A member whose name is a line with its end is not quoted, and whoever knows newlines
sees other lines. -/
theorem labelOperation_lines :
    linesBy isLineBreak ((ofOperation {} "s" {} [] (labelOperation "A\nB")).render "call") =
        (ofOperation {} "s" {} [] (labelOperation "A\nB")).lines "call" ∧
      linesBy (· = '\n') ((ofOperation {} "s" {} [] (labelOperation "A\n")).render "call") ≠
        (ofOperation {} "s" {} [] (labelOperation "A\n")).lines "call" := by
  constructor
  · refine (linesBy_render_eq_lines_iff endsLines_isLineBreak {} "s" {} [] _ "call").2.mpr ?_
    exact ⟨by decide, by decide, by decide, by decide +kernel,
      ⟨by decide +kernel, by decide +kernel, by decide +kernel⟩⟩
  · intro hlines
    have hcopies :=
      (linesBy_render_eq_lines_iff endsLines_newline {} "s" {} [] _ "call").2.mp hlines
    have hkeys : ¬ ∀ p ∈ (ofOperation {} "s" {} [] (labelOperation "A\n")).parameters,
        ¬ (isBareKey p.modelName.toList = true ∧ '\n' ∈ p.modelName.toList) := by
      decide +kernel
    exact hkeys hcopies.keys

end Signature

end ServiceShell
