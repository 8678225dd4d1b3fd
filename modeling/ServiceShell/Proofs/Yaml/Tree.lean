import ServiceShell.Proofs.Yaml.Scanning
import ServiceShell.Yaml.Node

/-!
# What can be wrong with the tree of a YAML text

Putting tokens together to a tree fails where the text is no YAML, or where the tokens end with a
refusal of their own.

Main results:

- Definition `Yaml.Parser.Keeps`: a part of the tree is refused in certain ways only.
- Theorem `Yaml.Parser.allKeep`: all parts of a tree are.
- Theorem `Yaml.isOfSplitting_of_ofText`: the tree of a text is refused for what is in the text.
-/

namespace ServiceShell.Yaml

namespace Parser

variable {α β : Type} {P : Refusal → Prop}

/-! ## Steps -/

/-- Whether a part of a tree is refused in certain ways only, if the tokens end with one of them. -/
def Keeps (P : Refusal → Prop) (p : Parser α) : Prop :=
  ∀ s : Parse, P s.trouble → Gives (fun a => P a.2.trouble) P (p.run s)

theorem keeps_pure (a : α) : Keeps P (pure a : Parser α) := fun _ hs => hs

theorem Keeps.bind {p : Parser α} {next : α → Parser β} (h : Keeps P p)
    (hnext : ∀ a, Keeps P (next a)) : Keeps P (p >>= next) :=
  fun s hs => Gives.bind (h s hs) fun a ha => hnext a.1 a.2 ha

theorem Keeps.map {p : Parser α} (h : Keeps P p) (f : α → β) : Keeps P (f <$> p) :=
  fun s hs => Gives.bind (h s hs) fun _ ha => ha

theorem keeps_get : Keeps P (get : Parser Parse) := fun _ hs => hs

theorem keeps_modify {f : Parse → Parse} (hf : ∀ s, (f s).trouble = s.trouble) :
    Keeps P (modify f : Parser Unit) := by
  intro s hs
  change P (f s).trouble
  rwa [hf]

theorem keeps_take : Keeps P take := keeps_modify fun _ => rfl

theorem keeps_peek : Keeps P peek := by
  rintro ⟨tokens, trouble, handles, anchors⟩ hs
  cases tokens with
  | nil => exact hs
  | cons token rest => exact hs

/-! ## Properties of nodes -/

theorem keeps_anchor? : Keeps P anchor? := by
  refine keeps_peek.bind fun token => ?_
  split
  · exact keeps_take.bind fun _ => keeps_pure _
  · exact keeps_pure _

theorem keeps_tag? : Keeps P tag? := by
  refine keeps_peek.bind fun token => ?_
  split
  · exact keeps_take.bind fun _ => keeps_pure _
  · exact keeps_pure _

theorem keeps_properties : Keeps P properties := by
  refine keeps_anchor?.bind fun anchor => ?_
  split
  · exact keeps_tag?.bind fun _ => keeps_pure _
  · refine keeps_tag?.bind fun tag => ?_
    split
    · exact keeps_anchor?.bind fun _ => keeps_pure _
    · exact keeps_pure _

theorem keeps_define (anchor : Option String) (n : Node) : Keeps P (define anchor n) := by
  unfold define
  split
  · exact keeps_modify fun _ => rfl
  · exact keeps_pure _

/-- A collection is named before its parts are read. -/
theorem keeps_collection {p : Parser α} (h : Keeps P p) (anchor : Option String) (start : Node)
    (whole : α → Node) : Keeps P (do
      define anchor start
      return whole (← p)) :=
  (keeps_define anchor start).bind fun _ => h.bind fun _ => keeps_pure _

section

variable (hP : ∀ reason, P (.malformed reason))

include hP

theorem keeps_refuse (reason : String) : Keeps P (refuse reason : Parser α) := fun _ _ => hP reason

theorem keeps_tagName (tag : RawTag) : Keeps P (tagName tag) := by
  unfold tagName
  split
  · exact keeps_pure _
  · refine keeps_get.bind fun s => ?_
    split
    · exact keeps_pure _
    · exact keeps_refuse hP _

theorem keeps_explicitTag (p : Properties) : Keeps P (explicitTag p) := by
  unfold explicitTag
  split
  · exact (keeps_tagName hP _).map some
  · exact keeps_pure _

theorem keeps_checkNew (anchor : Option String) : Keeps P (checkNew anchor) := by
  unfold checkNew
  split
  · refine keeps_get.bind fun s => ?_
    split
    · exact keeps_refuse hP _
    · exact keeps_pure _
  · exact keeps_pure _

theorem keeps_resolve (name : String) : Keeps P (resolve name) := by
  refine keeps_get.bind fun s => ?_
  split
  · exact keeps_pure _
  · exact keeps_refuse hP _

/-! ## Trees -/

omit hP in
/-- What all parts of a tree have in common, with some fuel. -/
structure AllKeep (P : Refusal → Prop) (fuel : Nat) : Prop where
  node : ∀ place, Keeps P (node place fuel)
  nodeOrEmpty : ∀ place ends, Keeps P (nodeOrEmpty place ends fuel)
  blockItems : Keeps P (blockItems fuel)
  bareItems : Keeps P (bareItems fuel)
  valueOrEmpty : ∀ place ends, Keeps P (valueOrEmpty place ends fuel)
  blockEntries : Keeps P (blockEntries fuel)
  flowItems : ∀ isFirst, Keeps P (flowItems fuel isFirst)
  flowEntries : ∀ isFirst, Keeps P (flowEntries fuel isFirst)

theorem AllKeep.node_succ {fuel : Nat} (h : AllKeep P fuel) (place : Place) :
    Keeps P (Parser.node place (fuel + 1)) := by
  rw [Parser.node]
  refine keeps_peek.bind fun token => ?_
  split
  · exact keeps_take.bind fun _ => keeps_resolve hP _
  · refine keeps_properties.bind fun p => ?_
    refine (keeps_explicitTag hP p).bind fun tag => ?_
    refine (keeps_checkNew hP _).bind fun _ => ?_
    have hend : ∀ n, Keeps P (define p.anchor n >>= fun _ => pure n) := fun n =>
      (keeps_define _ _).bind fun _ => keeps_pure n
    refine keeps_peek.bind fun next => ?_
    dsimp only
    split
    · exact (keeps_collection h.bareItems _ _ _).bind hend
    · exact keeps_take.bind fun _ => (keeps_pure _).bind hend
    · exact keeps_take.bind fun _ => (keeps_collection (h.flowItems true) _ _ _).bind hend
    · exact keeps_take.bind fun _ => (keeps_collection (h.flowEntries true) _ _ _).bind hend
    · exact keeps_take.bind fun _ => (keeps_collection h.blockItems _ _ _).bind hend
    · exact keeps_take.bind fun _ => (keeps_collection h.blockItems _ _ _).bind hend
    · exact keeps_take.bind fun _ => (keeps_collection h.blockEntries _ _ _).bind hend
    · exact keeps_take.bind fun _ => (keeps_collection h.blockEntries _ _ _).bind hend
    · split
      · exact (keeps_pure _).bind hend
      · exact (keeps_refuse hP _).bind hend

omit hP in
theorem AllKeep.nodeOrEmpty_succ {fuel : Nat} (h : AllKeep P fuel) (place : Place)
    (ends : List Token) : Keeps P (Parser.nodeOrEmpty place ends (fuel + 1)) := by
  rw [Parser.nodeOrEmpty]
  refine keeps_peek.bind fun token => ?_
  split
  · exact keeps_pure _
  · exact h.node place

omit hP in
theorem AllKeep.valueOrEmpty_succ {fuel : Nat} (h : AllKeep P fuel) (place : Place)
    (ends : List Token) : Keeps P (Parser.valueOrEmpty place ends (fuel + 1)) := by
  rw [Parser.valueOrEmpty]
  refine keeps_peek.bind fun token => ?_
  split
  · exact keeps_take.bind fun _ => h.nodeOrEmpty _ _
  · exact keeps_pure _

theorem AllKeep.blockItems_succ {fuel : Nat} (h : AllKeep P fuel) :
    Keeps P (Parser.blockItems (fuel + 1)) := by
  rw [Parser.blockItems]
  refine keeps_peek.bind fun token => ?_
  split
  · exact keeps_take.bind fun _ => (h.nodeOrEmpty _ _).bind fun item =>
      h.blockItems.bind fun _ => keeps_pure _
  · exact keeps_take.bind fun _ => keeps_pure _
  · exact keeps_refuse hP _

omit hP in
theorem AllKeep.bareItems_succ {fuel : Nat} (h : AllKeep P fuel) :
    Keeps P (Parser.bareItems (fuel + 1)) := by
  rw [Parser.bareItems]
  refine keeps_peek.bind fun token => ?_
  split
  · exact keeps_take.bind fun _ => (h.nodeOrEmpty _ _).bind fun item =>
      h.bareItems.bind fun _ => keeps_pure _
  · exact keeps_pure _

theorem AllKeep.blockEntries_succ {fuel : Nat} (h : AllKeep P fuel) :
    Keeps P (Parser.blockEntries (fuel + 1)) := by
  rw [Parser.blockEntries]
  refine keeps_peek.bind fun token => ?_
  split
  · exact keeps_take.bind fun _ => (h.nodeOrEmpty _ _).bind fun key =>
      (h.valueOrEmpty _ _).bind fun value => h.blockEntries.bind fun _ => keeps_pure _
  · exact keeps_take.bind fun _ => keeps_pure _
  · exact keeps_refuse hP _

/-- What stands behind a separator, unless it is the first. -/
theorem keeps_afterSeparator (isFirst : Bool) (reason : String) {item : Parser α}
    (h : Keeps P item) :
    Keeps P (do
      unless isFirst do
        if (← peek) = .flowEntry then take else refuse reason
      item) := by
  split
  · exact h
  · refine keeps_peek.bind fun next => ?_
    split
    · exact keeps_take.bind fun _ => h
    · exact (keeps_refuse hP _).bind fun _ => h

theorem AllKeep.flowItems_succ {fuel : Nat} (h : AllKeep P fuel) (isFirst : Bool) :
    Keeps P (Parser.flowItems (fuel + 1) isFirst) := by
  rw [Parser.flowItems]
  refine keeps_peek.bind fun first => ?_
  split
  · exact keeps_take.bind fun _ => keeps_pure _
  · refine keeps_afterSeparator hP isFirst _ (keeps_peek.bind fun token => ?_)
    split
    · exact keeps_take.bind fun _ => keeps_pure _
    · exact keeps_take.bind fun _ => (h.nodeOrEmpty _ _).bind fun key =>
        (h.valueOrEmpty _ _).bind fun value => (h.flowItems false).bind fun _ => keeps_pure _
    · exact (h.node _).bind fun item => (h.flowItems false).bind fun _ => keeps_pure _

theorem AllKeep.flowEntries_succ {fuel : Nat} (h : AllKeep P fuel) (isFirst : Bool) :
    Keeps P (Parser.flowEntries (fuel + 1) isFirst) := by
  rw [Parser.flowEntries]
  refine keeps_peek.bind fun first => ?_
  split
  · exact keeps_take.bind fun _ => keeps_pure _
  · refine keeps_afterSeparator hP isFirst _ (keeps_peek.bind fun token => ?_)
    split
    · exact keeps_take.bind fun _ => keeps_pure _
    · exact keeps_take.bind fun _ => (h.nodeOrEmpty _ _).bind fun key =>
        (h.valueOrEmpty _ _).bind fun value => (h.flowEntries false).bind fun _ => keeps_pure _
    · exact (h.node _).bind fun key => (h.flowEntries false).bind fun _ => keeps_pure _

/-- All parts of a tree are refused in certain ways only. -/
theorem allKeep (fuel : Nat) : AllKeep P fuel := by
  induction fuel with
  | zero =>
      constructor <;> intros <;>
        simp only [Parser.node, Parser.nodeOrEmpty, Parser.blockItems, Parser.bareItems,
          Parser.valueOrEmpty, Parser.blockEntries, Parser.flowItems, Parser.flowEntries] <;>
        exact keeps_refuse hP _
  | succ fuel ih =>
      exact ⟨ih.node_succ hP, ih.nodeOrEmpty_succ, ih.blockItems_succ hP, ih.bareItems_succ,
        ih.valueOrEmpty_succ, ih.blockEntries_succ hP, ih.flowItems_succ hP, ih.flowEntries_succ hP⟩

/-! ## Documents -/

theorem keeps_directives (fuel : Nat) (hasVersion : Bool) (handles : List (String × String)) :
    Keeps P (directives fuel hasVersion handles) := by
  induction fuel generalizing hasVersion handles with
  | zero => exact keeps_refuse hP _
  | succ fuel ih =>
      rw [directives]
      refine keeps_peek.bind fun token => ?_
      split
      · refine keeps_take.bind fun _ => ?_
        split
        · exact keeps_refuse hP _
        · split
          · exact keeps_refuse hP _
          · exact ih _ _
      · refine keeps_take.bind fun _ => ?_
        split
        · exact keeps_refuse hP _
        · exact ih _ _
      · exact keeps_take.bind fun _ => ih _ _
      · exact keeps_pure _

omit hP in
theorem keeps_skipEnds (fuel : Nat) : Keeps P (skipEnds fuel) := by
  induction fuel with
  | zero => exact keeps_pure _
  | succ fuel ih =>
      rw [skipEnds]
      refine keeps_peek.bind fun token => ?_
      split
      · exact keeps_take.bind fun _ => ih
      · exact keeps_pure _

theorem keeps_explicitDocument (fuel : Nat) : Keeps P (explicitDocument fuel) := by
  refine (keeps_directives hP _ _ _).bind fun handles => ?_
  refine Keeps.bind (keeps_modify ?_) fun _ => ?_
  · exact fun _ => rfl
  refine keeps_peek.bind fun token => ?_
  split
  · refine keeps_take.bind fun _ => keeps_peek.bind fun next => ?_
    split
    · exact keeps_pure _
    · exact keeps_pure _
    · exact keeps_pure _
    · exact keeps_pure _
    · exact (allKeep hP fuel).node _
  · exact keeps_refuse hP _

/-- A whole document is refused in these ways only. -/
theorem keeps_single (fuel : Nat) : Keeps P (single fuel) := by
  refine keeps_peek.bind fun token => ?_
  dsimp only
  split
  case h_1 => exact keeps_pure _
  case' h_2 => refine (keeps_explicitDocument hP fuel).bind fun document => ?_
  case' h_3 => refine (keeps_explicitDocument hP fuel).bind fun document => ?_
  case' h_4 => refine ((allKeep hP fuel).node _).bind fun document => ?_
  -- However the document is read, the text ends behind it.
  all_goals
    refine (keeps_skipEnds fuel).bind fun _ => keeps_peek.bind fun token => ?_
    split
    · exact keeps_pure _
    · exact keeps_refuse hP _

end

end Parser

/-- The tree of a text is refused only for what is in the text. -/
theorem isOfSplitting_of_ofText {text : String} {r : Refusal}
    (h : Node.ofText text = .error r) : IsOfSplitting text.toList r := by
  have hmalformed := isOfSplitting_malformed text.toList
  have htrouble : IsOfSplitting text.toList
      ((tokens text).2.getD (.malformed "found the end of the text")) := by
    cases hend : (tokens text).2 with
    | none => exact hmalformed _
    | some r => exact isOfSplitting_of_tokens hend
  have hgives : Gives (fun _ => True) (IsOfSplitting text.toList) (Node.ofText text) := by
    unfold Node.ofText
    refine Gives.map (Gives.mono (Parser.keeps_single hmalformed _ _ ?_) fun _ _ => trivial)
    exact htrouble
  rwa [h] at hgives

end ServiceShell.Yaml
