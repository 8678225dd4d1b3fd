import ServiceShell.Proofs.Yaml.Tree
import ServiceShell.Yaml.Value

/-!
# What can be wrong with the value of a YAML text

The value of a text is refused where the text is no YAML, or where one of its scalars cannot be read
as what its tag says.  Only truth values, integers, doubles and times can be refused in this way:
their form lets more through than there are values.

Main results:

- Definition `Yaml.Node.HoldsScalar`: the scalars that a tree holds.
- Theorem `Yaml.holds_build`: the value of a tree is refused for one of its scalars.
- Theorem `Yaml.tag_of_scalarValue`: the scalars that can be refused although the text is YAML.
- Theorem `Yaml.refusal_of_parse`: why a text gives no document.
-/

namespace ServiceShell.Yaml

/-! ## Scalars -/

/-- Whether a tree holds a scalar with a tag and a text, or a mapping that stands for one. -/
inductive Node.HoldsScalar (tag : Tag) (text : String) : Node → Prop where
  /-- The node itself is the scalar. -/
  | scalar : HoldsScalar tag text (.scalar tag text)
  /-- The node is a mapping with the sign for a value. -/
  | standsFor {entries : List (Node × Node)} (h : entriesText? entries = some text) :
    HoldsScalar tag text (.mapping tag entries)
  /-- An item holds it. -/
  | item {t : Tag} {items : List Node} {n : Node} (hn : n ∈ items) (h : HoldsScalar tag text n) :
    HoldsScalar tag text (.sequence t items)
  /-- A key holds it. -/
  | key {t : Tag} {entries : List (Node × Node)} {e : Node × Node} (he : e ∈ entries)
    (h : HoldsScalar tag text e.1) : HoldsScalar tag text (.mapping t entries)
  /-- The value of a key holds it. -/
  | value {t : Tag} {entries : List (Node × Node)} {e : Node × Node} (he : e ∈ entries)
    (h : HoldsScalar tag text e.2) : HoldsScalar tag text (.mapping t entries)

/-- Padding and stray characters are all that can be wrong with bytes. -/
theorem gives_base64 (left : List Nat) (pads : Nat) (cs : List Char) :
    Gives (fun _ => True) (fun r => ∃ reason, r = .malformed reason) (base64 left pads cs) := by
  fun_induction base64 left pads cs
  case case1 | case3 => trivial
  case case2 => exact ⟨_, rfl⟩
  case case4 ih | case5 ih | case6 ih => exact ih
  case case7 ih | case8 ih | case9 ih => exact Gives.map (ih.mono fun _ _ => trivial)

/-- The scalars that can be refused although the text is YAML. -/
theorem tag_of_scalarValue {tag : Tag} {text : String} {r : Refusal}
    (h : scalarValue tag text = .error r) (hform : ∀ reason, r ≠ .malformed reason) :
    tag ∈ [.bool, .int, .float, .timestamp] := by
  have hnot : ∀ reason, (.error (.malformed reason) : Except Refusal Scalar) ≠ .error r := by
    rintro reason ⟨⟩
    exact hform reason rfl
  cases tag with
  | bool | int | float | timestamp => simp
  | null | text => cases h
  | binary =>
      have hbytes := gives_base64 [] 0 text.toList
      simp only [scalarValue, bytes] at h
      split at h
      · cases hread : base64 [] 0 text.toList with
        | ok bytes =>
            rw [hread] at h
            cases h
        | error refusal =>
            rw [hread] at h hbytes
            obtain ⟨reason, rfl⟩ := hbytes
            exact absurd h (hnot reason)
      · exact absurd h (hnot _)
  | orderedMap | pairs | set | sequence | mapping | merge | value | enclosing | other =>
      exact absurd h (hnot _)

/-! ## Outcomes -/

section

variable {P : Refusal → Prop}

/-- Whether work is refused in certain ways only, if at all. -/
def Only (P : Refusal → Prop) {α : Type} : Except Fault α → Prop
  | .ok _ => True
  | .error f => P f.refusal

theorem Only.map {α β : Type} {x : Except Fault α} (h : Only P x) (f : α → β) :
    Only P (x.map f) := by
  cases x with
  | ok a => trivial
  | error f => exact h

theorem Only.deeper {α : Type} {x : Except Fault α} (h : Only P x) :
    Only P (x.mapError Fault.deeper) := by
  cases x with
  | ok a => trivial
  | error f => exact h

/-- Of some outcomes one tells the problem. -/
theorem only_gatherValues {values : List Outcome} (h : ∀ o ∈ values, Only P o) :
    Only P (gatherValues values) := by
  fun_induction gatherValues values with
  | case1 => trivial
  | case2 d rest ih => exact (ih (List.forall_mem_cons.mp h).2).map _
  | case3 rest f _ _ ih => exact (List.forall_mem_cons.mp h).1
  | case4 rest f g heq ih =>
      have hrest := ih (List.forall_mem_cons.mp h).2
      rw [heq] at hrest
      change P (ite _ _ _ : Fault).refusal
      split
      · exact hrest
      · exact (List.forall_mem_cons.mp h).1

theorem only_listValue {values : List Outcome} (h : ∀ o ∈ values, Only P o) :
    Only P (listValue values) := (only_gatherValues h).deeper.map _

/-! ## Nodes with their values -/

/-- Whether a node and all nodes in it are refused in certain ways only. -/
inductive Built.Holds (P : Refusal → Prop) : Built → Prop where
  | scalar {tag : Tag} {value : Outcome} (hvalue : Only P value) : Holds P (.scalar tag value)
  | sequence {value : Outcome} {items : List Built} (hvalue : Only P value)
    (hitems : ∀ b ∈ items, Holds P b) : Holds P (.sequence value items)
  | mapping {value : Outcome} {entries : Except Refusal (List (Built × Built))}
    (hvalue : Only P value) (herror : ∀ r, entries = .error r → P r)
    (hkeys : ∀ es, entries = .ok es → ∀ e ∈ es, Holds P e.1)
    (hvalues : ∀ es, entries = .ok es → ∀ e ∈ es, Holds P e.2) : Holds P (.mapping value entries)

/-- Whether the keys and the values of entries are refused in certain ways only. -/
def EntriesHold (P : Refusal → Prop) (entries : List (Built × Built)) : Prop :=
  ∀ e ∈ entries, e.1.Holds P ∧ e.2.Holds P

theorem EntriesHold.append {first second : List (Built × Built)} (h : EntriesHold P first)
    (h' : EntriesHold P second) : EntriesHold P (first ++ second) := by
  intro e he
  rcases List.mem_append.mp he with he | he
  · exact h e he
  · exact h' e he

theorem Built.Holds.value {b : Built} (h : b.Holds P) : Only P b.value := by
  cases h with
  | scalar hvalue => exact hvalue
  | sequence hvalue => exact hvalue
  | mapping hvalue => exact hvalue

theorem Built.Holds.entries {value : Outcome} {entries : Except Refusal (List (Built × Built))}
    (h : (Built.mapping value entries).Holds P) : Gives (EntriesHold P) P entries := by
  cases h with
  | mapping _ herror hkeys hvalues =>
      cases entries with
      | ok es => exact fun e he => ⟨hkeys es rfl e he, hvalues es rfl e he⟩
      | error r => exact herror r rfl

theorem Built.Holds.mapping_of_gives {value : Outcome}
    {entries : Except Refusal (List (Built × Built))} (hvalue : Only P value)
    (h : Gives (EntriesHold P) P entries) : (Built.mapping value entries).Holds P := by
  refine .mapping hvalue ?_ ?_ ?_
  · rintro r rfl
    exact h
  · rintro es rfl e he
    exact (h e he).1
  · rintro es rfl e he
    exact (h e he).2

variable (hP : ∀ reason, P (.malformed reason))

include hP

/-! ## Merging -/

theorem gives_mergedList {items : List Built} (h : ∀ b ∈ items, b.Holds P) :
    Gives (EntriesHold P) P (mergedList items) := by
  fun_induction mergedList items with
  | case1 => exact nofun
  | case2 value entries rest ih =>
      obtain ⟨hfirst, hrest⟩ := List.forall_mem_cons.mp h
      exact hfirst.entries.bind fun first hentries =>
        (ih hrest).bind fun others hothers => hothers.append hentries
  | case3 => exact hP _

theorem Built.Holds.merged {b : Built} (h : b.Holds P) : Gives (EntriesHold P) P b.merged := by
  cases h with
  | scalar => exact hP _
  | sequence _ hitems => exact gives_mergedList hP hitems
  | mapping hvalue herror hkeys hvalues =>
      exact (Built.Holds.mapping hvalue herror hkeys hvalues).entries

theorem gives_mergeEntries {entries : List (Built × Built)} (h : EntriesHold P entries) :
    Gives (fun p => EntriesHold P p.1 ∧ EntriesHold P p.2) P (mergeEntries entries) := by
  induction entries with
  | nil => exact ⟨nofun, nofun⟩
  | cons e rest ih =>
      obtain ⟨⟨hkey, hvalue⟩, hrest⟩ := List.forall_mem_cons.mp h
      rw [mergeEntries]
      split
      · exact (hvalue.merged hP).bind fun first hfirst =>
          (ih hrest).bind fun p hp => ⟨hfirst.append hp.1, hp.2⟩
      · exact (ih hrest).bind fun p hp =>
          ⟨hp.1, List.forall_mem_cons.mpr ⟨⟨hkey, hvalue⟩, hp.2⟩⟩

/-! ## Collections -/

theorem Built.Holds.asKey {b : Built} (h : b.Holds P) : Only P b.asKey := by
  have hvalue := h.value
  unfold Built.asKey
  split
  · trivial
  · exact hvalue
  · split <;> rename_i heq
    · exact hP _
    · rw [heq] at hvalue
      change P (ite _ _ _ : Fault).refusal
      split
      · exact hvalue
      · exact hP _

theorem only_gatherFields {entries : List (Built × Built)} (h : EntriesHold P entries) :
    Only P (gatherFields entries) := by
  have hall : ∀ o ∈ entries.flatMap fun e => [e.1.asKey, e.2.value], Only P o := by
    intro o ho
    obtain ⟨e, he, ho⟩ := List.mem_flatMap.mp ho
    simp only [List.mem_cons, List.not_mem_nil, or_false] at ho
    rcases ho with rfl | rfl
    · exact (h e he).1.asKey hP
    · exact (h e he).2.value
  have hvalues := only_gatherValues hall
  unfold gatherFields
  cases hgather : gatherValues _ with
  | ok values => trivial
  | error f =>
      rw [hgather] at hvalues
      exact hvalues

theorem Built.Holds.pairValue {b : Built} (h : b.Holds P) : Only P (pairValue b) := by
  unfold Yaml.pairValue
  split
  · have hentry := h.entries _ List.mem_cons_self
    refine (only_gatherValues ?_).map _
    exact List.forall_mem_cons.mpr ⟨hentry.1.value, List.forall_mem_singleton.mpr hentry.2.value⟩
  · exact hP _

theorem only_sequenceValue (tag : Tag) {items : List Built} (h : ∀ b ∈ items, b.Holds P) :
    Only P (sequenceValue tag items) := by
  unfold sequenceValue
  split
  · exact only_listValue (List.forall_mem_map.mpr fun b hb => (h b hb).value)
  · exact only_listValue (List.forall_mem_map.mpr fun b hb => (h b hb).pairValue hP)
  · exact only_listValue (List.forall_mem_map.mpr fun b hb => (h b hb).pairValue hP)
  · trivial
  all_goals exact hP _

theorem only_mappingValue (tag : Tag) {text : Option String}
    (htext : ∀ t, text = some t → ∀ r, scalarValue tag t = .error r → P r)
    {entries : Except Refusal (List (Built × Built))} (h : Gives (EntriesHold P) P entries) :
    Only P (mappingValue tag text entries) := by
  unfold mappingValue
  simp only
  split
  case' h_1 => refine Only.map ?_ _
  case' h_2 => refine Only.map ?_ _
  iterate 2
    · cases entries with
      | ok entries => exact (only_gatherFields hP h).deeper
      | error refusal => exact h
  case' h_3 => trivial
  any_goals exact hP _
  split
  · rename_i t
    unfold scalarOutcome
    cases hscalar : scalarValue tag t with
    | ok value => trivial
    | error r => exact htext t rfl r hscalar
  · exact hP _

end

/-! ## Trees -/

variable {P : Refusal → Prop}

/-- Whether the refusals of all scalars of a tree are of a kind. -/
def Node.ScalarsOnly (P : Refusal → Prop) (n : Node) : Prop :=
  ∀ tag text, n.HoldsScalar tag text → ∀ r, scalarValue tag text = .error r → P r

mutual

/-- The value of a tree is refused for one of its scalars, if the text is YAML. -/
theorem holds_build (hP : ∀ reason, P (.malformed reason)) :
    ∀ n : Node, n.ScalarsOnly P → n.build.Holds P
  | .scalar tag text, h => by
      refine .scalar ?_
      unfold scalarOutcome
      cases hscalar : scalarValue tag text with
      | ok value => trivial
      | error r => exact h tag text .scalar r hscalar
  | .sequence tag items, h => by
      have hitems := holds_buildAll hP items fun n hn t text hholds => h t text (.item hn hholds)
      exact .sequence (only_sequenceValue hP tag hitems) hitems
  | .mapping tag entries, h => by
      have hentries := holds_buildEntries hP entries
        (fun e he t text hholds => h t text (.key he hholds))
        (fun e he t text hholds => h t text (.value he hholds))
      have hmerged : Gives (EntriesHold P) P
          ((mergeEntries (buildEntries entries)).map fun p => p.1 ++ p.2) :=
        Gives.map ((gives_mergeEntries hP hentries).mono fun p hp => hp.1.append hp.2)
      refine .mapping_of_gives (only_mappingValue hP tag ?_ hmerged) hmerged
      exact fun text htext => h tag text (.standsFor htext)

theorem holds_buildAll (hP : ∀ reason, P (.malformed reason)) :
    ∀ items : List Node, (∀ n ∈ items, n.ScalarsOnly P) → ∀ b ∈ buildAll items, b.Holds P
  | [], _ => nofun
  | n :: rest, h => by
      obtain ⟨hn, hrest⟩ := List.forall_mem_cons.mp h
      exact List.forall_mem_cons.mpr ⟨holds_build hP n hn, holds_buildAll hP rest hrest⟩

theorem holds_buildEntries (hP : ∀ reason, P (.malformed reason)) :
    ∀ entries : List (Node × Node), (∀ e ∈ entries, e.1.ScalarsOnly P) →
      (∀ e ∈ entries, e.2.ScalarsOnly P) → EntriesHold P (buildEntries entries)
  | [], _, _ => nofun
  | (key, value) :: rest, hkeys, hvalues => by
      obtain ⟨hkey, hkeys⟩ := List.forall_mem_cons.mp hkeys
      obtain ⟨hvalue, hvalues⟩ := List.forall_mem_cons.mp hvalues
      exact List.forall_mem_cons.mpr ⟨⟨holds_build hP key hkey, holds_build hP value hvalue⟩,
        holds_buildEntries hP rest hkeys hvalues⟩

end

/-! ## Texts -/

/-- Why a text gives no document: it is no YAML, or it holds an escape with the number of no
character, or a scalar of its tree cannot be read as what its tag says. -/
theorem refusal_of_parse {text : String} {r : Refusal} (h : parse text = .error r) :
    IsOfSplitting text.toList r ∨ ∃ node tag scalar, Node.ofText text = .ok (some node) ∧
      node.HoldsScalar tag scalar ∧ scalarValue tag scalar = .error r := by
  unfold parse at h
  split at h
  · rename_i node htree
    have hbuilt := holds_build (P := fun r => IsOfSplitting text.toList r ∨
      ∃ node tag scalar, Node.ofText text = .ok (some node) ∧ node.HoldsScalar tag scalar ∧
        scalarValue tag scalar = .error r)
      (fun reason => .inl (isOfSplitting_malformed _ reason)) node
      fun tag scalar hholds r hscalar => .inr ⟨node, tag, scalar, htree, hholds, hscalar⟩
    have hvalue := hbuilt.value
    split at h <;> rename_i heq <;> rw [heq] at hvalue <;> cases h
    exact hvalue
  · cases h
  · rename_i htree
    cases h
    exact .inl (isOfSplitting_of_ofText htree)

end ServiceShell.Yaml
