import ServiceShell.Proofs.Host.Sample
import ServiceShell.Proofs.Shape.MemberNames
import ServiceShell.Proofs.Shape.Termination

/-!
# Samples with less in them

A sample that is pruned from another one lacks some of its fields, at any depth, and is the same
otherwise.  Fewer levels and fewer members give a sample that is pruned from the one with more, as
long as the members of each record have distinct names.

Main results:

- Definition `Sample.IsPruned`: a sample with some of the fields of another one.
- Theorem `Sample.forall₂_of_ofMembers`: the fields of a sample stand beside the members that are
  filled, in order.
- Theorem `Sample.isPruned_of_le`: fewer levels and members give a sample that is pruned from the one
  with more.
- Theorem `Sample.samples_are_pruned`: the same for trees that are resolved, and what a sample of
  required members holds.
-/

namespace ServiceShell

namespace Sample

/-- `IsPruned value other`: the two are equal, or they are records, each field of the first has a
field with its name in the second, and its value is pruned from the value there. -/
inductive IsPruned : Sample → Sample → Prop
  /-- Nothing is cut. -/
  | same (value : Sample) : IsPruned value value
  /-- Fields are left out, and the values of the others are pruned. -/
  | record {fields others : List (String × Sample)}
      (hnames : ∀ name ∈ fields.map Prod.fst, name ∈ others.map Prod.fst)
      (hvalues : ∀ name value other, (name, value) ∈ fields → (name, other) ∈ others →
        IsPruned value other) :
      IsPruned (.record fields) (.record others)

/-! ## The fields of a record -/

/-- The members that are filled. -/
def filledMembers (options : Options) (members : List (Member Shape)) : List (Member Shape) :=
  members.filter fun m => m.required || options.includeOptional

/-- Whether a field has the name of a member and a sample of its shape. -/
structure IsFieldOf (options : Options) (depth : Int) (m : Member Shape)
    (field : String × Sample) : Prop where
  /-- The field has the name of the member. -/
  name_eq : field.1 = m.name
  /-- Its value is a sample of the shape of the member. -/
  value_eq : ofShapeAt options depth (.ofField m.name) m.shape = .ok field.2

/-- A field with a new name comes last. -/
theorem putField_of_notMem {name : String} {value : Sample} {fields : List (String × Sample)}
    (h : name ∉ fields.map Prod.fst) : putField name value fields = fields ++ [(name, value)] := by
  induction fields with
  | nil => rfl
  | cons field rest ih =>
      obtain ⟨key, other⟩ := field
      obtain ⟨hkey, hrest⟩ := not_or.mp (List.mem_cons.not.mp h)
      rw [putField, if_neg (Ne.symm hkey), ih hrest, List.cons_append]

/-- The fields that members with new and distinct names add stand beside those that are filled. -/
theorem exists_forall₂_of_ofMembers {options : Options} {depth : Int}
    {members : List (Member Shape)} {fields filled : List (String × Sample)}
    (hnodup : (members.map Member.name).Nodup)
    (hnew : ∀ m ∈ members, m.name ∉ fields.map Prod.fst)
    (h : ofMembers options depth fields members = .ok filled) :
    ∃ own, filled = fields ++ own ∧
      List.Forall₂ (IsFieldOf options depth) (filledMembers options members) own := by
  induction members generalizing fields with
  | nil =>
      cases h
      exact ⟨[], (List.append_nil _).symm, .nil⟩
  | cons first rest ih =>
      rw [List.map_cons, List.nodup_cons] at hnodup
      rw [List.forall_mem_cons] at hnew
      rw [ofMembers] at h
      rw [filledMembers, List.filter_cons]
      split at h <;> rename_i hfilled
      · obtain ⟨value, hvalue, hrest⟩ := bind_eq_ok_iff.mp h
        rw [putField_of_notMem hnew.1] at hrest
        have hfresh : ∀ m ∈ rest,
            m.name ∉ (fields ++ [(first.name, value)]).map Prod.fst := by
          intro m hm
          have hne : m.name ≠ first.name := fun heq =>
            hnodup.1 (heq ▸ List.mem_map_of_mem hm)
          simpa [hne] using hnew.2 m hm
        obtain ⟨own, rfl, hown⟩ := ih hnodup.2 hfresh hrest
        refine ⟨(first.name, value) :: own, by simp, ?_⟩
        rw [if_pos hfilled]
        exact .cons ⟨rfl, hvalue⟩ hown
      · rw [if_neg hfilled]
        exact ih hnodup.2 hnew.2 h

/-- The fields of a sample of members with distinct names stand beside the members that are filled,
in order. -/
theorem forall₂_of_ofMembers {options : Options} {depth : Int} {members : List (Member Shape)}
    {filled : List (String × Sample)} (hnodup : (members.map Member.name).Nodup)
    (h : ofMembers options depth [] members = .ok filled) :
    List.Forall₂ (IsFieldOf options depth) (filledMembers options members) filled := by
  obtain ⟨own, rfl, hown⟩ := exists_forall₂_of_ofMembers hnodup (by simp) h
  exact hown

/-- The names of the fields are those of the members that are filled, in order. -/
theorem map_fst_of_forall₂ {options : Options} {depth : Int} {members : List (Member Shape)}
    {fields : List (String × Sample)}
    (h : List.Forall₂ (IsFieldOf options depth) members fields) :
    fields.map Prod.fst = members.map Member.name := by
  induction h with
  | nil => rfl
  | cons hfirst _ ih => rw [List.map_cons, List.map_cons, hfirst.name_eq, ih]

/-! ## Records that are expanded -/

variable {options : Options} {depth : Int} {field : Option String} {s : Shape}

/-- A record that is expanded has a field for each member that is filled. -/
theorem exists_fields_of_isExpandable (hnodup : (s.members.map Member.name).Nodup)
    (hs : Column.isExpandable s = true) (hdepth : 0 < depth) {value : Sample}
    (h : ofShapeAt options depth { fieldName := field } s = .ok value) :
    ∃ fields, value = .record fields ∧
      List.Forall₂ (IsFieldOf options (depth - 1)) (filledMembers options s.members) fields := by
  rw [ofShapeAt_of_isExpandable hs, if_neg (by omega)] at h
  obtain ⟨fields, hfields, rfl⟩ := map_eq_ok_iff.mp h
  exact ⟨fields, rfl, forall₂_of_ofMembers hnodup hfields⟩

/-- A record that can be expanded has a record as its sample, at any depth. -/
theorem exists_record_of_isExpandable (hs : Column.isExpandable s = true) {value : Sample}
    (h : ofShapeAt options depth { fieldName := field } s = .ok value) :
    ∃ fields, value = .record fields := by
  rw [ofShapeAt_of_isExpandable hs] at h
  split at h
  · cases h
    exact ⟨[], rfl⟩
  · obtain ⟨fields, -, rfl⟩ := map_eq_ok_iff.mp h
    exact ⟨fields, rfl⟩

/-! ## Pruned samples -/

/-- Fewer levels and fewer members give a sample that is pruned from the one with more. -/
theorem isPruned_of_le {now : Instant} {optional more : Bool} {fewer : Int}
    (hoptional : optional = true → more = true) (hdepth : fewer ≤ depth) (hs : s.NamesMembers)
    {value other : Sample}
    (hvalue : ofShapeAt ⟨now, optional⟩ fewer { fieldName := field } s = .ok value)
    (hother : ofShapeAt ⟨now, more⟩ depth { fieldName := field } s = .ok other) :
    IsPruned value other := by
  induction s using Shape.induction_children generalizing fewer depth field value other with
  | step s ih =>
      cases hexpandable : Column.isExpandable s with
      | false =>
          rw [ofShapeAt_of_not_isExpandable hexpandable] at hvalue hother
          cases hvalue.symm.trans hother
          exact .same value
      | true =>
          by_cases hnone : fewer ≤ 0
          · obtain ⟨others, rfl⟩ := exists_record_of_isExpandable hexpandable hother
            rw [ofShapeAt_of_isExpandable hexpandable, if_pos hnone] at hvalue
            cases hvalue
            exact .record nofun nofun
          · obtain ⟨fields, rfl, hfields⟩ :=
              exists_fields_of_isExpandable hs.nodup hexpandable (by omega) hvalue
            obtain ⟨others, rfl, hothers⟩ :=
              exists_fields_of_isExpandable hs.nodup hexpandable (by omega) hother
            refine .record ?_ ?_
            · rw [map_fst_of_forall₂ hfields, map_fst_of_forall₂ hothers, List.forall_mem_map]
              intro m hm
              refine List.mem_map_of_mem (List.mem_filter.mpr ?_)
              obtain ⟨hmember, hfilled⟩ := List.mem_filter.mp hm
              refine ⟨hmember, ?_⟩
              rw [Bool.or_eq_true] at hfilled ⊢
              exact hfilled.imp_right hoptional
            · intro name inner innerOther hinner hinnerOther
              obtain ⟨m, hm, rfl, hm'⟩ := exists_mem_of_forall₂ hfields hinner
              obtain ⟨m₂, hm₂, hname, hm₂'⟩ := exists_mem_of_forall₂ hothers hinnerOther
              have hmember := List.mem_of_mem_filter hm
              -- Two members with one name are the same member.
              obtain rfl : m₂ = m := List.inj_on_of_nodup_map hs.nodup
                (List.mem_of_mem_filter hm₂) hmember hname.symm
              exact ih m₂.shape (Shape.mem_children_of_mem_members hmember) (by omega)
                (hs.of_mem_members hmember) hm' hm₂'

/-! ## Parts of a sample -/

/-- `IsPart depth s value left t part`: in `value`, a sample of `s` with `depth` levels of records
left, stands `part` as the sample of `t` with `left` levels left. -/
inductive IsPart : Int → Shape → Sample → Int → Shape → Sample → Prop
  /-- The sample itself. -/
  | here (depth : Int) (s : Shape) (value : Sample) : IsPart depth s value depth s value
  /-- What stands in the sample of a member. -/
  | member {depth left : Int} {s t : Shape} {fields : List (String × Sample)} {m : Member Shape}
      {value part : Sample} (hs : Column.isExpandable s = true) (hdepth : 0 < depth)
      (hm : m ∈ s.members) (hvalue : (m.name, value) ∈ fields)
      (hpart : IsPart (depth - 1) m.shape value left t part) :
      IsPart depth s (.record fields) left t part

/-- Whatever stands in a sample was made for the shape that it stands for. -/
theorem exists_ofShapeAt_of_isPart {left : Int} {t : Shape} {value part : Sample}
    (hpart : IsPart depth s value left t part) (hs : s.NamesMembers)
    (h : ofShapeAt options depth { fieldName := field } s = .ok value) :
    t.NamesMembers ∧ ∃ field, ofShapeAt options left { fieldName := field } t = .ok part := by
  induction hpart generalizing field with
  | here => exact ⟨hs, field, h⟩
  | member hexpandable hdepth hm hvalue _ ih =>
      obtain ⟨_, heq, hfields⟩ :=
        exists_fields_of_isExpandable hs.nodup hexpandable hdepth h
      cases heq
      obtain ⟨m, hmember, hname, hsample⟩ := exists_mem_of_forall₂ hfields hvalue
      obtain rfl := List.inj_on_of_nodup_map hs.nodup hm (List.mem_of_mem_filter hmember) hname
      exact ih (hs.of_mem_members hm) hsample

/-- A tree that is resolved from a table whose objects have distinct texts as keys, and its samples
at one time: the one with required members only is pruned from the one with all members, and fewer
levels give a sample that is pruned from the one with more.  Where required members only are filled,
each record that is expanded has a field for each of them, in order, and no other. -/
theorem samples_are_pruned {kind : Scalar → Prop} {table : Fields}
    (htable : (Document.object table).IsMadeOf kind) {limit : Option Int} {name : Document}
    {shape : Shape} (hshape : Shape.resolve table limit name = .ok shape) (now : Instant) :
    (∀ depth value other, ofShape ⟨now, false⟩ depth shape = .ok value →
      ofShape ⟨now, true⟩ depth shape = .ok other → IsPruned value other) ∧
    (∀ optional fewer depth value other, fewer ≤ depth →
      ofShape ⟨now, optional⟩ fewer shape = .ok value →
      ofShape ⟨now, optional⟩ depth shape = .ok other → IsPruned value other) ∧
    ∀ depth value left t part, ofShape ⟨now, false⟩ depth shape = .ok value →
      IsPart depth shape value left t part → Column.isExpandable t = true → 0 < left →
        ∃ fields, part = .record fields ∧
          fields.map Prod.fst = (t.members.filter (·.required)).map Member.name := by
  have hnames := Shape.namesMembers_of_resolve htable hshape
  refine ⟨?members, ?levels, ?required⟩
  case members =>
    intro depth value other hvalue hother
    exact isPruned_of_le (fun _ => rfl) (Int.le_refl depth) hnames hvalue hother
  case levels =>
    intro optional fewer depth value other hdepth hvalue hother
    exact isPruned_of_le id hdepth hnames hvalue hother
  case required =>
    intro depth value left t part hvalue hpart hexpandable hleft
    obtain ⟨ht, field, hpart⟩ := exists_ofShapeAt_of_isPart hpart hnames hvalue
    obtain ⟨fields, rfl, hfields⟩ :=
      exists_fields_of_isExpandable ht.nodup hexpandable hleft hpart
    refine ⟨fields, rfl, ?_⟩
    rw [map_fst_of_forall₂ hfields]
    simp [filledMembers]

/-- Parcels have a sender, who has an address. -/
def parcelTable : Fields :=
  [(.text "Parcel", recordDefinition ["Sender"] [("Sender", "Address"), ("Remark", "Line")]),
    (.text "Address", recordDefinition ["Street"] [("Street", "Line"), ("Floor", "Line")]),
    (.text "Line", textFields [("type", "string")])]

/-- A line of text. -/
def lineShape : Shape := .scalar { name := some "Line" } "string"

/-- What addresses are resolved to. -/
def addressShape : Shape :=
  .record { name := some "Address" }
    [⟨{ name := "Street", required := true }, lineShape⟩, ⟨{ name := "Floor" }, lineShape⟩]
    false false

/-- What parcels are resolved to. -/
def parcelShape : Shape :=
  .record { name := some "Parcel" }
    [⟨{ name := "Sender", required := true }, addressShape⟩, ⟨{ name := "Remark" }, lineShape⟩]
    false false

theorem resolve_parcel : Shape.resolve parcelTable none (.text "Parcel") = .ok parcelShape := by
  unfold Shape.resolve
  rw [← nestedResolver_eq_resolveAt (fun _ _ _ => .error ⟨"", []⟩) (by decide : _ < 3)]
  rfl

theorem isMadeOf_parcelTable : (Document.object parcelTable).IsMadeOf Json.IsParsed := by
  have htext (text : String) : Json.IsParsed (.text text) := trivial
  refine .object ?_ ⟨?_, by decide⟩
  · simp only [parcelTable, List.forall_mem_cons, List.not_mem_nil, false_implies, implies_true,
      and_true]
    exact ⟨isMadeOf_recordDefinition htext _ (by decide),
      isMadeOf_recordDefinition htext _ (by decide), isMadeOf_textFields htext (by decide)⟩
  · simp [parcelTable, Fields.keys]

/-- The address of a sender, with the street only, and with the floor too. -/
def addressSample (all : Bool) : Sample :=
  .record (("Street", .scalar (.text "")) :: if all then [("Floor", .scalar (.text ""))] else [])

/-- A parcel without a remark, whose sender has an address with a street, is pruned from a parcel
with both and a floor.  Of one level only a sender without an address is left. -/
theorem parcel_samples_are_pruned :
    IsPruned (.record [("Sender", addressSample false)])
        (.record [("Sender", addressSample true), ("Remark", .scalar (.text ""))]) ∧
      IsPruned (.record [("Sender", .record [])]) (.record [("Sender", addressSample false)]) ∧
      ∃ fields, addressSample false = .record fields ∧ fields.map Prod.fst = ["Street"] := by
  obtain ⟨hmembers, hlevels, hrequired⟩ :=
    samples_are_pruned isMadeOf_parcelTable resolve_parcel default
  have hpart : IsPart 4 parcelShape (.record [("Sender", addressSample false)]) 3 addressShape
      (addressSample false) :=
    .member rfl (by decide) List.mem_cons_self List.mem_cons_self (.here _ _ _)
  exact ⟨hmembers 4 _ _ rfl rfl, hlevels false 1 2 _ _ (by decide) rfl rfl,
    hrequired 4 _ 3 _ _ rfl hpart rfl (by decide)⟩

end Sample

end ServiceShell
