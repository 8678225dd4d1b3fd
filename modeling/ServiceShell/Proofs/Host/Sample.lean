import ServiceShell.Host.Column
import ServiceShell.Host.Sample
import ServiceShell.Proofs.Host.Note
import ServiceShell.Proofs.Result

/-!
# Which shapes have samples

A sample of a record has samples of the members that are filled, down to a depth.  Only the least
number of a primitive value can keep it from being given: for a type of integers it must be finite,
and for a type of doubles an integer must not lie beyond them.

Main results:

- Theorem `Shape.type_scalar`: the type of a primitive value, as a member has it.
- Definition `Sample.IsDrawn`: the shapes in a tree of which a sample takes values.
- Definition `Sample.IsRefused`: the shapes of which no value can be taken.
- Theorem `Sample.samples_are_given_iff`: the trees that have samples, and what it means when a tree
  has none.
-/

namespace ServiceShell

/-! ## Types of primitive values -/

/-- The words for numbers are those that stand for integers and for doubles. -/
theorem mem_numericTypes_of_primitiveKind? {type : String} {kind : TypeKind}
    (h : primitiveKind? type = some kind) (hkind : kind = .int ∨ kind = .float) :
    type ∈ numericTypes := by
  unfold primitiveKind? at h
  split at h <;> cases h <;> first | decide | cases hkind <;> contradiction

namespace Shape

/-- A primitive value has the type of its word, unless it is a number in a member whose name looks
like a byte count. -/
theorem type_scalar (info : ShapeInfo) (type : String) (field : Option String) :
    (Shape.scalar info type).type { fieldName := field } =
      if type ∈ numericTypes ∧ field.any isByteSize = true then .plain .filesize
      else if type = "timestamp" then .plain .datetime
      else if type = "blob" then .plain .binary
      else ((primitiveKind? type).map .plain).getD (Shape.scalar info type).unmapped := by
  -- A member tells no choices, so the first rule does not answer.
  have hchoice (element : HostType) : MappingRule.choice.apply element (.scalar info type)
      { fieldName := field } = none := by
    simp only [MappingRule.choice]
    split
    · rename_i heq
      cases heq
    · rfl
    · rfl
  rw [type_eq_firstAnswer, firstAnswer]
  simp only [MappingRule.all, List.findSome?_cons, hchoice, MappingRule.byteSize,
    MappingRule.timestamp, MappingRule.blob, MappingRule.primitive, MappingRule.table,
    MappingRule.list, MappingRule.map, MappingRule.record, Bool.and_eq_true,
    List.contains_iff_mem, List.findSome?_nil]
  by_cases hsize : type ∈ numericTypes ∧ field.any isByteSize = true
  · rw [if_pos hsize, if_pos hsize]
    rfl
  by_cases htime : type = "timestamp"
  · rw [if_neg hsize, if_pos htime, if_neg hsize, if_pos htime]
    rfl
  by_cases hblob : type = "blob"
  · rw [if_neg hsize, if_neg htime, if_pos hblob, if_neg hsize, if_neg htime, if_pos hblob]
    rfl
  rw [if_neg hsize, if_neg htime, if_neg hblob, if_neg hsize, if_neg htime, if_neg hblob]
  cases primitiveKind? type <;> rfl

/-- A primitive value has a type of numbers exactly if its word stands for one, and no name makes it
a byte count. -/
theorem kind_type_scalar_iff {info : ShapeInfo} {type : String} {field : Option String}
    {kind : TypeKind} (hkind : kind = .int ∨ kind = .float) :
    ((Shape.scalar info type).type { fieldName := field }).kind = kind ↔
      primitiveKind? type = some kind ∧ field.any isByteSize = false := by
  rw [type_scalar]
  constructor
  · intro h
    split_ifs at h with hsize htime hblob
    · subst h
      simp [HostType.plain] at hkind
    · subst h
      simp [HostType.plain] at hkind
    · subst h
      simp [HostType.plain] at hkind
    · cases hprimitive : primitiveKind? type with
      | none =>
          rw [hprimitive] at h
          subst h
          simp [unmapped] at hkind
      | some own =>
          rw [hprimitive] at h
          obtain rfl : own = kind := h
          refine ⟨rfl, ?_⟩
          have hnumeric := mem_numericTypes_of_primitiveKind? hprimitive hkind
          exact Bool.eq_false_iff.mpr fun hname => hsize ⟨hnumeric, hname⟩
  · rintro ⟨hprimitive, hname⟩
    have hword : type ≠ "timestamp" ∧ type ≠ "blob" := by
      constructor <;> rintro rfl <;> cases hprimitive
    rw [if_neg (by simp [hname]), if_neg hword.1, if_neg hword.2, hprimitive]
    rfl

/-- Only primitive values have types of numbers. -/
theorem exists_scalar_of_kind_type {s : Shape} {context : TypeContext} {kind : TypeKind}
    (hkind : kind = .int ∨ kind = .float) (h : (s.type context).kind = kind) :
    ∃ info type, s = .scalar info type := by
  cases s with
  | scalar info type => exact ⟨info, type, rfl⟩
  | list info element refers =>
      rcases type_list_cases info element refers context with
        ⟨_, -, htype⟩ | htype | htype <;> rw [htype] at h
      all_goals rcases hkind with rfl | rfl <;> cases h
  | record info members refers isException =>
      cases refers <;> rcases hkind with rfl | rfl <;> cases h
  | _ => rcases hkind with rfl | rfl <;> cases h

end Shape

namespace Sample

/-! ## Least numbers -/

/-- Whether a number cannot be made a value of a kind of types, and what is told then. -/
inductive IsOutOf : TypeKind → Number → Refusal → Prop
  /-- No integer is infinite. -/
  | infinite {x : Float} {negative : Bool} (hx : Decimal.Parts.ofFloat x = .infinite negative) :
      IsOutOf .int (.float x) .overflow
  /-- No integer is what is not a number. -/
  | notANumber {x : Float} (hx : Decimal.Parts.ofFloat x = .nan) :
      IsOutOf .int (.float x) .notANumber
  /-- The double next to an integer may be infinite. -/
  | huge {n : Int} (hn : Decimal.isFinite (Decimal.toFloat (n < 0) n.natAbs 0) = false) :
      IsOutOf .float (.int n) .overflow

/-- Only numbers have least values. -/
theorem IsOutOf.kind_eq {kind : TypeKind} {n : Number} {refusal : Refusal}
    (h : IsOutOf kind n refusal) : kind = .int ∨ kind = .float := by
  cases h with
  | infinite => exact .inl rfl
  | notANumber => exact .inl rfl
  | huge => exact .inr rfl

theorem leastInt_eq_error_iff {n : Number} {refusal : Refusal} :
    leastInt n = .error refusal ↔ IsOutOf .int n refusal := by
  constructor
  · intro h
    cases n with
    | int => cases h
    | float x =>
        simp only [leastInt, Decimal.truncate?] at h
        cases hparts : Decimal.Parts.ofFloat x with
        | nan =>
            rw [hparts] at h
            cases h
            exact .notANumber hparts
        | infinite negative =>
            rw [hparts] at h
            cases h
            exact .infinite hparts
        | finite negative mantissa exponent =>
            rw [hparts] at h
            cases h
  · intro h
    cases h with
    | infinite hx => simp only [leastInt, Decimal.truncate?, hx]
    | notANumber hx => simp only [leastInt, hx]

theorem leastFloat_eq_error_iff {n : Number} {refusal : Refusal} :
    leastFloat n = .error refusal ↔ IsOutOf .float n refusal := by
  constructor
  · intro h
    cases n with
    | float => cases h
    | int n =>
        simp only [leastFloat] at h
        split at h
        · cases h
        · rename_i hfinite
          cases h
          exact .huge (Bool.eq_false_iff.mpr hfinite)
  · intro h
    cases h with
    | huge hn => simp only [leastFloat, hn, Bool.false_eq_true, if_false]

/-- A type has no sample exactly if its least number cannot be a value of its kind. -/
theorem ofType_eq_error_iff {now : Instant} {type : HostType} {constraints : Constraints}
    {refusal : Refusal} :
    ofType now type constraints = .error refusal ↔
      ∃ n, constraints.min = some n ∧ IsOutOf type.kind n refusal := by
  unfold ofType
  split <;> rename_i hkind <;> rw [hkind]
  case h_2 =>
    cases constraints.min with
    | none => simp
    | some n => simp [map_eq_error_iff, leastInt_eq_error_iff]
  case h_3 =>
    cases constraints.min with
    | none => simp
    | some n => simp [map_eq_error_iff, leastFloat_eq_error_iff]
  all_goals
    constructor
    · nofun
    · rintro ⟨n, -, hn⟩
      cases hn

/-! ## What a sample takes values of -/

/-- Whether the shape of a member has no value in a sample, and what is told then: it is a number by
its word, no name makes it a byte count, and its least number cannot be a value of its kind. -/
inductive IsRefused (field : Option String) (refusal : Refusal) : Shape → Prop
  /-- Only primitive values are refused. -/
  | least {info : ShapeInfo} {type : String} {kind : TypeKind} {n : Number}
      (hkind : primitiveKind? type = some kind) (hname : field.any isByteSize = false)
      (hmin : info.constraints.min = some n) (hn : IsOutOf kind n refusal) :
      IsRefused field refusal (.scalar info type)

/-- `IsDrawn options depth field s name leaf`: a sample of `s`, the shape of the member `field`,
with `depth` levels of records left, takes a value of `leaf`, the shape of the member `name`. -/
inductive IsDrawn (options : Options) : Int → Option String → Shape → Option String → Shape → Prop
  /-- What is no record that can be expanded has a value of its own. -/
  | here {depth : Int} {field : Option String} {s : Shape} (hs : Column.isExpandable s = false) :
      IsDrawn options depth field s field s
  /-- A record that is expanded takes the values that the members that are filled take. -/
  | member {depth : Int} {field name : Option String} {s leaf : Shape} {m : Member Shape}
      (hs : Column.isExpandable s = true) (hdepth : 0 < depth) (hm : m ∈ s.members)
      (hfilled : (m.required || options.includeOptional) = true)
      (hbelow : IsDrawn options (depth - 1) (some m.name) m.shape name leaf) :
      IsDrawn options depth field s name leaf

/-- The type of a shape has no sample exactly if the least number of the shape is refused. -/
theorem ofType_type_eq_error_iff {now : Instant} {field : Option String} {s : Shape}
    {refusal : Refusal} :
    ofType now (s.type { fieldName := field }) s.constraints = .error refusal ↔
      IsRefused field refusal s := by
  rw [ofType_eq_error_iff]
  constructor
  · rintro ⟨n, hmin, hn⟩
    have hkind := hn.kind_eq
    obtain ⟨info, type, rfl⟩ := Shape.exists_scalar_of_kind_type hkind rfl
    obtain ⟨hprimitive, hname⟩ := (Shape.kind_type_scalar_iff hkind).mp rfl
    exact .least hprimitive hname hmin hn
  · rintro ⟨hprimitive, hname, hmin, hn⟩
    refine ⟨_, hmin, ?_⟩
    rwa [(Shape.kind_type_scalar_iff hn.kind_eq).mpr ⟨hprimitive, hname⟩]

/-! ## Members -/

section

variable {options : Options} {depth : Int} {members : List (Member Shape)}
  {fields : List (String × Sample)}

/-- When the members of a record have samples, each that is filled has one. -/
theorem exists_of_ofMembers_eq_ok {filled : List (String × Sample)}
    (h : ofMembers options depth fields members = .ok filled) {m : Member Shape} (hm : m ∈ members)
    (hfilled : (m.required || options.includeOptional) = true) :
    ∃ value, ofShapeAt options depth (.ofField m.name) m.shape = .ok value := by
  induction members generalizing fields with
  | nil => cases hm
  | cons first rest ih =>
      rw [ofMembers] at h
      rcases List.mem_cons.mp hm with rfl | hrest
      · rw [if_pos hfilled, bind_eq_ok_iff] at h
        obtain ⟨value, hvalue, -⟩ := h
        exact ⟨value, hvalue⟩
      · split at h
        · rw [bind_eq_ok_iff] at h
          obtain ⟨value, -, hmore⟩ := h
          exact ih hmore hrest
        · exact ih h hrest

/-- When the members of a record have no samples, one that is filled has none. -/
theorem exists_of_ofMembers_eq_error {refusal : Refusal}
    (h : ofMembers options depth fields members = .error refusal) :
    ∃ m ∈ members, (m.required || options.includeOptional) = true ∧
      ofShapeAt options depth (.ofField m.name) m.shape = .error refusal := by
  induction members generalizing fields with
  | nil => cases h
  | cons first rest ih =>
      rw [ofMembers] at h
      have hmore {fields : List (String × Sample)}
          (h : ofMembers options depth fields rest = .error refusal) :
          ∃ m ∈ first :: rest, (m.required || options.includeOptional) = true ∧
            ofShapeAt options depth (.ofField m.name) m.shape = .error refusal := by
        obtain ⟨m, hm, hrefused⟩ := ih h
        exact ⟨m, List.mem_cons_of_mem _ hm, hrefused⟩
      split at h
      · rename_i hfilled
        rw [bind_eq_error_iff] at h
        rcases h with hfirst | ⟨value, -, hrest⟩
        · exact ⟨first, List.mem_cons_self, hfilled, hfirst⟩
        · exact hmore hrest
      · exact hmore h

end

/-! ## Shapes -/

section

variable {options : Options} {depth : Int} {field : Option String} {s : Shape}

theorem ofShapeAt_of_not_isExpandable (hs : Column.isExpandable s = false) :
    ofShapeAt options depth { fieldName := field } s =
      ofType options.now (s.type { fieldName := field }) s.constraints := by
  cases s with
  | record info members refers isException =>
      cases refers with
      | true => rw [ofShapeAt, if_pos rfl]; rfl
      | false => cases hs
  | _ => rfl

theorem ofShapeAt_of_isExpandable (hs : Column.isExpandable s = true) :
    ofShapeAt options depth { fieldName := field } s =
      if depth ≤ 0 then .ok (.record [])
      else (ofMembers options (depth - 1) [] s.members).map .record := by
  cases s with
  | record info members refers isException =>
      cases refers with
      | true => cases hs
      | false => rw [ofShapeAt, if_neg Bool.false_ne_true]; rfl
  | _ => cases hs

/-- What is told when a shape has no sample is told of a shape that the sample takes a value of. -/
theorem exists_isDrawn_of_eq_error {refusal : Refusal}
    (h : ofShapeAt options depth { fieldName := field } s = .error refusal) :
    ∃ name leaf, IsDrawn options depth field s name leaf ∧ IsRefused name refusal leaf := by
  induction s using Shape.induction_children generalizing depth field with
  | step s ih =>
      cases hs : Column.isExpandable s with
      | false =>
          rw [ofShapeAt_of_not_isExpandable hs] at h
          exact ⟨field, s, .here hs, ofType_type_eq_error_iff.mp h⟩
      | true =>
          rw [ofShapeAt_of_isExpandable hs] at h
          split at h
          · cases h
          · rename_i hdepth
            rw [map_eq_error_iff] at h
            obtain ⟨m, hm, hfilled, hmember⟩ := exists_of_ofMembers_eq_error h
            obtain ⟨name, leaf, hdrawn, hrefused⟩ :=
              ih m.shape (Shape.mem_children_of_mem_members hm) hmember
            exact ⟨name, leaf, .member hs (by omega) hm hfilled hdrawn, hrefused⟩

/-- A shape has no sample if one that the sample takes a value of has none. -/
theorem eq_error_of_isDrawn {name : Option String} {leaf : Shape} {refusal : Refusal}
    (hdrawn : IsDrawn options depth field s name leaf) (hrefused : IsRefused name refusal leaf) :
    ∃ told, ofShapeAt options depth { fieldName := field } s = .error told := by
  induction hdrawn with
  | here hs =>
      rw [ofShapeAt_of_not_isExpandable hs]
      exact ⟨refusal, ofType_type_eq_error_iff.mpr hrefused⟩
  | @member depth field name s leaf m hs hdepth hm hfilled _ ih =>
      obtain ⟨told, htold⟩ := ih hrefused
      rw [ofShapeAt_of_isExpandable hs, if_neg (by omega)]
      cases hmembers : ofMembers options (depth - 1) [] s.members with
      | error told => exact ⟨told, rfl⟩
      | ok filled =>
          obtain ⟨value, hvalue⟩ := exists_of_ofMembers_eq_ok hmembers hm hfilled
          cases hvalue.symm.trans htold

end

/-- A tree has a sample exactly if the sample takes no value of a shape that is refused: of a number
by its word and its name whose least number is not of its kind.  Otherwise what is told is told of
such a shape. -/
theorem samples_are_given_iff (options : Options) (depth : Int) (shape : Shape) :
    ((∃ value, ofShape options depth shape = .ok value) ↔
      ∀ field leaf, IsDrawn options depth none shape field leaf →
        ∀ refusal, ¬ IsRefused field refusal leaf) ∧
    ∀ refusal, ofShape options depth shape = .error refusal →
      ∃ field leaf, IsDrawn options depth none shape field leaf ∧
        IsRefused field refusal leaf := by
  refine ⟨⟨?_, ?_⟩, fun refusal h => exists_isDrawn_of_eq_error h⟩
  · rintro ⟨value, hvalue⟩ field leaf hdrawn refusal hrefused
    obtain ⟨told, htold⟩ := eq_error_of_isDrawn hdrawn hrefused
    cases hvalue.symm.trans htold
  · intro hnone
    cases hvalue : ofShape options depth shape with
    | ok value => exact ⟨value, rfl⟩
    | error refusal =>
        obtain ⟨field, leaf, hdrawn, hrefused⟩ := exists_isDrawn_of_eq_error hvalue
        exact absurd hrefused (hnone field leaf hdrawn refusal)

/-- A record whose one member is an integer that is not less than a number. -/
def boundedRecord (least : Number) : Shape :=
  .record {} [⟨{ name := "Count", required := true },
    .scalar { constraints := { min := some least } } "integer"⟩] false false

/-- It has a sample if that number is an integer, and none if it is infinite. -/
theorem boundedRecord_samples :
    (∃ value, ofShape ⟨default, false⟩ 1 (boundedRecord (.int 5)) = .ok value) ∧
      ∀ x negative, Decimal.Parts.ofFloat x = .infinite negative →
        ¬ ∃ value, ofShape ⟨default, false⟩ 1 (boundedRecord (.float x)) = .ok value := by
  constructor
  · rw [(samples_are_given_iff _ _ _).1]
    intro field leaf hdrawn refusal hrefused
    cases hdrawn with
    | here hs => cases hs
    | member _ _ hm _ hmember =>
        obtain rfl := List.mem_singleton.mp hm
        cases hmember with
        | here =>
            obtain ⟨hkind, -, hmin, hn⟩ := hrefused
            cases hmin
            cases hn
            cases hkind
        | member hs => cases hs
  · intro x negative hx
    rw [(samples_are_given_iff _ _ _).1]
    intro hnone
    have hdrawn : IsDrawn ⟨default, false⟩ 1 none (boundedRecord (.float x)) (some "Count")
        (.scalar { constraints := { min := some (.float x) } } "integer") :=
      .member rfl (by decide) (List.mem_singleton_self _) rfl (.here rfl)
    exact hnone _ _ hdrawn .overflow (.least rfl (by decide) rfl (.infinite hx))

end Sample

end ServiceShell
