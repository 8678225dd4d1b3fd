import ServiceShell.Proofs.Signature.Parameters
import ServiceShell.Proofs.Text.Variable

/-!
# Parameters and the variables that they bind

The call in the body of a command names the variable of each parameter.  A positional parameter gets
a name that is made to be a variable, so its variable is its own.  A named parameter gets a
hyphenated name, which may begin with a digit, so that it is no variable, or be a name that the host
shell keeps, so that the call passes on something else.

Main results:

- Theorem `Parameter.isOwnVariable_iff_of_mem`: whether the variable of a parameter is its own.
- Theorem `Signature.variables_are_own_iff`: when those of all parameters are.
-/

namespace ServiceShell

open Naming

namespace Parameter

variable {settings : GeneratorSettings} {service : String}

/-! ## Wanted names -/

/-- A required member asks for a name that is made to be a variable. -/
theorem wantedName_of_required {m : MemberInfo} (h : m.required = true) :
    wantedName m = identifier m.name := if_pos h

/-- Another member asks for its hyphenated name, unless that is empty. -/
theorem wantedName_of_not_required {m : MemberInfo} (h : m.required = false) :
    (kebab m.name ≠ "" ∧ wantedName m = kebab m.name) ∨
      (kebab m.name = "" ∧ wantedName m = "param") := by
  rw [wantedName, if_neg (by simp [h])]
  by_cases hempty : kebab m.name = ""
  · exact .inr ⟨hempty, if_pos hempty⟩
  · exact .inl ⟨hempty, if_neg hempty⟩

/-- What a member asks for is a name that can be read as a variable, but for how it begins. -/
theorem isPlainName_wantedName (m : MemberInfo) : IsPlainName (wantedName m) := by
  cases hrequired : m.required with
  | true =>
      rw [wantedName_of_required hrequired]
      exact (identifier_spec m.name).1
  | false =>
      obtain ⟨hne, heq⟩ | ⟨-, heq⟩ := wantedName_of_not_required hrequired
      · rw [heq]
        exact isPlainName_kebab hne
      · rw [heq]
        decide

theorem isPlainName_separator (m : MemberInfo) : IsPlainName (separator m) := by
  rw [separator]
  split
  · decide
  · decide

/-! ## Parameters -/

/-- Whether the variable of a parameter is its own depends on the name that its member asks for, and
on whether it got this name. -/
theorem isOwnVariable_ofMember_iff (before : List String) (m : Member Shape) :
    IsOwnVariable (ofMember settings service
        (firstFree variableOf before (wantedName m.info) (separator m.info)) m).variableName ↔
      ¬ BeginsWithDigit (wantedName m.info) ∧ (wantedName m.info ∈ reserved →
        firstFree variableOf before (wantedName m.info) (separator m.info) ≠
          wantedName m.info) := by
  obtain ⟨n, -, hname, -⟩ := firstFree_spec before
    (variableOf_candidate_injective (wantedName m.info) (separator m.info))
  have hchanged : candidate (wantedName m.info) (separator m.info) n ≠ wantedName m.info ↔
      n ≠ 0 := (candidate_injective _ _).ne_iff (y := 0)
  rw [hname, hchanged]
  exact isOwnVariable_candidate_iff (isPlainName_wantedName _) (isPlainName_separator _) n

/-- Whether the variable of a parameter is its own: it always is for a positional one; for a named
one the hyphenated name of its member must not begin with a digit, and must not be one that the host
shell keeps, unless the parameter got another name. -/
theorem isOwnVariable_iff_of_mem {taken : List String} {members : List (Member Shape)}
    {p : Parameter} (hp : p ∈ ofMembersFrom settings service taken members) :
    IsOwnVariable p.variableName ↔ p.positional = true ∨
      ¬ BeginsWithDigit (kebab p.modelName) ∧
        (kebab p.modelName ∈ reserved → p.name ≠ kebab p.modelName) := by
  obtain ⟨m, -, before, rfl⟩ := exists_ofMember_of_mem hp
  rw [isOwnVariable_ofMember_iff]
  cases hrequired : m.info.required with
  | true =>
      obtain ⟨-, hdigit, hreserved⟩ := identifier_spec m.info.name
      rw [wantedName_of_required hrequired]
      exact iff_of_true ⟨hdigit, fun hkept => absurd hkept hreserved⟩ (.inl hrequired)
  | false =>
      have hpositional : ¬ m.required = true := by simp [Member.required, hrequired]
      obtain ⟨-, heq⟩ | ⟨hempty, heq⟩ := wantedName_of_not_required hrequired
      · rw [heq]
        exact (or_iff_right hpositional).symm
      · rw [heq]
        refine iff_of_true ⟨by decide, fun hkept => absurd hkept (by decide)⟩ (.inr ?_)
        show ¬ BeginsWithDigit (kebab m.info.name) ∧ (kebab m.info.name ∈ reserved → _)
        rw [hempty]
        exact ⟨by decide, fun hkept => absurd hkept (by decide)⟩

/-- Each member has a parameter.  What was taken before it are variables of other parameters, or
what was taken at the start. -/
theorem exists_ofMember_mem (settings : GeneratorSettings) (service : String) (taken : List String)
    {members : List (Member Shape)} {m : Member Shape} (hm : m ∈ members) :
    ∃ before, ofMember settings service
        (firstFree variableOf before (wantedName m.info) (separator m.info)) m ∈
          ofMembersFrom settings service taken members ∧
      ∀ name ∈ before, name ∈ taken ∨
        ∃ p ∈ ofMembersFrom settings service taken members, p.variableName = name := by
  induction members generalizing taken with
  | nil => cases hm
  | cons first rest ih =>
      rw [ofMembersFrom]
      rcases List.mem_cons.mp hm with rfl | hm
      · exact ⟨taken, List.mem_cons_self, fun name hname => .inl hname⟩
      · obtain ⟨before, hmem, hbefore⟩ := ih _ hm
        refine ⟨before, List.mem_cons_of_mem _ hmem, fun name hname => ?_⟩
        rcases hbefore name hname with htaken | ⟨p, hp, heq⟩
        · rcases List.mem_cons.mp htaken with rfl | htaken
          · exact .inr ⟨_, List.mem_cons_self, rfl⟩
          · exact .inl htaken
        · exact .inr ⟨p, List.mem_cons_of_mem _ hp, heq⟩

/-- A member that did not get the name it asked for finds its variable taken. -/
theorem variableOf_wantedName_mem {before : List String} {m : MemberInfo}
    (h : firstFree variableOf before (wantedName m) (separator m) ≠ wantedName m) :
    variableOf (wantedName m) ∈ before := by
  obtain ⟨n, -, hname, -, htaken⟩ := firstFree_spec before
    (variableOf_candidate_injective (wantedName m) (separator m))
  have hn : n ≠ 0 := by
    rintro rfl
    exact h hname
  exact htaken 0 (Nat.pos_of_ne_zero hn)

/-- All variables are their own exactly when no member that is not required has a hyphenated name
that begins with a digit, or that the host shell keeps. -/
theorem forall_isOwnVariable_iff {members : List (Member Shape)} :
    (∀ p ∈ ofMembersFrom settings service [] members, IsOwnVariable p.variableName) ↔
      ∀ m ∈ members, m.required = false →
        ¬ BeginsWithDigit (kebab m.name) ∧ kebab m.name ∉ reserved := by
  constructor
  · intro hown m hm hrequired
    obtain ⟨before, hmem, hbefore⟩ := exists_ofMember_mem settings service [] hm
    obtain ⟨hdigit, hchanged⟩ := (isOwnVariable_ofMember_iff before m).mp (hown _ hmem)
    obtain ⟨-, hwanted⟩ | ⟨hempty, -⟩ := wantedName_of_not_required hrequired
    · rw [← hwanted]
      refine ⟨hdigit, fun hkept => ?_⟩
      -- Its variable would be taken, and so be that of a parameter before it.
      obtain htaken | ⟨q, hq, heq⟩ := hbefore _ (variableOf_wantedName_mem (hchanged hkept))
      · cases htaken
      · refine (hown q hq).notMem_reserved ?_
        rw [heq]
        exact variableOf_mem_reserved_iff.mpr hkept
    · rw [hempty]
      exact ⟨by decide, by decide⟩
  · intro hclear p hp
    rw [isOwnVariable_iff_of_mem hp]
    obtain ⟨m, hm, before, rfl⟩ := exists_ofMember_of_mem hp
    cases hrequired : m.required with
    | true => exact .inl hrequired
    | false =>
        obtain ⟨hdigit, hkept⟩ := hclear m hm hrequired
        exact .inr ⟨hdigit, fun h => absurd h hkept⟩

end Parameter

namespace Signature

/-! ## Signatures -/

/-- Whether the variables in the call are the parameters' own.  The variable of a parameter is
written as a variable, and is none that the host shell keeps, exactly when the parameter is
positional, or else the hyphenated name of its member does not begin with a digit, and is none that
the host shell keeps or not the name of the parameter.  So all variables are their own exactly when
no member that is not required has a hyphenated name that begins with a digit or that the host shell
keeps.  The call names each variable behind a dollar sign. -/
theorem variables_are_own_iff {o : Operation} {info : ShapeInfo} {members : List (Member Shape)}
    {selfReferencing exception : Bool}
    (hinput : o.input = .record info members selfReferencing exception)
    (settings : GeneratorSettings) (service : String) (pagination : Pagination)
    (errors : List ErrorDescriptor) :
    (∀ p ∈ (ofOperation settings service pagination errors o).parameters,
      IsOwnVariable p.variableName ↔ p.positional = true ∨
        ¬ BeginsWithDigit (kebab p.modelName) ∧
          (kebab p.modelName ∈ reserved → p.name ≠ kebab p.modelName)) ∧
      ((∀ p ∈ (ofOperation settings service pagination errors o).parameters,
          IsOwnVariable p.variableName) ↔
        ∀ m ∈ members, m.required = false →
          ¬ BeginsWithDigit (kebab m.name) ∧ kebab m.name ∉ reserved) ∧
      ∀ dispatcher, callLine dispatcher (ofOperation settings service pagination errors o) =
        "    " ++ dispatcher ++ " " ++ service ++ " " ++ o.modelName ++ " \x7b"
          ++ ", ".intercalate ((ofOperation settings service pagination errors o).parameters.map
            fun p => recordKey p.modelName ++ ": $" ++ p.variableName) ++ "\x7d" := by
  refine ⟨?_, ?_, fun dispatcher => callLine_ofOperation hinput dispatcher⟩
  · rw [parameters_ofOperation hinput]
    exact fun p hp => Parameter.isOwnVariable_iff_of_mem hp
  · rw [parameters_ofOperation hinput]
    refine Parameter.forall_isOwnVariable_iff.trans (forall_congr' fun m => ?_)
    rw [Parameter.mem_inOrder_iff]

/-- An input with names that need care: required members that begin with a digit or are kept by the
host shell, and optional ones of both kinds. -/
def tierOperation : Operation where
  name := "put-tier"
  modelName := "PutTier"
  input := .record {}
    [⟨{ name := "In" }, .scalar {} "string"⟩,
      ⟨{ name := "Env", required := true }, .scalar {} "string"⟩,
      ⟨{ name := "3Tier", required := true }, .scalar {} "string"⟩,
      ⟨{ name := "in" }, .scalar {} "string"⟩,
      ⟨{ name := "2fa" }, .scalar {} "string"⟩] false false

/-- The required members get variables of their own. The first optional one takes a name that the
host shell keeps, which leaves the next one clear of it, and the last one gets no variable. -/
theorem tierOperation_variables :
    (ofOperation {} "s3" {} [] tierOperation).parameters.map
        (fun p => (p.modelName, p.variableName)) =
      [("Env", "env_"), ("3Tier", "_3_tier"), ("In", "in"), ("in", "in_2"), ("2fa", "2fa")] ∧
    (∀ p ∈ (ofOperation {} "s3" {} [] tierOperation).parameters,
      IsOwnVariable p.variableName ↔ p.variableName ≠ "in" ∧ p.variableName ≠ "2fa") ∧
    callLine "call" (ofOperation {} "s3" {} [] tierOperation) =
      "    call s3 PutTier \x7bEnv: $env_, \"3Tier\": $_3_tier, In: $in, in: $in_2, "
        ++ "\"2fa\": $2fa\x7d" := by
  obtain ⟨hown, -, hcall⟩ := variables_are_own_iff (o := tierOperation) rfl {} "s3" {} []
  refine ⟨by decide +kernel, fun p hp => ?_, ?_⟩
  · rw [hown p hp]
    revert p
    decide +kernel
  · rw [hcall]
    decide +kernel

end Signature

end ServiceShell
