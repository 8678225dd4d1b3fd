import ServiceShell.Proofs.Result
import ServiceShell.Proofs.Settings.Layer
import ServiceShell.Settings.Change

/-!
# Changes at a key

A change puts a value at the end of a path of names, and reads what comes out as settings again.
Elsewhere the settings are as they were: whatever stands at a path that neither leads to the key nor
begins with it.

Main results:

- Definition `Document.at?`: what stands at a path of names.
- Definition `IsApart`: paths of which none leads to the other.
- Theorem `at?_of_changeAt`: a change in fields leaves the rest of the fields alone.
- Theorem `Settings.at?_encode_of_change`: a change of settings leaves the other settings alone.
-/

namespace ServiceShell

open Document Record

/-! ## Paths -/

/-- What stands at a path of names. -/
def Document.at? : List String → Document → Option Document
  | [], d => some d
  | name :: rest, d => (d.get? name).bind (at? rest)

/-- None of two paths of names leads to the other. -/
def IsApart (names path : List String) : Prop := ¬ names <+: path ∧ ¬ path <+: names

theorem IsApart.append {names path : List String} (h : IsApart names path) (more : List String) :
    IsApart (names ++ more) path := by
  refine ⟨fun hbelow => h.1 ((List.prefix_append _ _).trans hbelow), fun hbelow => ?_⟩
  rcases List.prefix_or_prefix_of_prefix hbelow (List.prefix_append names more) with hle | hge
  · exact h.2 hle
  · exact h.1 hge

theorem IsApart.ne_nil {names path : List String} (h : IsApart names path) : names ≠ [] := by
  rintro rfl
  exact h.1 List.nil_prefix

theorem IsApart.tail {name : String} {names path : List String}
    (h : IsApart (name :: names) (name :: path)) : IsApart names path :=
  ⟨fun hbelow => h.1 ((List.prefix_cons_inj name).mpr hbelow),
    fun hbelow => h.2 ((List.prefix_cons_inj name).mpr hbelow)⟩

/-! ## Changes in fields -/

/-- A change in fields leaves the rest of the fields alone. -/
theorem at?_of_changeAt {text : String} {path names : List String} {fields changed : Fields}
    {value : Document} (h : changeAt text path fields = .ok (value, changed))
    (hnames : IsApart names path) :
    (Document.object changed).at? names = (Document.object fields).at? names := by
  induction path generalizing fields changed names with
  | nil => cases h
  | cons last path ih =>
      obtain ⟨name, more, rfl⟩ := List.exists_cons_of_ne_nil hnames.ne_nil
      have hother : ∀ d, name ≠ last →
          (Document.object (fields.put (.text last) d)).at? (name :: more) =
            (Document.object fields).at? (name :: more) := by
        intro d hne
        change (Fields.get? name (Fields.put (.text last) d fields)).bind _ = _
        rw [Fields.get?_put, if_neg hne]
        rfl
      cases path with
      | nil =>
          rw [changeAt] at h
          split at h
          · cases h
          · obtain ⟨d, -, heq⟩ := bind_eq_ok_iff.mp h
            cases heq
            refine hother _ ?_
            rintro rfl
            exact hnames.2 ⟨more, rfl⟩
      | cons next path =>
          rw [changeAt] at h
          split at h
          · rename_i inner hinner
            obtain ⟨⟨d, innerChanged⟩, hchanged, heq⟩ := bind_eq_ok_iff.mp h
            cases heq
            by_cases hname : name = last
            · subst hname
              have hrest := ih hchanged hnames.tail
              change (Fields.get? name (Fields.put (.text name) _ fields)).bind _ =
                (Fields.get? name fields).bind _
              rw [Fields.get?_put, if_pos rfl, hinner]
              exact hrest
            · exact hother _ hname
          · cases h
          · simp

/-! ## Changes of settings -/

/-- Whatever stands apart from a path is the same in fields as in the record of settings. -/
def IsSameApartFrom (path : List String) (s : Settings) (fields : Fields) : Prop :=
  ∀ names, IsApart names path → (Document.object fields).at? names = s.encode.at? names

theorem getIn?_eq_at? (part key : String) (fields : Fields) :
    Fields.getIn? part key fields = (Document.object fields).at? [part, key] := by
  change ((Fields.get? part fields).getD .null).get? key =
    (Fields.get? part fields).bind fun d => (d.get? key).bind some
  cases Fields.get? part fields with
  | none => rfl
  | some d => simp

theorem lookup_eq_none_of_notMem {name : String} {pairs : List (String × Document)}
    (h : name ∉ pairs.map Prod.fst) : pairs.lookup name = none := by
  rw [List.lookup_eq_none_iff]
  intro p hp
  rw [bne_iff_ne]
  rintro rfl
  exact h (List.mem_map_of_mem hp)

theorem Document.at?_ofPairs (pairs : List (String × Document)) (name : String)
    (rest : List String) :
    (ofPairs pairs).at? (name :: rest) = (pairs.lookup name).bind (at? rest) :=
  congrArg (Option.bind · (at? rest)) (Fields.get?_pairs name pairs)

/-- What is no object has nothing below it. -/
theorem Document.at?_congr {d e : Document} {names : List String} (hd : d.isObject = false)
    (he : e.isObject = false) (h : names = [] → d = e) : d.at? names = e.at? names := by
  have hnone : ∀ {d : Document}, d.isObject = false → ∀ name, d.get? name = none := by
    intro d hd name
    cases d with
    | object => cases hd
    | scalar | list => rfl
  cases names with
  | nil => rw [h rfl]
  | cons name rest => rw [at?, at?, hnone hd, hnone he]

theorem Document.isObject_encodeInt? (n : Option Int) : (encodeInt? n).isObject = false := by
  cases n <;> rfl

theorem Document.isObject_ofText? (text : Option String) : (ofText? text).isObject = false := by
  cases text <;> rfl

variable {path : List String} {s changed : Settings} {fields : Fields}

/-- A setting apart from the path is read from the same document as before. -/
theorem IsSameApartFrom.eq_of_isTaken {α : Type} {reader : Document → Reading α}
    {default a b : α} {part key : String} {d : Document} (h : IsSameApartFrom path s fields)
    (hnames : IsApart [part, key] path) (hd : s.encode.at? [part, key] = some d)
    (hback : reader d = .read a)
    (htaken : IsTaken reader default (Fields.getIn? part key fields) b) : b = a := by
  rw [getIn?_eq_at?, h _ hnames, hd] at htaken
  exact Reading.read.inj (htaken.symm.trans hback)

/-- The completions, each as it was where it is apart from the path. -/
theorem IsSameApartFrom.completions (h : IsSameApartFrom path s fields)
    (hs : s.generator.HasPatterns) (hread : changed.IsReadFrom fields) {names : List String}
    (hnames : IsApart ("generator" :: "dynamic_completions" :: names) path) :
    (ofPairs (changed.generator.completions.map fun c => (c.1, .text c.2))).at? names =
      (ofPairs (s.generator.completions.map fun c => (c.1, .text c.2))).at? names := by
  have htaken := hread.generatorPart_isReadFrom.2.completions
  cases names with
  | nil =>
      have hsame : changed.generator.completions = s.generator.completions :=
        h.eq_of_isTaken hnames rfl (readCompletions_eq_read_iff.mpr ⟨rfl, hs⟩) htaken
      rw [hsame]
  | cons name rest =>
      change IsTaken _ _ (Fields.getIn? generatorPart "dynamic_completions" fields) _ at htaken
      have hfields : (Document.object fields).at? ("generator" :: "dynamic_completions" :: name ::
          rest) = (Fields.getIn? generatorPart "dynamic_completions" fields).bind
            (at? (name :: rest)) := by
        change ((Fields.get? generatorPart fields).bind fun d => (d.get? _).bind _) =
          (((Fields.get? generatorPart fields).getD .null).get? _).bind _
        cases Fields.get? generatorPart fields <;> rfl
      refine Eq.trans ?_ (h _ hnames)
      rw [hfields]
      cases hget : Fields.getIn? generatorPart "dynamic_completions" fields with
      | none =>
          rw [hget] at htaken
          rw [show changed.generator.completions = [] from htaken]
          rfl
      | some d =>
          rw [hget] at htaken
          rw [(readCompletions_eq_read_iff.mp htaken).1]
          rfl

/-- The settings for generation, each as it was where it is apart from the path. -/
theorem IsSameApartFrom.generator (h : IsSameApartFrom path s fields)
    (hs : s.generator.HasPatterns) (hread : changed.IsReadFrom fields) {names : List String}
    (hnames : IsApart ("generator" :: names) path) :
    changed.generator.encode.at? names = s.generator.encode.at? names := by
  obtain ⟨hcommand, hdepth, hworkers, hdispatcher, hunwrap, -⟩ := hread.generatorPart_isReadFrom.2
  replace hcommand : IsApart ["generator", "command_prefix"] path → _ :=
    fun hapart => h.eq_of_isTaken hapart rfl (text_text _) hcommand
  replace hdepth : IsApart ["generator", "max_depth"] path → _ :=
    fun hapart => h.eq_of_isTaken hapart rfl (optional_encodeInt? _) hdepth
  replace hworkers : IsApart ["generator", "workers"] path → _ :=
    fun hapart => h.eq_of_isTaken hapart rfl (integer_int _) hworkers
  replace hdispatcher : IsApart ["generator", "dispatcher"] path → _ :=
    fun hapart => h.eq_of_isTaken hapart rfl (text_text _) hdispatcher
  replace hunwrap : IsApart ["generator", "unwrap_list_outputs"] path → _ :=
    fun hapart => h.eq_of_isTaken hapart rfl (boolean_bool _) hunwrap
  cases names with
  | nil =>
      have hcompletions := h.completions hs hread (hnames.append ["dynamic_completions"])
      change some (GeneratorSettings.encode _) = some (GeneratorSettings.encode _)
      rw [GeneratorSettings.encode, GeneratorSettings.encode, hcommand (hnames.append _),
        hdepth (hnames.append _), hworkers (hnames.append _), hdispatcher (hnames.append _),
        hunwrap (hnames.append _), Option.some.inj hcompletions]
  | cons name rest =>
      rw [GeneratorSettings.encode, GeneratorSettings.encode, at?_ofPairs, at?_ofPairs]
      by_cases hname : name ∈ ["command_prefix", "max_depth", "workers", "dispatcher",
        "unwrap_list_outputs", "dynamic_completions"]
      · simp only [List.mem_cons, List.not_mem_nil, or_false] at hname
        rcases hname with rfl | rfl | rfl | rfl | rfl | rfl
        · refine at?_congr rfl rfl ?_
          rintro rfl
          rw [hcommand hnames]
        · refine at?_congr (isObject_encodeInt? _) (isObject_encodeInt? _) ?_
          rintro rfl
          rw [hdepth hnames]
        · refine at?_congr rfl rfl ?_
          rintro rfl
          rw [hworkers hnames]
        · refine at?_congr rfl rfl ?_
          rintro rfl
          rw [hdispatcher hnames]
        · refine at?_congr rfl rfl ?_
          rintro rfl
          rw [hunwrap hnames]
        · exact h.completions hs hread hnames
      · rw [lookup_eq_none_of_notMem hname, lookup_eq_none_of_notMem hname]

/-- All settings, each as it was where it is apart from the path. -/
theorem IsSameApartFrom.settings (h : IsSameApartFrom path s fields)
    (hs : s.generator.HasPatterns) (hread : changed.IsReadFrom fields) :
    IsSameApartFrom path s changed.encode.fields := by
  have hdirectory : IsApart ["output_dir"] path → changed.outputDir = s.outputDir := by
    intro hapart
    have hsame : Fields.get? "output_dir" fields = some (ofText? s.outputDir) :=
      (Option.bind_fun_some _).symm.trans (h _ hapart)
    have htaken := hread.outputDir
    rw [hsame] at htaken
    exact Reading.read.inj (Eq.trans (Eq.symm htaken) (optional_ofText? _))
  have hformat : IsApart ["output", "format"] path → changed.format = s.format :=
    fun hapart => h.eq_of_isTaken hapart rfl (text_text _) hread.isTakenFrom.1.format
  intro names hnames
  obtain ⟨name, rest, rfl⟩ := List.exists_cons_of_ne_nil hnames.ne_nil
  change changed.encode.at? _ = _
  rw [Settings.encode, Settings.encode, at?_ofPairs, at?_ofPairs]
  by_cases hname : name ∈ ["output_dir", "generator", "output"]
  · simp only [List.mem_cons, List.not_mem_nil, or_false] at hname
    rcases hname with rfl | rfl | rfl
    · refine at?_congr (isObject_ofText? _) (isObject_ofText? _) ?_
      rintro rfl
      rw [hdirectory hnames]
    · exact h.generator hs hread hnames
    · change (ofPairs _).at? rest = (ofPairs _).at? rest
      cases rest with
      | nil => rw [hformat (hnames.append ["format"])]
      | cons key rest =>
          rw [at?_ofPairs, at?_ofPairs]
          by_cases hkey : key ∈ ["format"]
          · obtain rfl := List.mem_singleton.mp hkey
            refine at?_congr rfl rfl ?_
            rintro rfl
            rw [hformat hnames]
          · rw [lookup_eq_none_of_notMem hkey, lookup_eq_none_of_notMem hkey]
  · rw [lookup_eq_none_of_notMem hname, lookup_eq_none_of_notMem hname]

/-- A change of settings leaves alone what stands apart from the key. -/
theorem Settings.at?_encode_of_change {key text : String} {value : Document}
    (hs : s.generator.HasPatterns) (h : s.change key text = .ok (value, changed))
    {names : List String} (hnames : IsApart names (key.splitOn ".")) :
    changed.encode.at? names = s.encode.at? names := by
  obtain ⟨⟨_, fields⟩, hchange, h⟩ := bind_eq_ok_iff.mp h
  cases hdecode : decode (.object fields) with
  | error failure =>
      simp only [hdecode] at h
      cases h
  | ok settings =>
      simp only [hdecode] at h
      cases h
      obtain ⟨_, ⟨⟩, hread⟩ := decode_eq_ok_iff.mp hdecode
      have hsame : IsSameApartFrom (key.splitOn ".") s fields :=
        fun names hapart => at?_of_changeAt hchange hapart
      exact hsame.settings hs hread names hnames

end ServiceShell
