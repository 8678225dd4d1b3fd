import Mathlib.Data.Bool.AllAny
import ServiceShell.Proofs.Command.Configured
import ServiceShell.Proofs.Text.Split

/-!
# How much the user wants to see

Two options of the program say how much of a report the user wants to see.  They stand in front of
the name of a command, in any order and number, by their long forms or by their letters.  Two
command lines that differ in nothing else are told apart into lines that differ in these options
only.  Where colours are not wanted, the two runs do and say the same: they print the same data, end
with the same code and leave the same files.  Only how much of the report the standard error shows
is different.

Main results:

- Definition `Line.withoutDisplayWords`: the words of a command line but for those that say how much
  the user wants to see.
- Theorem `Line.withoutDisplayWords_added`: such words may be added in front of the name of a
  command.
- Theorem `Line.read_withoutDisplayWords`: what the other words come to.
- Theorem `Invocation.withoutDisplay_ofWords`: what they ask for.
- Theorem `run_of_withoutDisplayWords_eq`: two runs that differ in how much the user wants to see.
-/

namespace ServiceShell

namespace Line

/-! ## Words -/

/-- The options that say how much the user wants to see. -/
def displayOptions : List String := ["--quiet", "--verbose"]

/-- The letters of their short forms. -/
def displayLetters : List Char := ['q', 'v']

/-- Whether a word says how much the user wants to see, and nothing else. -/
def isDisplayWord (word : String) : Bool :=
  displayOptions.contains word ||
    match word.toList with
    | '-' :: c :: rest => (c :: rest).all displayLetters.contains
    | _ => false

/-- Whether a word in front of the name of a command holds options of the program. -/
def isProgramWord (word : String) : Bool := isOptionWord word.toList && word ≠ endWord

/-- The words in front of the name of a command. -/
def programWords (words : List String) : List String := words.takeWhile isProgramWord

/-- The words of a command line but for those that say how much the user wants to see. -/
def withoutDisplayWords (words : List String) : List String :=
  (programWords words).filter (!isDisplayWord ·) ++ words.dropWhile isProgramWord

variable {word : String} {words rest : List String}

theorem withoutDisplayWords_of_isProgramWord (h : isProgramWord word = true) :
    withoutDisplayWords (word :: rest) =
      if isDisplayWord word then withoutDisplayWords rest
      else word :: withoutDisplayWords rest := by
  by_cases hdisplay : isDisplayWord word <;>
    simp [withoutDisplayWords, programWords, h, hdisplay]

theorem withoutDisplayWords_of_not_isProgramWord (h : ¬ isProgramWord word = true) :
    withoutDisplayWords (word :: rest) = word :: rest := by
  simp [withoutDisplayWords, programWords, h]

theorem isDisplayWord_iff :
    isDisplayWord word = true ↔ word ∈ displayOptions ∨
      ∃ c rest, word.toList = '-' :: c :: rest ∧ ∀ letter ∈ c :: rest, letter ∈ displayLetters := by
  rw [isDisplayWord, Bool.or_eq_true, List.contains_iff_mem]
  refine or_congr_right ?_
  split
  · rename_i c rest hword
    rw [hword]
    simp
  · rename_i hword
    simpa using fun c rest heq => absurd heq (hword c rest)

theorem isProgramWord_of_isDisplayWord (h : isDisplayWord word = true) :
    isProgramWord word = true := by
  rcases isDisplayWord_iff.mp h with hlong | ⟨c, rest, hword, hletters⟩
  · have hall : ∀ long ∈ displayOptions, isProgramWord long = true := by decide
    exact hall word hlong
  · have hend : word ≠ endWord := by
      rintro rfl
      have hsecond : ['-', '-'] = '-' :: c :: rest := hword
      cases hsecond
      exact absurd (hletters '-' (by simp)) (by decide)
    simp [isProgramWord, isOptionWord, hword, hend]

/-- Words that say how much the user wants to see may be added anywhere in front of the name of a
command. -/
theorem withoutDisplayWords_added (front added rest : List String)
    (hfront : ∀ word ∈ front, isProgramWord word = true)
    (hadded : ∀ word ∈ added, isDisplayWord word = true) :
    withoutDisplayWords (front ++ (added ++ rest)) = withoutDisplayWords (front ++ rest) := by
  induction front with
  | nil =>
      induction added with
      | nil => rfl
      | cons word added ih =>
          have hword := hadded word (by simp)
          rw [List.cons_append, List.nil_append,
            withoutDisplayWords_of_isProgramWord (isProgramWord_of_isDisplayWord hword),
            if_pos hword]
          exact ih fun word h => hadded word (by simp [h])
  | cons word front ih =>
      have hword := hfront word (by simp)
      have hrest := ih fun word h => hfront word (by simp [h])
      rw [List.cons_append, List.cons_append, withoutDisplayWords_of_isProgramWord hword,
        withoutDisplayWords_of_isProgramWord hword, hrest]

/-! ## Lines -/

/-- The options that say something else. -/
def otherOptions (options : List (String × String)) : List (String × String) :=
  options.filter fun o => !displayOptions.contains o.1

/-- A line without the options that say how much the user wants to see. -/
def withoutDisplay (line : Line) : Line := { line with options := otherOptions line.options }

@[simp] theorem arguments_withoutDisplay (line : Line) :
    line.withoutDisplay.arguments = line.arguments := rfl

/-- The other options are still there. -/
theorem has_withoutDisplay {long : String} (h : long ∉ displayOptions) (line : Line) :
    line.withoutDisplay.has long = line.has long := by
  rw [has, withoutDisplay, has, otherOptions, List.any_filter]
  refine congrArg (List.any _) (funext fun o => ?_)
  by_cases hlong : o.1 = long
  · simp [hlong, h]
  · simp [hlong]

theorem withoutDisplay_addOptions (options : List (String × String)) (line : Line) :
    (line.addOptions options).withoutDisplay =
      line.withoutDisplay.addOptions (otherOptions options) := by
  simp [withoutDisplay, addOptions, otherOptions]

theorem map_addOptions_nil (result : Except LineProblem Line) :
    result.map (addOptions []) = result := by
  cases result with
  | error problem => rfl
  | ok line => rfl

theorem map_withoutDisplay_addOptions (options : List (String × String))
    (result : Except LineProblem Line) :
    (result.map (addOptions options)).map withoutDisplay =
      (result.map withoutDisplay).map (addOptions (otherOptions options)) := by
  cases result with
  | error problem => rfl
  | ok line => exact congrArg Except.ok (withoutDisplay_addOptions options line)

/-! ## Options -/

section

variable {forms : List OptionForm} {cs : List Char} {w : WordOptions}

/-- Letters of options that take no value leave no value missing. -/
theorem open?_readLetters (hforms : ∀ f ∈ forms, f.takesValue = false)
    (h : readLetters forms cs = .ok w) : w.open? = none := by
  induction cs generalizing w with
  | nil =>
      cases h
      rfl
  | cons c rest ih =>
      simp only [readLetters] at h
      split at h
      · cases h
      · rename_i f hf
        rw [if_neg (by simp [hforms f (List.mem_of_find?_eq_some hf)])] at h
        cases hrest : readLetters forms rest with
        | error problem =>
            rw [hrest] at h
            cases h
        | ok last =>
            rw [hrest] at h
            cases h
            exact @ih last hrest

/-- Where no option takes a value, a word leaves no value missing. -/
theorem open?_readOptions (hforms : ∀ f ∈ forms, f.takesValue = false)
    (h : readOptions forms cs = .ok w) : w.open? = none := by
  simp only [readOptions] at h
  split at h
  · split at h
    · cases h
      rfl
    · cases h
  · rename_i f hf _
    rw [if_neg (by simp [hforms f (List.mem_of_find?_eq_some hf)])] at h
    cases h
    rfl
  · split at h
    · cases h
    · exact open?_readLetters hforms h

end

/-- A word without an equals sign is a form. -/
theorem splitWord_of_forall_ne (h : ∀ c ∈ word.toList, c ≠ '=') :
    splitWord word.toList = (word, none) := by
  have hnone : word.toList.dropWhile (· ≠ '=') = [] :=
    List.dropWhile_eq_nil_iff.mpr (by simpa using h)
  rw [splitWord, hnone, String.ofList_toList]

theorem takesValue_programExplanation :
    ∀ f ∈ programExplanation.options, f.takesValue = false := by decide

theorem readLetters_display {cs : List Char} (h : ∀ c ∈ cs, c ∈ displayLetters) :
    ∃ complete, readLetters programExplanation.options cs = .ok ⟨complete, none⟩ ∧
      ∀ o ∈ complete, o.1 ∈ displayOptions := by
  induction cs with
  | nil => exact ⟨[], rfl, by simp⟩
  | cons c rest ih =>
      obtain ⟨complete, hread, hcomplete⟩ := ih fun c hc => h c (by simp [hc])
      have hletter : ∀ c ∈ displayLetters,
          ∃ f ∈ programExplanation.options.find? fun f => f.letter = some c,
            f.takesValue = false ∧ f.long ∈ displayOptions :=
        List.all_iff_forall_prop.mp (by decide)
      obtain ⟨f, hf, hvalue, hlong⟩ := hletter c (h c (by simp))
      rw [Option.mem_def] at hf
      refine ⟨(f.long, "") :: complete, ?_, ?_⟩
      · simp [readLetters, hf, hvalue, hread, Except.map]
      · simpa [hlong] using hcomplete

/-- What a word that says how much the user wants to see comes to. -/
theorem readOptions_display (h : isDisplayWord word = true) :
    ∃ complete, readOptions programExplanation.options word.toList = .ok ⟨complete, none⟩ ∧
      ∀ o ∈ complete, o.1 ∈ displayOptions := by
  rcases isDisplayWord_iff.mp h with hlong | ⟨c, rest, hword, hletters⟩
  · refine ⟨[(word, "")], ?_, by simpa using hlong⟩
    simp only [displayOptions, List.mem_cons, List.not_mem_nil, or_false] at hlong
    obtain rfl | rfl := hlong
    · rfl
    · rfl
  · obtain ⟨complete, hread, hcomplete⟩ := readLetters_display hletters
    refine ⟨complete, ?_, hcomplete⟩
    have hsigns : ∀ letter ∈ displayLetters, letter ≠ '=' :=
      List.all_iff_forall_prop.mp (by decide)
    have hsplit : splitWord word.toList = (word, none) := by
      refine splitWord_of_forall_ne ?_
      rw [hword]
      exact List.forall_mem_cons.mpr ⟨by decide, fun letter h => hsigns letter (hletters letter h)⟩
    have hc : c ≠ '-' := by
      rintro rfl
      exact absurd (hletters '-' (by simp)) (by decide)
    -- A long form has a second hyphen, so that the word is read letter by letter.
    have hlongs : programExplanation.options.find? (fun f => f.long = word) = none := by
      have hlong : ∀ f ∈ programExplanation.options, f.long.toList[1]? = some '-' := by decide
      refine List.find?_eq_none.mpr fun f hf hword' => hc ?_
      have hsecond := hlong f hf
      rw [of_decide_eq_true hword', hword] at hsecond
      simpa using hsecond
    simp only [readOptions, hsplit, hlongs]
    rw [hword]
    simpa [hc] using hread

/-! ## Reading -/

/-- A word in front of the name of a command adds its options to what the other words come to. -/
theorem read_programWord (h : isProgramWord word = true) (rest : List String) :
    read programExplanation.options false (word :: rest) =
      match readOptions programExplanation.options word.toList with
      | .error problem => .error problem
      | .ok w => (read programExplanation.options false rest).map (addOptions w.complete) := by
  obtain ⟨hoption, hend⟩ : isOptionWord word.toList = true ∧ word ≠ endWord := by
    simpa [isProgramWord] using h
  rw [read, readWords, if_neg hend, if_pos hoption]
  cases hread : readOptions programExplanation.options word.toList with
  | error problem => rfl
  | ok w => simp only [open?_readOptions takesValue_programExplanation hread, read]

/-- Words that differ in how much the user wants to see come to lines that differ in nothing else,
or have the same problem. -/
theorem read_withoutDisplayWords (words : List String) :
    (read programExplanation.options false (withoutDisplayWords words)).map withoutDisplay =
      (read programExplanation.options false words).map withoutDisplay := by
  induction words with
  | nil => rfl
  | cons word rest ih =>
      by_cases hprogram : isProgramWord word = true
      · rw [withoutDisplayWords_of_isProgramWord hprogram, read_programWord hprogram]
        split
        -- Either the word adds options that are left out again, or it is there on both sides.
        · rename_i hdisplay
          obtain ⟨complete, hread, hcomplete⟩ := readOptions_display hdisplay
          have hnone : otherOptions complete = [] := by
            simpa [otherOptions, List.filter_eq_nil_iff] using hcomplete
          simp only [hread, map_withoutDisplay_addOptions, hnone, ih, map_addOptions_nil]
        · rw [read_programWord hprogram]
          cases readOptions programExplanation.options word.toList with
          | error problem => rfl
          | ok w => simp only [map_withoutDisplay_addOptions, ih]
      · rw [withoutDisplayWords_of_not_isProgramWord hprogram]

/-- An option without a value is given to the program. -/
theorem has_of_mem_programWords {long : String} {line : Line}
    (hoption : readOptions programExplanation.options long.toList = .ok ⟨[(long, "")], none⟩)
    (hlong : long ∈ programWords words)
    (h : read programExplanation.options false words = .ok line) : line.has long = true := by
  induction words generalizing line with
  | nil => cases hlong
  | cons word rest ih =>
      by_cases hprogram : isProgramWord word = true
      · rw [programWords, List.takeWhile_cons, if_pos hprogram, List.mem_cons] at hlong
        rw [read_programWord hprogram] at h
        split at h
        · cases h
        · rename_i w hw
          cases hrest : read programExplanation.options false rest with
          | error problem =>
              rw [hrest] at h
              cases h
          | ok last =>
              rw [hrest] at h
              cases h
              rcases hlong with rfl | hlong
              · rw [hoption] at hw
                cases hw
                simp [has, addOptions]
              · have hlast := ih hlong hrest
                rw [has] at hlast
                simp only [has, addOptions, List.any_append, hlast, Bool.or_true]
      · rw [programWords, List.takeWhile_cons, if_neg hprogram] at hlong
        cases hlong

end Line

/-! ## Invocations -/

namespace Invocation

open Line

variable {words more : List String}

/-- What a command line asks for, but for how much the user wants to see. -/
def withoutDisplay : Invocation → Invocation
  | .text code event => .text code event
  | .start options request => .start options.withoutDisplay request

theorem textOption?_withoutDisplay (line : Line) :
    textOption? line.withoutDisplay = textOption? line := by
  have htext : ∀ long, long = "--version" ∨ long = helpOption.long → long ∉ displayOptions := by
    intro long hlong
    obtain rfl | rfl := hlong
    · decide
    · decide
  simp only [textOption?, Line.withoutDisplay, otherOptions, List.find?_map, List.find?_filter]
  refine congrArg (Option.map _) (congrArg (List.find? · line.options) (funext fun o => ?_))
  simpa using htext o.1

theorem withoutDisplay_unknown (name : String) : (unknown name).withoutDisplay = unknown name := by
  rw [unknown]
  split
  · rfl
  · rfl

theorem withoutDisplay_ofLine (line : Line) :
    (ofLine line).withoutDisplay = ofLine line.withoutDisplay := by
  rw [ofLine, ofLine, textOption?_withoutDisplay, arguments_withoutDisplay]
  cases textOption? line with
  | some option => rfl
  | none =>
      cases line.arguments with
      | nil => rfl
      | cons name rest =>
          cases hrequest : request? name rest with
          | some request =>
              simp only [hrequest]
              rfl
          | none => simp only [hrequest, withoutDisplay_unknown]

/-- What a command line asks for depends on how much the user wants to see in nothing else. -/
theorem withoutDisplay_ofWords_eq (h : words ≠ []) :
    (ofWords words).withoutDisplay =
      match (Line.read programExplanation.options false words).map Line.withoutDisplay with
      | .error p => .text 2 (.message (programExplanation.problemText p))
      | .ok line => ofLine line := by
  rw [ofWords, if_neg (by simpa using h)]
  cases Line.read programExplanation.options false words with
  | error problem => rfl
  | ok line => exact withoutDisplay_ofLine line

/-- Command lines that differ in how much the user wants to see ask for the same. -/
theorem withoutDisplay_ofWords (hwords : words ≠ []) (hmore : more ≠ [])
    (h : withoutDisplayWords more = withoutDisplayWords words) :
    (ofWords more).withoutDisplay = (ofWords words).withoutDisplay := by
  rw [withoutDisplay_ofWords_eq hwords, withoutDisplay_ofWords_eq hmore,
    ← Line.read_withoutDisplayWords, h, Line.read_withoutDisplayWords]

theorem ofLine_eq_start {line options : Line} {request : Request}
    (h : ofLine line = .start options request) : options = line := by
  rw [ofLine] at h
  cases htext : textOption? line with
  | some option =>
      rw [htext] at h
      cases h
  | none =>
      rw [htext] at h
      cases harguments : line.arguments with
      | nil =>
          rw [harguments] at h
          cases h
      | cons name rest =>
          cases hrequest : request? name rest with
          | some request' =>
              simp only [harguments, hrequest] at h
              cases h
              rfl
          | none =>
              simp only [harguments, hrequest, unknown] at h
              split at h
              · cases h
              · cases h

/-- The options of the program are those that its words come to. -/
theorem read_of_ofWords_eq_start {options : Line} {request : Request}
    (h : ofWords words = .start options request) :
    Line.read programExplanation.options false words = .ok options := by
  rw [ofWords] at h
  split at h
  · cases h
  · split at h
    · cases h
    · rename_i line hread
      rw [hread, ofLine_eq_start h]

end Invocation

/-! ## Runs -/

namespace Action

theorem hasColour_withoutDisplay (options : Line) (w : Workspace) :
    hasColour options.withoutDisplay w = hasColour options w := by
  rw [hasColour, Line.has_withoutDisplay (by decide), hasColour]

theorem hasColour_of_has {options : Line} (h : options.has "--no-color" = true) (w : Workspace) :
    hasColour options w = false := by
  rw [hasColour, h]
  rfl

/-- The format does not depend on how much the user wants to see. -/
theorem format_withoutDisplay (options : Line) :
    format options.withoutDisplay = format options := by
  simp only [format, hasColour_withoutDisplay,
    Line.has_withoutDisplay (show "--json" ∉ Line.displayOptions by decide),
    Line.has_withoutDisplay (show "--plain" ∉ Line.displayOptions by decide)]

theorem start_withoutDisplay (options : Line) (request : Request) :
    start options.withoutDisplay request = start options request := by
  rw [start, format_withoutDisplay, start]

/-- Where colours are not wanted, every remark can be shown. -/
theorem showsRemark_of_not_hasColour {options : Line} {w : Workspace}
    (h : hasColour options w = false) (display : Display) :
    showsRemark options display w = fun _ _ => true := by
  funext kind text
  rw [showsRemark, h]
  rfl

end Action

section

variable {words more : List String} {w : Workspace}

/-- Where colours are not wanted, two runs that are asked for the same but for how much the user
wants to see come to the same but for that. -/
theorem run_of_withoutDisplay_eq
    (h : (Invocation.ofWords more).withoutDisplay = (Invocation.ofWords words).withoutDisplay)
    (hcolour : ∀ options request, Invocation.ofWords words = .start options request →
      Action.hasColour options w = false) :
    run more w = { run words w with display := (run more w).display } := by
  cases hwords : Invocation.ofWords words with
  | text code event =>
      rw [hwords] at h
      cases hmore : Invocation.ofWords more with
      | text code' event' =>
          rw [hmore] at h
          cases h
          simp only [run, hwords, hmore]
      | start options request =>
          rw [hmore] at h
          cases h
  | start options request =>
      have hdull := hcolour options request hwords
      rw [hwords] at h
      cases hmore : Invocation.ofWords more with
      | text code event =>
          rw [hmore] at h
          cases h
      | start options' request' =>
          rw [hmore] at h
          obtain ⟨hoptions, rfl⟩ : options'.withoutDisplay = options.withoutDisplay ∧
              request' = request := by simpa [Invocation.withoutDisplay] using h
          have hdull' : Action.hasColour options' w = false := by
            rw [← Action.hasColour_withoutDisplay, hoptions, Action.hasColour_withoutDisplay, hdull]
          have hstart : Action.start options' request' = Action.start options request' := by
            rw [← Action.start_withoutDisplay, hoptions, Action.start_withoutDisplay]
          simp only [run, hwords, hmore, hstart, Action.showsRemark_of_not_hasColour hdull,
            Action.showsRemark_of_not_hasColour hdull']

/-- With `--no-color`, how much the user wants to see changes neither the standard output nor the
code nor any file.  The report is the same too, so that only how much of it the standard error shows
is different. -/
theorem run_of_withoutDisplayWords_eq (w : Workspace)
    (hcolour : "--no-color" ∈ Line.programWords words)
    (hsame : Line.withoutDisplayWords more = Line.withoutDisplayWords words) :
    (run more w).output = (run words w).output ∧ (run more w).code = (run words w).code ∧
      (run more w).workspace = (run words w).workspace ∧
      (run more w).errors = (run more w).display.errors (run words w).events := by
  have hkept : "--no-color" ∈ Line.withoutDisplayWords words :=
    List.mem_append_left _ (List.mem_filter.mpr ⟨hcolour, by decide⟩)
  have hwords : words ≠ [] := by
    rintro rfl
    cases hcolour
  have hmore : more ≠ [] := by
    rintro rfl
    rw [← hsame] at hkept
    cases hkept
  have hdull : ∀ options request, Invocation.ofWords words = .start options request →
      Action.hasColour options w = false := fun options request hstart =>
    Action.hasColour_of_has (Line.has_of_mem_programWords rfl hcolour
      (Invocation.read_of_ofWords_eq_start hstart)) w
  have hrun := run_of_withoutDisplay_eq (Invocation.withoutDisplay_ofWords hwords hmore hsame) hdull
  rw [Outcome.errors, hrun]
  exact ⟨rfl, rfl, rfl, rfl⟩

end

/-! ## A question that is answered with no -/

/-- A workspace in which every question is answered with no. -/
def decliningWorkspace : Workspace := { freshWorkspace with input := "n" }

/-- The words for the defaults, in front of which nothing says how much the user wants to see. -/
def resetWords : List String := ["--no-color", "--plain", "config", "reset"]

/-- Words that say in several ways how much the user wants to see. -/
def quietWords : List String := ["-v", "-qv", "--quiet"]

namespace Action

/-- Whoever does not want to lose the settings keeps them. -/
theorem run_resetSettings_of_no {s : Scene} {events : List Event}
    (h : confirm resetQuestion (linesOf s.workspace.input) = (events, .no)) :
    (resetSettings false).run s =
      (remark .info "Cancelled.").run
        ⟨{ s.workspace with input := "" }, s.events ++ events, s.shows⟩ := by
  have hread : (perform Job.readInput).run s =
      (.ok s.workspace.input, { s with workspace := { s.workspace with input := "" } }) := rfl
  rw [resetSettings, if_neg (by decide), run_bind, hread]
  simp only [h]
  rfl

end Action

theorem confirm_decliningWorkspace (question : String) :
    confirm question (linesOf decliningWorkspace.input) = ([.question question], .no) := by
  have hsplit : "n".splitOn "\n" = ["n"] :=
    (Text.splitOn_ofList "n" '\n').trans (by decide +kernel)
  have hlines : linesOf decliningWorkspace.input = ["n"] := by
    change linesOf "n" = ["n"]
    rw [linesOf, hsplit]
    rfl
  rw [hlines]
  exact confirm_yes (by decide +kernel) []

theorem run_resetWords :
    run resetWords decliningWorkspace =
      ⟨0, {}, [.question Action.resetQuestion, .remark .info "Cancelled."], freshWorkspace⟩ := by
  let options : Line := ⟨[("--no-color", ""), ("--plain", "")], ["config", "reset"]⟩
  let scene : Scene := { workspace := decliningWorkspace }
  have hwords : Invocation.ofWords resetWords =
      .start options (.command (.resetSettings false)) := rfl
  have hstart : (Action.start options (.command (.resetSettings false))).run scene =
      (Action.resetSettings false).run scene := rfl
  have hrun := hstart.trans
    (Action.run_resetSettings_of_no (s := scene) (confirm_decliningWorkspace _))
  have hdull : Action.hasColour options decliningWorkspace = false :=
    Action.hasColour_of_has (by decide) decliningWorkspace
  rw [run, hwords]
  simp only [Action.showsRemark_of_not_hasColour hdull]
  rw [Action.finish_congr hrun]
  rfl

/-- The question is printed all the same, and the settings are kept; that nothing was done is not
told to a user who wants quiet. -/
theorem run_of_withoutDisplayWords_eq_resetWords :
    "--no-color" ∈ Line.programWords resetWords ∧
      Line.withoutDisplayWords (quietWords ++ resetWords) = Line.withoutDisplayWords resetWords ∧
      (run (quietWords ++ resetWords) decliningWorkspace).output = Action.resetQuestion ∧
      (run (quietWords ++ resetWords) decliningWorkspace).code = 0 ∧
      (run (quietWords ++ resetWords) decliningWorkspace).workspace = freshWorkspace ∧
      (run (quietWords ++ resetWords) decliningWorkspace).errors = "" ∧
      (run resetWords decliningWorkspace).errors = "Cancelled.\n" := by
  have hcolour : "--no-color" ∈ Line.programWords resetWords := by decide
  have hsame : Line.withoutDisplayWords (quietWords ++ resetWords) =
      Line.withoutDisplayWords resetWords :=
    Line.withoutDisplayWords_added [] quietWords resetWords (by decide) (by decide)
  obtain ⟨houtput, hcode, hworkspace, herrors⟩ :=
    run_of_withoutDisplayWords_eq decliningWorkspace hcolour hsame
  rw [houtput, hcode, hworkspace, herrors, run_resetWords]
  exact ⟨hcolour, hsame, by decide +kernel, rfl, rfl, by decide +kernel, by decide +kernel⟩

end ServiceShell
