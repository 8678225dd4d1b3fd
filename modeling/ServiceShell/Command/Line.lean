import ServiceShell.Text.Case

/-!
# Command lines

How the words of a command line are told apart: options with and without values, and arguments. An
option has a long form, and may have a short one of one letter. A value follows in the next word,
or in the same one. After two hyphens alone all words are arguments.

Main statements:

- `Line.readWords_plain`: words that are no options are arguments, in order.
-/

namespace ServiceShell

/-! ## Options -/

/-- An option that a command knows. -/
structure OptionForm where
  /-- The long form, with its hyphens. -/
  long : String
  /-- The letter of the short form. -/
  letter : Option Char := none
  /-- Whether a value belongs to it. -/
  takesValue : Bool := false
  /-- What it is for. -/
  purpose : String
  deriving DecidableEq, Repr

/-- What is wrong with a command line. -/
inductive LineProblem where
  /-- No option has a form. -/
  | unknownOption (form : String)
  /-- The value of an option is missing. -/
  | missingValue (option : String)
  /-- An option is given a value, but takes none. -/
  | needlessValue (option : String)
  /-- An argument is missing. -/
  | missingArgument (name : String)
  /-- There is an argument too many. -/
  | extraArgument (text : String)
  /-- The value of an option is no integer. -/
  | notInteger (option text : String)
  /-- There is no command with a name. -/
  | unknownCommand (name : String)
  /-- There is no command. -/
  | missingCommand
  deriving DecidableEq, Repr

/-- The sentence that tells a problem. -/
def LineProblem.message : LineProblem → String
  | unknownOption form => "No such option: " ++ form
  | missingValue option => "Option '" ++ option ++ "' requires an argument."
  | needlessValue option => "Option '" ++ option ++ "' does not take a value."
  | missingArgument name => "Missing argument '" ++ name ++ "'."
  | extraArgument text => "Got unexpected extra argument (" ++ text ++ ")"
  | notInteger option text =>
    "Invalid value for '" ++ option ++ "': '" ++ text ++ "' is not a valid integer."
  | unknownCommand name => "No such command '" ++ name ++ "'."
  | missingCommand => "Missing command."

/-! ## Lines -/

/-- A command line whose words are told apart. -/
structure Line where
  /-- The options by their long forms, with their values, in order; an option without a value has an
  empty one. -/
  options : List (String × String) := []
  /-- The arguments, in order. -/
  arguments : List String := []
  deriving DecidableEq, Repr, Inhabited

namespace Line

/-- The last value that an option is given. -/
def value? (line : Line) (long : String) : Option String := line.options.reverse.lookup long

/-- Whether an option is given. -/
def has (line : Line) (long : String) : Bool := line.options.any fun o => o.1 = long

/-- The line with one more option in front. -/
def addOption (long value : String) (line : Line) : Line :=
  { line with options := (long, value) :: line.options }

/-- The line with one more argument in front. -/
def addArgument (text : String) (line : Line) : Line :=
  { line with arguments := text :: line.arguments }

/-- The line with more options in front. -/
def addOptions (options : List (String × String)) (line : Line) : Line :=
  { line with options := options ++ line.options }

/-! ## Words -/

/-- What a word with options comes to: options that are complete, and perhaps one whose value is the
next word. -/
structure WordOptions where
  /-- The options that are complete. -/
  complete : List (String × String)
  /-- The option whose value is missing. -/
  open? : Option String := none

/-- Reads the letters of a word with short forms. -/
def readLetters (forms : List OptionForm) : List Char → Except LineProblem WordOptions
  | [] => .ok ⟨[], none⟩
  | c :: rest =>
    match forms.find? fun f => f.letter = some c with
    | none => .error (.unknownOption (String.ofList ['-', c]))
    | some f =>
      if f.takesValue then
        .ok (if rest.isEmpty then ⟨[], some f.long⟩ else ⟨[(f.long, String.ofList rest)], none⟩)
      else
        (readLetters forms rest).map fun w => { w with complete := (f.long, "") :: w.complete }

/-- The parts of a word before and behind its first equals sign, if it has one. -/
def splitWord (word : List Char) : String × Option String :=
  match word.dropWhile (· ≠ '=') with
  | _ :: value => (String.ofList (word.takeWhile (· ≠ '=')), some (String.ofList value))
  | [] => (String.ofList word, none)

/-- Reads a word with options: one long form, or short forms. -/
def readOptions (forms : List OptionForm) (word : List Char) : Except LineProblem WordOptions :=
  let (form, value?) := splitWord word
  match forms.find? (fun f => f.long = form), value? with
  | some f, some value =>
    if f.takesValue then .ok ⟨[(form, value)], none⟩ else .error (.needlessValue form)
  | some f, none => .ok (if f.takesValue then ⟨[], some form⟩ else ⟨[(form, "")], none⟩)
  | none, _ =>
    match word with
    | '-' :: '-' :: _ => .error (.unknownOption form)
    | _ => readLetters forms word.tail

/-- Whether a word holds options: it begins with a hyphen and has more. -/
def isOptionWord : List Char → Bool
  | '-' :: _ :: _ => true
  | _ => false

/-- Whether a name begins with a sign, as no name of a command does. -/
def beginsWithSign (name : String) : Bool :=
  match name.toList with
  | [] => false
  | c :: _ => !Text.isAlphanumeric c

/-- The word that ends the options. -/
def endWord : String := "--"

/-! ## Reading -/

/-- Tells the words of a line apart. With `mixed`, options may stand behind arguments. `open?` is
the option whose value comes next. -/
def readWords (forms : List OptionForm) (mixed : Bool) :
    Option String → List String → Except LineProblem Line
  | some option, [] => .error (.missingValue option)
  | none, [] => .ok {}
  | some option, word :: rest => (readWords forms mixed none rest).map (addOption option word)
  | none, word :: rest =>
    if word = endWord then .ok { arguments := rest }
    else if isOptionWord word.toList then
      match readOptions forms word.toList with
      | .error problem => .error problem
      | .ok w => (readWords forms mixed w.open? rest).map (addOptions w.complete)
    else if mixed then (readWords forms mixed none rest).map (addArgument word)
    else .ok { arguments := word :: rest }

/-- Tells the words of a line apart. -/
def read (forms : List OptionForm) (mixed : Bool) (words : List String) :
    Except LineProblem Line :=
  readWords forms mixed none words

/-- Words that are no options are arguments, in order. -/
theorem readWords_plain (forms : List OptionForm) {words : List String}
    (h : ∀ word ∈ words, isOptionWord word.toList = false) :
    readWords forms true none words = .ok { arguments := words } := by
  induction words with
  | nil => rfl
  | cons word rest ih =>
    have hword := h word (by simp)
    have hend : word ≠ endWord := by
      rintro rfl
      simp [endWord, isOptionWord] at hword
    rw [readWords, if_neg hend, if_neg (by simp [hword]), if_pos rfl,
      ih fun w hw => h w (by simp [hw])]
    rfl

end Line

end ServiceShell
