import ServiceShell.Text.Blank

/-!
# Command-line names

Model names are written in many styles (`DBInstanceID`, `list_buckets`, `MaxKeys`). Flags, table
columns, commands and resources use one style: words in lower case joined by hyphens. Positional
parameters use the same words joined by underscores, kept clear of the names that the host shell
reserves.

Three passes make the words: a break after a lower-case letter or digit before a capital, a break
before the last capital of a run that a lower-case letter follows, and a break at every run of
other characters.

When a name is taken, the first free one of `name-2`, `name-3`, … is used instead.

Main statements:

- `candidate_zero`: the first name tried is the name itself.
-/

namespace ServiceShell.Naming

open Text

/-! ## Word breaks -/

/-- Breaks a word where a capital follows a lower-case letter or a digit. -/
def breakHumps : List Char → List Char
  | c :: d :: r =>
    if (c.isLower || c.isDigit) && d.isUpper then c :: '-' :: breakHumps (d :: r)
    else c :: breakHumps (d :: r)
  | r => r

/-- Closes a run of capitals, given last capital first: when a lower-case letter follows and the
run has two capitals or more, the last one belongs to the next word. -/
def closeCapitals (lowerFollows : Bool) : List Char → List Char
  | last :: before :: run =>
    if lowerFollows then (before :: run).reverse ++ ['-', last] else (last :: before :: run).reverse
  | run => run.reverse

/-- Breaks an acronym from the capitalised word after it; `capitals` is the current run of
capitals, last one first. -/
def breakAcronymsFrom (capitals : List Char) : List Char → List Char
  | [] => closeCapitals false capitals
  | c :: r =>
    if c.isUpper then breakAcronymsFrom (c :: capitals) r
    else closeCapitals c.isLower capitals ++ c :: breakAcronymsFrom [] r

/-- Breaks every acronym from the capitalised word after it. -/
def breakAcronyms (cs : List Char) : List Char := breakAcronymsFrom [] cs

/-! ## Names -/

/-- The words of a name in lower case, joined by a separator. -/
def joinWords (separator : Char) (cs : List Char) : List Char :=
  (joinWith separator (runs Char.isAlphanum (breakAcronyms (breakHumps cs)))).map Char.toLower

/-- The hyphenated form of a name: `DBInstanceID` becomes `db-instance-id`. Only ASCII letters and
digits are kept, and a name without any has the empty form. -/
def kebab (name : String) : String := String.ofList (joinWords '-' name.toList)

/-- Variable names that the host shell keeps for itself. -/
def reserved : List String := ["in", "env", "nu", "it", "args"]

/-- Makes a joined name a valid variable: the empty name becomes `param`, a leading digit gets an
underscore before it, and a reserved name gets one after it. -/
def toVariable (name : List Char) : List Char :=
  match name with
  | [] => "param".toList
  | c :: _ =>
    let name := if c.isDigit then '_' :: name else name
    if reserved.contains (String.ofList name) then name ++ ['_'] else name

/-- The variable name of a positional parameter: `BucketName` becomes `bucket_name`. -/
def identifier (name : String) : String :=
  String.ofList (toVariable (joinWords '_' name.toList))

/-- The variable that a parameter name binds: hyphens read as underscores. -/
def variableOf (name : String) : String :=
  String.ofList (name.toList.map fun c => if c = '-' then '_' else c)

/-! ## Names that are not taken -/

/-- The names to try, in order: the name itself, then the name with a number behind it. -/
def candidate (base separator : String) : Nat → String
  | 0 => base
  | n + 1 => base ++ separator ++ toString (n + 2)

@[simp] theorem candidate_zero (base separator : String) : candidate base separator 0 = base := rfl

/-- The first candidate that is free; one more candidate than there are taken names always has one.
Names are compared in the form that `form` gives them. -/
def firstFree (form : String → String) (taken : List String) (base separator : String) : String :=
  let candidates := (List.range (taken.length + 1)).map (candidate base separator)
  (candidates.find? fun name => !taken.contains (form name)).getD base

end ServiceShell.Naming
