import ServiceShell.Pattern.Escape
import ServiceShell.Text.Integer
import ServiceShell.Text.Name

/-!
# Reading patterns

Puts the tree of a pattern together, one construct a step. The state holds the groups that are
still open, innermost first, with the alternatives read in each. A problem is told with the place
where it was found.
-/

namespace ServiceShell.Pattern

/-! ## States -/

/-- What opened a group. -/
inductive Opening where
  /-- The pattern itself. -/
  | whole
  /-- A group that is captured. -/
  | capture (index : Nat)
  /-- A group that is not captured. -/
  | plain (change : ModeChange)
  /-- An atomic group. -/
  | atomic
  /-- A condition on what follows. -/
  | ahead (negated : Bool)
  /-- A condition on what stands before; `outermost` tells that it is in no other such one. -/
  | behind (negated outermost : Bool)
  /-- A choice by whether a group has matched, with the first part once it is read. -/
  | conditional (group : Nat) (yes : Option (List Node))

/-- An open group. -/
structure Frame where
  /-- What opened it. -/
  opening : Opening
  /-- The offset of its parenthesis. -/
  start : Nat
  /-- Whether blanks and comments mean nothing. -/
  verbose : Bool
  /-- The alternatives read, last one first. -/
  branches : List (List Node) := []
  /-- The parts of the current alternative, last one first. -/
  items : List Node := []

/-- The state of reading a pattern. -/
structure State where
  /-- The modes switched on for the whole pattern. -/
  modes : List Mode := []
  /-- The widths of the captured groups; an open group has none. -/
  groups : List (Option Width) := []
  /-- The numbers of the named groups. -/
  names : List (String × Nat) := []
  /-- The number of groups before the outermost condition on what stands before. -/
  behindGroups : Option Nat := none
  /-- The groups that conditions ask for, with the offset of the first of them. -/
  asked : List (Nat × Nat) := []
  /-- The innermost open group. -/
  frame : Frame
  /-- The groups around it. -/
  outer : List Frame := []

namespace State

/-- The number of groups, the whole pattern included. -/
def groupCount (s : State) : Nat := s.groups.length + 1

/-- Whether a group exists and is closed. -/
def isClosed (s : State) (group : Nat) : Bool :=
  group = 0 || ((s.groups[group - 1]?).bind id).isSome

/-- The width of a group; an open one counts as empty. -/
def groupWidth (s : State) (group : Nat) : Width :=
  ((s.groups[group - 1]?).bind id).getD .zero

/-- Adds a part to the current alternative. -/
def push (s : State) (n : Node) : State :=
  { s with frame := { s.frame with items := n :: s.frame.items } }

/-- Opens a group. -/
def enter (s : State) (opening : Opening) (start : Nat) (verbose : Bool) : State :=
  { s with frame := { opening, start, verbose }, outer := s.frame :: s.outer }

/-- A group inside a condition on what stands before may only be referred to when it was closed
before that condition began. -/
def checkBehind (s : State) (c : Cursor) (group : Nat) : Except Refusal Unit :=
  match s.behindGroups with
  | none => .ok ()
  | some bound =>
    if !s.isClosed group then .error (c.problem "cannot refer to an open group" 0)
    else if group ≥ bound then
      .error (c.problem "cannot refer to group defined in the same lookbehind subpattern" 0)
    else .ok ()

end State

/-- The parts of a finished group. -/
def Frame.body (f : Frame) : List Node :=
  if f.branches.isEmpty then f.items.reverse
  else [.branch ((f.items.reverse :: f.branches).reverse)]

/-! ## Escapes -/

/-- A reference by number, given the digits behind the backslash. -/
def groupReference (s : State) (c : Cursor) (digits : List Char) : Except Refusal Node :=
  let group := digitsIn 10 digits
  if group < s.groupCount then
    if !s.isClosed group then
      .error (c.problem "cannot refer to an open group" (digits.length + 1))
    else (s.checkBehind c group).map fun _ => .reference group
  else .error (c.problem s!"invalid group reference {group}" digits.length)

/-- What digits behind a backslash stand for: an octal escape if there are three octal ones, else a
reference to a group. -/
def digitEscape (s : State) (c : Cursor) (first : Char) : Except Refusal (Node × Cursor) := do
  let (second, c') := c.takeWhile Char.isDigit 1
  match second with
  | [d] =>
    let (third, c'') := c'.takeWhile isOctal 1
    match third with
    | [e] =>
      if isOctal first && isOctal d then
        let (code, c) ← octalCode c'' [first, d, e]
        return (.char code, c)
      else return (← groupReference s c' [first, d], c')
    | _ => return (← groupReference s c' [first, d], c')
  | _ => return (← groupReference s c [first], c)

/-- What an escape outside of a set stands for; `c` is the cursor behind it. -/
def readEscape (s : State) (c : Cursor) (char : Char) : Except Refusal (Node × Cursor) :=
  let asChar (found : Except Refusal (Nat × Cursor)) : Except Refusal (Node × Cursor) :=
    found.map fun f => (.char f.1, f.2)
  match anchorEscape? char, classEscape? char, controlEscape? char, hexLength? char with
  | some anchor, _, _, _ => .ok (.anchor anchor, c)
  | _, some (charClass, negated), _, _ => .ok (.set false [.charClass charClass negated], c)
  | _, _, some code, _ => .ok (.char code, c)
  | _, _, _, some length => asChar (numericEscape c char length)
  | _, _, _, _ =>
    if char = 'N' then asChar (namedEscape c)
    else if char = '0' then
      let (digits, c) := c.takeWhile isOctal 2
      .ok (.char (digitsIn 8 digits), c)
    else if char.isDigit then digitEscape s c char
    else asChar (selfEscape c char)

/-! ## Repetitions -/

/-- The bounds of a repetition. -/
structure Bounds where
  /-- The least number. -/
  least : Nat
  /-- The greatest number, if there is one. -/
  most : Option Nat

/-- From this number on, a number of repetitions is too large. -/
def repetitionLimit : Nat := 4294967295

/-- Reads a number of repetitions; `c` is the cursor behind both bounds. -/
def repetitionCount (c : Cursor) (digits : List Char) : Except Refusal Nat :=
  let count := digitsIn 10 digits
  if digits.length > Text.integerDigitLimit then
    .error (c.refusal (.tooManyDigits digits.length))
  else if count ≥ repetitionLimit then .error (c.refusal .tooManyRepetitions)
  else .ok count

/-- Reads digits, however many there are. -/
def readDigits (c : Cursor) : List Char × Cursor := c.takeWhile Char.isDigit c.rest.length

/-- Reads the bounds of a repetition; `c` is the cursor behind the opening brace. Braces that hold
no bounds are ordinary characters. -/
def readBounds (c : Cursor) : Except Refusal (Option (Bounds × Cursor)) := do
  if c.sees '\x7d' then return none
  let (low, c') := readDigits c
  let (high, c') := match c'.skip? ',' with
    | some c' => readDigits c'
    | none => (low, c')
  match c'.skip? '\x7d' with
  | none => return none
  | some c' =>
    let least ← repetitionCount c' low
    let most ← if high.isEmpty then pure none else some <$> repetitionCount c' high
    if most.any (· < least) then
      .error (c'.problem "min repeat greater than max repeat" (c'.offset - c.offset))
    else return some (⟨least, most⟩, c')

/-- Repeats the last part; `start` is the offset of the repetition mark and `c` the cursor behind
it. -/
def repeatLast (s : State) (c : Cursor) (start : Nat) (bounds : Bounds) :
    Except Refusal (State × Cursor) :=
  match s.frame.items with
  | [] => .error (c.problem "nothing to repeat" (c.offset - start))
  | last :: before =>
    if last.isAnchor then .error (c.problem "nothing to repeat" (c.offset - start))
    else if last.isRepeated then .error (c.problem "multiple repeat" (c.offset - start))
    else
      let (greed, c) :=
        match c.skip? '?' with
        | some c => (Greed.lazy, c)
        | none =>
          match c.skip? '+' with
          | some c => (Greed.possessive, c)
          | none => (Greed.greedy, c)
      let node := Node.repeated bounds.least bounds.most greed [last]
      .ok ({ s with frame := { s.frame with items := node :: before } }, c)

/-! ## Modes -/

/-- The mode of a letter. -/
def modeOf? : Char → Option Mode
  | 'i' => some .ignoreCase
  | 'L' => some .locale
  | 'm' => some .multiline
  | 's' => some .dotAll
  | 'x' => some .verbose
  | 'a' => some .ascii
  | 't' => some .template
  | 'u' => some .unicode
  | _ => none

/-- The complaint about a character that is no mode. -/
def modeProblem (c : Cursor) (chars : List Char) (otherwise : String) : Refusal :=
  let isLetter := match chars with
    | [char] => Text.isLetter char
    | _ => false
  c.problem (if isLetter then "unknown flag" else otherwise) chars.length

/-- Reads the modes to switch on; `letter` was read already. The result has the character that ends
them. -/
def readOn (c : Cursor) (letter : Char) (on : List Mode) :
    Nat → Except Refusal (List Mode × Char × Cursor)
  | 0 => .error (c.problem "missing -, : or )" 0)
  | fuel + 1 =>
    match modeOf? letter with
    | none => .error (modeProblem c [letter] "missing -, : or )")
    | some .locale =>
      .error (c.problem "bad inline flags: cannot use 'L' flag with a str pattern" 0)
    | some mode =>
      let on := on ++ [mode]
      if mode.selectsClasses && on.any (fun m => m.selectsClasses && m ≠ mode) then
        .error (c.problem "bad inline flags: flags 'a', 'u' and 'L' are incompatible" 0)
      else
        match c.rest with
        | [] => .error (c.problem "missing -, : or )" 0)
        | t :: rest =>
          let c := { c with rest }
          match t.chars with
          | [char] =>
            if char = ')' ∨ char = '-' ∨ char = ':' then .ok (on, char, c)
            else if (modeOf? char).isSome then readOn c char on fuel
            else .error (modeProblem c [char] "missing -, : or )")
          | chars => .error (modeProblem c chars "missing -, : or )")

/-- Reads the modes to switch off, up to the colon behind them. -/
def readOff (c : Cursor) (letter : Char) (off : List Mode) :
    Nat → Except Refusal (List Mode × Cursor)
  | 0 => .error (c.problem "missing :" 0)
  | fuel + 1 =>
    match modeOf? letter with
    | none => .error (modeProblem c [letter] "missing :")
    | some mode =>
      if mode.selectsClasses then
        .error (c.problem "bad inline flags: cannot turn off flags 'a', 'u' and 'L'" 0)
      else
        let off := off ++ [mode]
        match c.rest with
        | [] => .error (c.problem "missing :" 0)
        | t :: rest =>
          let c := { c with rest }
          match t.chars with
          | [char] =>
            if char = ':' then .ok (off, c)
            else if (modeOf? char).isSome then readOff c char off fuel
            else .error (modeProblem c [char] "missing :")
          | chars => .error (modeProblem c chars "missing :")

/-- What a row of modes asks for. -/
inductive ModeRow where
  /-- Modes for the whole pattern. -/
  | whole (on : List Mode)
  /-- Modes for one group. -/
  | scoped (change : ModeChange)

/-- Reads the modes to switch off behind a minus sign. -/
def readMinus (c : Cursor) (on : List Mode) : Except Refusal (ModeRow × Cursor) :=
  match c.rest with
  | [] => .error (c.problem "missing flag" 0)
  | t :: rest =>
    let c := { c with rest }
    match t.chars with
    | [char] =>
      if (modeOf? char).isNone then .error (modeProblem c [char] "missing flag")
      else do
        let (off, c) ← readOff c char [] (c.rest.length + 1)
        if off.contains .template then
          .error (c.problem "bad inline flags: cannot turn off global flag" 1)
        else if on.any off.contains then
          .error (c.problem "bad inline flags: flag turned on and off" 1)
        else return (.scoped { on, off }, c)
    | chars => .error (modeProblem c chars "missing flag")

/-- Reads a row of modes; `letter` is its first character. -/
def readModes (c : Cursor) (letter : Char) : Except Refusal (ModeRow × Cursor) := do
  let (on, ending, c) ←
    if letter = '-' then pure ([], '-', c) else readOn c letter [] (c.rest.length + 1)
  if ending = ')' then return (.whole on, c)
  else if on.contains .template then
    .error (c.problem "bad inline flags: cannot turn on global flag" 1)
  else if ending = '-' then readMinus c on
  else return (.scoped { on, off := [] }, c)

/-! ## Groups -/

/-- Opens a group that is captured. -/
def openCapture (s : State) (c : Cursor) (start : Nat) (name : Option (List Char)) :
    Except Refusal (State × Cursor) :=
  let index := s.groupCount
  let opened := { s with groups := s.groups ++ [none] }
  match name with
  | none => .ok (opened.enter (.capture index) start s.frame.verbose, c)
  | some name =>
    let text := String.ofList name
    match s.names.lookup text with
    | some earlier =>
      .error (c.problem ("redefinition of group name " ++ textLiteral text
        ++ s!" as group {index}; was group {earlier}") (name.length + 1))
    | none =>
      let opened := { opened with names := s.names ++ [(text, index)] }
      .ok (opened.enter (.capture index) start s.frame.verbose, c)

/-- The complaint about a text that names no group. -/
def badGroupName (c : Cursor) (name : List Char) : Refusal :=
  c.problem ("bad character in group name " ++ textLiteral (String.ofList name)) (name.length + 1)

/-- The complaint about a name that no group has. -/
def unknownGroupName (c : Cursor) (name : List Char) : Refusal :=
  c.problem ("unknown group name " ++ textLiteral (String.ofList name)) (name.length + 1)

/-- Reads what stands behind the letter of a named group or of a reference by name. -/
def readNamed (s : State) (c : Cursor) (start : Nat) : Except Refusal (State × Cursor) :=
  match c.skip? '<', c.skip? '=' with
  | some c, _ => do
    let (name, c) ← c.name '>' "group name"
    if Text.isName name then openCapture s c start (some name) else .error (badGroupName c name)
  | _, some c => do
    let (name, c) ← c.name ')' "group name"
    if !Text.isName name then .error (badGroupName c name)
    else
      match s.names.lookup (String.ofList name) with
      | none => .error (unknownGroupName c name)
      | some group =>
        if !s.isClosed group then
          .error (c.problem "cannot refer to an open group" (name.length + 1))
        else
          s.checkBehind c group
          return (s.push (.reference group), c)
  | none, none =>
    match c.rest with
    | [] => .error (c.problem "unexpected end of pattern" 0)
    | t :: rest =>
      .error ((Cursor.problem { c with rest } ("unknown extension ?P" ++ String.ofList t.chars))
        (t.chars.length + 2))

/-- From this number on, there is no group. -/
def groupLimit : Nat := 1073741823

/-- The group that a condition asks for. Whether it exists is known at the end of the pattern only,
unless its number is beyond all groups. -/
def askedGroup (s : State) (c : Cursor) (name : List Char) : Except Refusal (Nat × State) :=
  if Text.isName name then
    match s.names.lookup (String.ofList name) with
    | none => .error (unknownGroupName c name)
    | some group => .ok (group, s)
  else
    match Text.readInteger? (String.ofList name) with
    | some (.ofNat 0) => .error (c.problem "bad group number" (name.length + 1))
    | some (.ofNat group) =>
      let place := c.offset - name.length - 1
      let asked :=
        if (s.asked.lookup group).isSome then s.asked else s.asked ++ [(group, place)]
      if group < groupLimit then .ok (group, { s with asked })
      else .error (c.problem s!"invalid group reference {group}" (name.length + 1))
    | _ => .error (badGroupName c name)

/-- Reads a comment up to its closing parenthesis. -/
def skipComment (length start : Nat) : List Token → Except Refusal Cursor
  | [] =>
    let c : Cursor := ⟨length, []⟩
    .error (c.problem "missing ), unterminated comment" (c.offset - start))
  | t :: rest => if t.chars = [')'] then .ok ⟨length, rest⟩ else skipComment length start rest

/-- Reads what stands behind an opening parenthesis and a question mark. -/
def readExtension (s : State) (c : Cursor) (start : Nat) : Except Refusal (State × Cursor) :=
  match c.rest with
  | [] => .error (c.problem "unexpected end of pattern" 0)
  | t :: rest =>
    let c := { c with rest }
    let verbose := s.frame.verbose
    match t.chars with
    | ['P'] => readNamed s c start
    | [':'] => .ok (s.enter (.plain {}) start verbose, c)
    | ['#'] => do
      let c ← skipComment c.length start c.rest
      return (s, c)
    | ['='] => .ok (s.enter (.ahead false) start verbose, c)
    | ['!'] => .ok (s.enter (.ahead true) start verbose, c)
    | ['<'] =>
      match c.rest with
      | [] => .error (c.problem "unexpected end of pattern" 0)
      | u :: rest =>
        let c := { c with rest }
        if u.chars = ['='] ∨ u.chars = ['!'] then
          let outermost := s.behindGroups.isNone
          let s := if outermost then { s with behindGroups := some s.groupCount } else s
          .ok (s.enter (.behind (u.chars = ['!']) outermost) start verbose, c)
        else
          .error (c.problem ("unknown extension ?<" ++ String.ofList u.chars)
            (u.chars.length + 2))
    | ['('] => do
      let (name, c) ← c.name ')' "group name"
      let (group, s) ← askedGroup s c name
      s.checkBehind c group
      return (s.enter (.conditional group none) start verbose, c)
    | ['>'] => .ok (s.enter .atomic start verbose, c)
    | [char] =>
      if char = '-' ∨ (modeOf? char).isSome then do
        let (row, c) ← readModes c char
        match row with
        | .whole on =>
          match s.outer, s.frame.branches, s.frame.items with
          | [], [], [] =>
            let modes := s.modes ++ on
            return ({ s with modes, frame := { s.frame with verbose := modes.contains .verbose } },
              c)
          | _, _, _ =>
            .error (c.problem "global flags not at the start of the expression"
              (c.offset - start))
        | .scoped change =>
          let verbose :=
            (verbose || change.on.contains .verbose) && !change.off.contains .verbose
          return (s.enter (.plain change) start verbose, c)
      else .error (c.problem ("unknown extension ?" ++ String.ofList [char]) 2)
    | chars =>
      .error (c.problem ("unknown extension ?" ++ String.ofList chars) (chars.length + 1))

/-- The node of a group that is closed. -/
def Frame.close (f : Frame) : Node :=
  match f.opening with
  | .whole => .group none {} f.body
  | .capture index => .group (some index) {} f.body
  | .plain change => .group none change f.body
  | .atomic => .atomic f.body
  | .ahead negated => .lookAhead negated f.body
  | .behind negated _ => .lookBehind negated f.body
  | .conditional group none => .conditional group f.items.reverse []
  | .conditional group (some yes) => .conditional group yes f.items.reverse

/-- Closes the innermost group. -/
def closeGroup (s : State) (around : Frame) (outer : List Frame) : State :=
  let node := s.frame.close
  let groups := match s.frame.opening with
    | .capture index => s.groups.set (index - 1) (some (bodyWidth s.groupWidth s.frame.body))
    | _ => s.groups
  let behindGroups := match s.frame.opening with
    | .behind _ true => none
    | _ => s.behindGroups
  State.push { s with groups, behindGroups, frame := around, outer } node

/-- Ends the current alternative of the innermost group. -/
def nextBranch (s : State) (atBar behindBar : Cursor) : Except Refusal (State × Cursor) :=
  match s.frame.opening with
  | .conditional group none =>
    .ok ({ s with frame := { s.frame with
      opening := .conditional group (some s.frame.items.reverse), items := [] } }, behindBar)
  | .conditional _ (some _) =>
    .error (atBar.problem "conditional backref with more than two branches" 0)
  | _ =>
    let verbose := if s.outer.isEmpty then s.modes.contains .verbose else s.frame.verbose
    .ok ({ s with frame := { s.frame with
      verbose, branches := s.frame.items.reverse :: s.frame.branches, items := [] } }, behindBar)

/-! ## Steps -/

/-- Whether two modes that exclude each other are on for the whole pattern. -/
def hasConflict (modes : List Mode) : Bool := modes.contains .ascii && modes.contains .unicode

/-- The state after one more construct, given the cursor at it and behind its first token. -/
def step (s : State) (atToken behind : Cursor) (chars : List Char) :
    Except Refusal (State × Cursor) :=
  let start := atToken.offset
  match chars with
  | [')'] =>
    match s.outer with
    | [] =>
      if hasConflict s.modes then .error (atToken.refusal .conflictingModes)
      else .error (atToken.problem "unbalanced parenthesis" 0)
    | around :: outer => .ok (closeGroup s around outer, behind)
  | ['|'] => nextBranch s atToken behind
  | ['\\', char] => do
    let (node, c) ← readEscape s behind char
    return (s.push node, c)
  | ['['] => do
    let (node, c) ← readBracketed behind
    return (s.push node, c)
  | ['('] =>
    match behind.skip? '?' with
    | some c => readExtension s c start
    | none => openCapture s behind start none
  | ['.'] => .ok (s.push .dot, behind)
  | ['^'] => .ok (s.push (.anchor .start), behind)
  | ['$'] => .ok (s.push (.anchor .stop), behind)
  | ['?'] => repeatLast s behind start ⟨0, some 1⟩
  | ['*'] => repeatLast s behind start ⟨0, none⟩
  | ['+'] => repeatLast s behind start ⟨1, none⟩
  | ['\x7b'] => do
    match ← readBounds behind with
    | some (bounds, c) => repeatLast s c start bounds
    | none => return (s.push (.char '\x7b'.toNat), behind)
  | [char] => .ok (s.push (.char char.toNat), behind)
  | _ => .ok (s, behind)

/-- Whether a character means nothing in a verbose pattern. -/
def isIgnored (chars : List Char) : Bool :=
  match chars with
  | [c] => [' ', '\t', '\n', '\r', '\x0b', '\x0c'].contains c
  | _ => false

/-- Reads a pattern from a state on; `skipped` tokens belong to a construct already read, and in a
comment the tokens up to the end of the line are passed over. -/
def run (length : Nat) (s : State) (skipped : Nat) (inComment : Bool) :
    List Token → Except Refusal State
  | [] => .ok s
  | t :: rest =>
    match skipped with
    | n + 1 => run length s n inComment rest
    | 0 =>
      if inComment then run length s 0 (t.chars ≠ ['\n']) rest
      else if s.frame.verbose && isIgnored t.chars then run length s 0 false rest
      else if s.frame.verbose && t.chars = ['#'] then run length s 0 true rest
      else
        match step s ⟨length, t :: rest⟩ ⟨length, rest⟩ t.chars with
        | .ok (s, c) => run length s (rest.length - c.rest.length) false rest
        | .error refusal => .error refusal

/-! ## Checks of a finished tree -/

/-- The word for a repetition in a complaint about it. -/
def Greed.word : Greed → String
  | .greedy => "MAX_REPEAT"
  | .lazy => "MIN_REPEAT"
  | .possessive => "POSSESSIVE_REPEAT"

mutual

/-- The first problem that a tree has as a whole: a condition on what stands before needs one width,
and a template holds no repetition. -/
def Node.problem? (groups : Nat → Width) (isTemplate : Bool) : Node → Option String
  | .lookBehind _ body =>
    let w := bodyWidth groups body
    if w.least ≠ w.most then some "look-behind requires fixed-width pattern"
    else bodyProblem? groups isTemplate body
  | .branch alternatives => alternativesProblem? groups isTemplate alternatives
  | .repeated _ _ greed body =>
    if isTemplate then some ("internal: unsupported template operator " ++ greed.word)
    else bodyProblem? groups isTemplate body
  | .group _ _ body => bodyProblem? groups isTemplate body
  | .atomic body => bodyProblem? groups isTemplate body
  | .lookAhead _ body => bodyProblem? groups isTemplate body
  | .conditional _ yes no =>
    (bodyProblem? groups isTemplate yes).or (bodyProblem? groups isTemplate no)
  | _ => none

/-- The first such problem in a sequence. -/
def bodyProblem? (groups : Nat → Width) (isTemplate : Bool) : List Node → Option String
  | [] => none
  | n :: r => (n.problem? groups isTemplate).or (bodyProblem? groups isTemplate r)

/-- The first such problem in some alternatives. -/
def alternativesProblem? (groups : Nat → Width) (isTemplate : Bool) :
    List (List Node) → Option String
  | [] => none
  | body :: r => (bodyProblem? groups isTemplate body).or (alternativesProblem? groups isTemplate r)

end

/-- From this width on, a condition on what stands before is too wide. -/
def behindLimit : Nat := 0x80000000

mutual

/-- Whether a tree holds a condition on what stands before that is too wide. -/
def Node.isTooWide (groups : Nat → Width) : Node → Bool
  | .lookBehind _ body =>
    (bodyWidth groups body).least ≥ behindLimit || bodyIsTooWide groups body
  | .branch alternatives => alternativesAreTooWide groups alternatives
  | .repeated _ _ _ body => bodyIsTooWide groups body
  | .group _ _ body => bodyIsTooWide groups body
  | .atomic body => bodyIsTooWide groups body
  | .lookAhead _ body => bodyIsTooWide groups body
  | .conditional _ yes no => bodyIsTooWide groups yes || bodyIsTooWide groups no
  | _ => false

/-- Whether a sequence holds such a condition. -/
def bodyIsTooWide (groups : Nat → Width) : List Node → Bool
  | [] => false
  | n :: r => n.isTooWide groups || bodyIsTooWide groups r

/-- Whether one of some alternatives holds such a condition. -/
def alternativesAreTooWide (groups : Nat → Width) : List (List Node) → Bool
  | [] => false
  | body :: r => bodyIsTooWide groups body || alternativesAreTooWide groups r

end

/-! ## Patterns -/

/-- A pattern that was read. -/
structure Tree where
  /-- The modes for the whole pattern. -/
  modes : List Mode
  /-- The parts. -/
  body : List Node
  /-- The widths of the groups. -/
  widths : List Width

/-- The width of a group of a pattern. -/
def Tree.groupWidth (t : Tree) (group : Nat) : Width := (t.widths[group - 1]?).getD .zero

/-- Checks what can only be known at the end of a pattern. -/
def finish (length : Nat) (s : State) : Except Refusal Tree :=
  let c : Cursor := ⟨length, []⟩
  match s.outer with
  | _ :: _ =>
    .error (c.problem "missing ), unterminated subpattern" (c.offset - s.frame.start))
  | [] =>
    if hasConflict s.modes then .error (c.refusal .conflictingModes)
    else
      match s.asked.find? fun g => g.1 ≥ s.groupCount with
      | some (group, offset) =>
        .error (c.refusal (.problem s!"invalid group reference {group}" (some offset)))
      | none =>
        match bodyProblem? s.groupWidth (s.modes.contains .template) s.frame.body with
        | some text => .error (c.refusal (.problem text none))
        | none =>
          if bodyIsTooWide s.groupWidth s.frame.body then .error (c.refusal .tooWide)
          else .ok ⟨s.modes, s.frame.body, s.groups.map fun w => w.getD .zero⟩

/-- A lone backslash at the end is found as soon as everything before it is read. -/
def danglingRefusal (length : Nat) : Refusal :=
  ⟨.problem "bad escape (end of pattern)" (some (length - 1)), true⟩

/-- Reads a pattern. -/
def parse (source : String) : Except Refusal Tree :=
  let cs := source.toList
  let (tokens, dangling) := tokenize 0 cs
  let length := if dangling then cs.length - 1 else cs.length
  let start : State := { frame := { opening := .whole, start := 0, verbose := false } }
  let result := (run length start 0 false tokens).bind (finish length)
  if dangling then
    match result with
    | .error refusal => .error (if refusal.exhausted then danglingRefusal cs.length else refusal)
    | .ok _ => .error (danglingRefusal cs.length)
  else result

/-- The message for a problem of a pattern; a pattern of several lines gets line and column too. -/
def problemMessage (source text : String) (offset : Option Nat) : String :=
  match offset with
  | none => text
  | some offset =>
    let place := Json.Place.ofOffset source.toList offset
    text ++ s!" at position {offset}"
      ++ (if source.toList.contains '\n' then s!" (line {place.line}, column {place.column})"
        else "")

end ServiceShell.Pattern
