/-!
# Paths

A path as it is written: whether it begins at the root, and the names along it. Empty names and the
name of the current directory mean nothing and are dropped.
-/

namespace ServiceShell

/-- A path. -/
structure Path where
  /-- The root it begins at; empty for a path that begins at the current directory. -/
  root : String
  /-- The names along the path. -/
  names : List String
  deriving DecidableEq, Repr, Inhabited

namespace Path

/-! ## Reading and writing -/

/-- The root at the start of a text: one slash stands for any number of them but two. -/
def rootOf (cs : List Char) : String :=
  match (cs.takeWhile (· = '/')).length with
  | 0 => ""
  | 2 => "//"
  | _ => "/"

/-- The path that a text stands for. -/
def ofText (text : String) : Path :=
  { root := rootOf text.toList
    names := (text.splitOn "/").filter fun name => name ≠ "" && name ≠ "." }

/-- The text of a path. -/
def text (p : Path) : String :=
  if p.root = "" ∧ p.names = [] then "." else p.root ++ "/".intercalate p.names

/-! ## Parts -/

/-- The last name of a path; empty when there is none. -/
def name (p : Path) : String := p.names.getLast?.getD ""

/-- The path without its last name. -/
def parent (p : Path) : Path := { p with names := p.names.dropLast }

/-- The path of another path seen from this one. -/
def join (p other : Path) : Path :=
  if other.root = "" then { p with names := p.names ++ other.names } else other

/-- The path that a text stands for, seen from a directory. -/
def child (p : Path) (text : String) : Path := p.join (.ofText text)

/-- The end of the last name from its last dot on; a dot at its start or end does not count. -/
def suffix (p : Path) : String :=
  let cs := p.name.toList
  let ending := (cs.reverse.takeWhile (· ≠ '.')).reverse
  let before := cs.take (cs.length - ending.length - 1)
  if ending.isEmpty || before.isEmpty || ending.length = cs.length then ""
  else String.ofList ('.' :: ending)

/-! ## Home -/

/-- Whether a path begins with the sign for a home directory. -/
def isFromHome (p : Path) : Bool :=
  p.root = "" && p.names.head?.any fun name => name.startsWith "~"

/-- The path with the sign for the home directory replaced; the sign for the home of another user is
not known. -/
def expand? (home p : Path) : Option Path :=
  if p.isFromHome then
    match p.names with
    | "~" :: rest => some (home.join { root := "", names := rest })
    | _ => none
  else some p

end Path

end ServiceShell
