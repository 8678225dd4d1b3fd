import ServiceShell.Text.Blank
import ServiceShell.Text.Entity

/-!
# Plain text of marked-up documentation

Model documentation is marked up. Generated comments need one line of plain text: the tags become
spaces, the character references become characters, and white space collapses. A summary is the
first sentence of that, cut at a limit.

The functions take the reading of character references as a parameter, `decode`, because nothing
about the line depends on it; `plain` and `summary` fix it to `Entity.decode`.
-/

namespace ServiceShell.Text

/-! ## Tags -/

/-- The tag at the start of a text: an opening bracket, at least one other character, and the next
closing bracket. It is written as a space. -/
def tag? : List Char → Option Match
  | '<' :: r =>
    let body := r.takeWhile (· ≠ '>')
    if body.isEmpty ∨ (r.drop body.length).isEmpty then none
    else some ⟨[' '], body.length + 1⟩
  | _ => none

/-- Removes the markup of a text: tags become spaces, references are decoded, and white space
collapses. -/
def plainWith (decode : List Char → List Char) (cs : List Char) : List Char :=
  collapse (decode (substitute tag? cs))

/-- The number of digits of the first reference of marked-up documentation that has too many of them
to be read. -/
def overlong? (text : String) : Option Nat := Entity.overlong? (substitute tag? text.toList)

/-- The plain text of marked-up documentation. -/
def plain (text : String) : String :=
  String.ofList (plainWith Entity.decode text.toList)

/-! ## Sentences -/

/-- Whether a character ends a sentence when a blank one follows. -/
def endsSentence (c : Char) : Bool := c = '.' || c = '!' || c = '?'

/-- The first sentence: up to the first mark that a blank character follows, or everything. -/
def firstSentence : List Char → List Char
  | c :: d :: r => if endsSentence c && isBlank d then [c] else c :: firstSentence (d :: r)
  | r => r

/-- The first `n` characters; a negative `n` leaves that many off at the end. -/
def takeSigned (n : Int) (cs : List Char) : List Char :=
  match n with
  | .ofNat n => cs.take n
  | .negSucc n => cs.take (cs.length - (n + 1))

/-- Cuts a sentence longer than `limit` so that three dots fit behind it. -/
def truncate (limit : Int) (cs : List Char) : List Char :=
  if limit < cs.length then trimRight (takeSigned (limit - 3) cs) ++ ['.', '.', '.'] else cs

/-- The first sentence of the plain text, cut at `limit` characters. -/
def summaryWith (decode : List Char → List Char) (limit : Int) (cs : List Char) : List Char :=
  match plainWith decode cs with
  | [] => []
  | c :: r => truncate limit (firstSentence (c :: r))

/-- The length to which summaries are cut. -/
def summaryLimit : Int := 120

/-- The first sentence of marked-up documentation as plain text, cut at `limit` characters. -/
def summary (text : String) (limit : Int) : String :=
  String.ofList (summaryWith Entity.decode limit text.toList)

end ServiceShell.Text
