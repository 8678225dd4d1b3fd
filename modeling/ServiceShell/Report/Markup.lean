import ServiceShell.Text.Blank
import ServiceShell.Text.Case

/-!
# Markup

Where colours are wanted, a remark is handed to the console as markup: a tag in brackets opens a
style, and the tag of a style behind a slash closes it again. A tag that an odd number of
backslashes stands before is no tag. A console refuses markup that closes a style which is not open.

Main statements:

- `Markup.isShown_of_tags_eq_nil`: a text without tags is shown.
-/

namespace ServiceShell.Markup

/-! ## Tags -/

/-- Whether a tag may begin with a character. -/
def beginsTag (c : Char) : Bool := c.isLower || ['#', '/', '@'].contains c

/-- The tag whose opening bracket stands before a text. -/
def tag? (cs : List Char) : Option (List Char) :=
  let tag := cs.takeWhile fun c => c ≠ '[' && c ≠ ']'
  if tag.head?.any beginsTag && (cs.drop tag.length).head? = some ']' then some tag else none

/-- The tags of a text, in order; `skipped` characters belong to a tag already found, and `slashes`
backslashes stand before the text. -/
def tagsFrom (skipped slashes : Nat) : List Char → List (List Char)
  | [] => []
  | c :: r =>
    match skipped with
    | n + 1 => tagsFrom n 0 r
    | 0 =>
      if c = '\\' then tagsFrom 0 (slashes + 1) r
      else if c = '[' then
        match tag? r with
        | some tag =>
          if slashes % 2 = 0 then tag :: tagsFrom (tag.length + 1) 0 r
          else tagsFrom (tag.length + 1) 0 r
        | none => tagsFrom 0 0 r
      else tagsFrom 0 0 r

/-- The tags of a text, in order. -/
def tags (markup : String) : List (List Char) := tagsFrom 0 0 markup.toList

/-! ## Styles -/

/-- The letters that stand for styles, with their names. -/
def shortStyles : List (String × String) :=
  [("d", "dim"), ("b", "bold"), ("i", "italic"), ("u", "underline"), ("r", "reverse"),
   ("c", "conceal"), ("s", "strike"), ("uu", "underline2"), ("o", "overline")]

/-- The name of the style that is written in a tag: in lower case, and in full. -/
def styleName (cs : List Char) : String :=
  let name := Text.toLower (String.ofList (Text.trim cs))
  (shortStyles.lookup name).getD name

/-- The styles that are open behind a tag, innermost first: one more, or one less. There are none
behind a tag that closes a style which is not open. A slash alone closes the innermost style. -/
def follow (opened : List String) (tag : List Char) : Option (List String) :=
  match tag.takeWhile (· ≠ '=') with
  | '/' :: rest =>
    if (Text.trim rest).isEmpty then opened.tail?
    else if opened.contains (styleName rest) then some (opened.erase (styleName rest))
    else none
  | name => some (styleName name :: opened)

/-- Whether a console shows a text with markup: each tag that closes a style finds it open. -/
def isShown (markup : String) : Bool := ((tags markup).foldlM follow []).isSome

/-- A text without tags is shown. -/
theorem isShown_of_tags_eq_nil {markup : String} (h : tags markup = []) :
    isShown markup = true := by
  rw [isShown, h]
  rfl

end ServiceShell.Markup
