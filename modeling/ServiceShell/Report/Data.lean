import ServiceShell.Host.Sample
import ServiceShell.Json.Printer
import ServiceShell.Report.Basic

/-!
# Data in reports

How values and tables are laid out as lines of data. In JSON every value is one indented text.
Plain values take a line a field or item, with tabs between what belongs together, so that other
programs can cut them apart.
-/

namespace ServiceShell

/-! ## Values -/

/-- The text of a value that stands on a line: a value with parts is written as JSON. -/
def Document.cell : Document → String
  | .scalar s => s.spelling
  | d => Json.compact.write d

/-- The line of a plain item of a list; the values of an object stand beside each other. -/
def Document.itemLine : Document → String
  | .object fields => "\t".intercalate (fields.map fun e => e.2.spelling)
  | d => d.spelling

/-- The lines of a plain value. -/
def Document.plainLines : Document → List String
  | .object fields => fields.map fun e => e.1.spelling ++ "\t" ++ e.2.cell
  | .list items => items.map Document.itemLine
  | d => [d.spelling]

/-- The lines of a value in a format. -/
def Document.linesIn (format : Format) (d : Document) : List String :=
  match format with
  | .plain => d.plainLines
  | _ => [Json.indented.write d]

/-! ## Samples -/

/-- The text of a sample that stands on a line; a size of a file names its type. -/
def Sample.cell : Sample → String
  | .fileSize bytes => s!"FileSize({bytes})"
  | s => s.toDocument.cell

/-- The lines of a plain sample. -/
def Sample.plainLines : Sample → List String
  | .record fields => fields.map fun e => e.1 ++ "\t" ++ e.2.cell
  | .emptyList => []
  | s => [s.cell]

/-- The lines of a sample in a format. -/
def Sample.linesIn (format : Format) (s : Sample) : List String :=
  match format with
  | .plain => s.plainLines
  | _ => [Json.indented.write s.toDocument]

/-! ## Tables -/

/-- A table of texts. -/
structure Table where
  /-- The headers of the columns. -/
  headers : List String
  /-- The rows, in order. -/
  rows : List (List String)

namespace Table

/-- A row as an object whose keys are the headers. -/
def rowObject (headers row : List String) : Document :=
  .object (Fields.ofEntries ((headers.zip row).map fun e => (.text e.1, .text e.2)))

/-- The lines of a plain table. -/
def plainLines (t : Table) : List String :=
  (t.headers :: t.rows).map fun row => "\t".intercalate row

/-- The lines of a table in a format. -/
def linesIn (format : Format) (t : Table) : List String :=
  match format with
  | .json => [Json.indented.write (.list (t.rows.map (rowObject t.headers)))]
  | _ => t.plainLines

end Table

end ServiceShell
