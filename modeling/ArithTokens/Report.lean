import ArithTokens.ScanError
import ArithTokens.Wrapping

/-!
# Drawn reports

A drawn report shows the message of an error and the line of the source on which it starts, with a
mark under the first offending character, and then the lines that follow: one line behind the line
on which the error ends. Tabs are drawn as spaces up to the next tab stop, and the mark moves with
them. Long lines of the message are wrapped, and those of the source are not.
-/

namespace ArithTokens

namespace Report

/-- Tab stops are this many columns apart. -/
def tabStop : Nat := 4

/-- A text as it is drawn from a column on: a tab fills up to the next tab stop with spaces. -/
def expandTabs (column : Nat) : List Char → List Char
  | [] => []
  | c :: rest =>
    if c = '\t' then
      List.replicate (tabStop - column % tabStop) ' ' ++
        expandTabs (column + (tabStop - column % tabStop)) rest
    else c :: expandTabs (column + 1) rest

/-- The columns for the text of a message: of the 80 columns of a page 2 stay free, and 4 are for
the sign in front of every row. -/
def messageColumns : Nat := 74

end Report

/-- A drawn report of an error. -/
structure Report where
  code : String
  message : List (List Char)
  place : String
  number : Nat
  line : List Char
  mark : Nat
  label : String
  following : List (List Char)
deriving DecidableEq, Repr

namespace Report

/-- The report of an error. The mark is as far from the start of the line as the text before the
error is wide. A scan ends at the first newline at the latest, so the line shown is the first one of
the source and none comes before it. -/
def ofError (error : ScanError) : Report where
  code := ScanError.code
  message := (error.message.toList.splitOn '\n').flatMap (Wrapping.wrap messageColumns)
  place := error.start.text
  number := error.start.line + 1
  line := expandTabs 0 (error.source.lines.getD error.start.line [])
  mark := (expandTabs 0 ((error.source.lines.getD error.start.line []).take
    (error.start.column.getD 0))).length
  label := ScanError.label
  following := ((error.source.lines.drop (error.start.line + 1)).take
    (error.stop.line - error.start.line + 1)).map (expandTabs 0)

/-- The message: a cross before its first line and a bar before all others. -/
def messageRows : List (List Char) → List String
  | [] => []
  | first :: rest =>
    ("  × " ++ String.ofList first) :: rest.map fun line => "  │ " ++ String.ofList line

/-- A numbered line of the source. -/
def sourceRow (number : Nat) (line : List Char) : String :=
  " " ++ number.repr ++ " │ " ++ String.ofList line

/-- The following lines of the source, numbered from `number` on. -/
def sourceRows (number : Nat) : List (List Char) → List String
  | [] => []
  | line :: rest => sourceRow number line :: sourceRows (number + 1) rest

/-- A row with marks, after the indentation that brings them to a column of the source. -/
def markRow (column : Nat) (marks : String) : String :=
  "   · " ++ String.ofList (List.replicate column ' ') ++ marks

/-- The rows of a report. The last one is empty. -/
def rows (report : Report) : List String :=
  [report.code, ""] ++ messageRows report.message ++
    ["   ╭─[" ++ report.place ++ "]", sourceRow report.number report.line,
      markRow report.mark "┬", markRow report.mark ("╰── " ++ report.label)] ++
    sourceRows (report.number + 1) report.following ++ ["   ╰────", ""]

end Report

end ArithTokens
