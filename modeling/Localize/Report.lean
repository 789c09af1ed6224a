import Localize.Build.Result
import Localize.Files.Path
import Localize.Json.Printer
import Localize.Unicode.LowerCase
import Localize.Value.Assembly

/-!
# Build reports

A report says in figures what became of a build, lists the assets that were rewritten, and lists
the keys that had no wording.  It is written as JSON, for programs, or as Markdown, for
people (`Report.render`), and the name of its file says which (`ReportFormat.ofFile`).

The two lists are lists of rows with named cells.  A report of a build has all cells that are shown
(`Report.ofResult`); one that is put together from outside may lack some, and then only writing it
as Markdown finds out.
-/

set_option autoImplicit false

namespace Localize

/-- A row of a list, cell by cell. -/
abbrev ReportRow := List (Text × Value)

/-- What is reported of a build. -/
structure Report where
  locale : Text
  catalog : Option Text
  status : Text
  duration : Seconds
  assets : Int
  assetsRewritten : Int
  assetsSkipped : Int
  nuggets : Int
  translated : Int
  rewritten : List ReportRow := []
  missing : List ReportRow := []

/-- A row without a cell that is to be shown. -/
structure MissingCell where
  name : Text
deriving DecidableEq, Repr

/-- What is said of a row without a cell. -/
def MissingCell.message (e : MissingCell) : Text := e.name.quoted

/-- How a report is written. -/
inductive ReportFormat
  | json
  | markdown
deriving DecidableEq, Repr

namespace ReportFormat

/-- The word for a format. -/
def name : ReportFormat → Text
  | json => "json"
  | markdown => "markdown"

/-- The format that a word asks for; every word but one asks for Markdown. -/
def ofName (t : Text) : ReportFormat := if t = ("json" : Text) then json else markdown

/-- The format that goes with the name of a file. -/
def ofFile (p : Path) : ReportFormat := if p.suffix.lower = (".json" : Text) then json else markdown

end ReportFormat

namespace Report

/-- The report of a build. -/
def ofResult (b : BuildResult) : Report where
  locale := b.locale
  catalog := b.catalog
  status := if b.warnings = [] then "success" else "warnings"
  duration := b.duration.rounded
  assets := b.assets.length
  assetsRewritten := b.rewritten.length
  assetsSkipped := (b.assets.filter fun a => a.status = .skipped).length
  nuggets := b.nuggets
  translated := b.translated
  rewritten := b.rewritten.map fun a =>
    [("asset", .text a.name), ("nuggets", .int a.nuggets), ("translated", .int a.translated)]
  missing := b.warnings.map fun w =>
    [("asset", .text w.asset), ("key", .text w.key), ("locale", .text w.locale)]

/-! ## Fields -/

/-- The fields of a report, in order. -/
def fields (r : Report) : List (Text × Value) := [
  ("locale", .text r.locale),
  ("catalog", match r.catalog with
    | some t => .text t
    | none => .null),
  ("status", .text r.status),
  ("duration_seconds", r.duration.toValue),
  ("assets_total", .int r.assets),
  ("assets_rewritten", .int r.assetsRewritten),
  ("assets_skipped", .int r.assetsSkipped),
  ("nuggets_found", .int r.nuggets),
  ("nuggets_translated", .int r.translated),
  ("rewritten", .list (r.rewritten.map Value.ofFields)),
  ("missing", .list (r.missing.map Value.ofFields))]

/-- The rows of a field. -/
def rowsOf : Option Value → List ReportRow
  | some (.list items) => items.map fun
    | .map entries => Value.fields entries
    | _ => []
  | _ => []

/-- The text of a field. -/
def textOf : Option Value → Text
  | some v => v.shown
  | none => []

/-- The number of a field. -/
def countOf : Option Value → Int
  | some v => v.toInt?.getD 0
  | none => 0

/-- A report put together from its fields. -/
def ofFields (fields : Arguments) : Except ArgumentError Report := do
  Assembly.report.check fields
  let get (name : Text) : Option Value := fields.get? name
  return {
    locale := textOf (get "locale")
    catalog :=
      match get "catalog" with
      | some (.text t) => some t
      | _ => none
    status := textOf (get "status")
    duration :=
      match get "duration_seconds" with
      | some (.float x) => .exact x
      | v => .whole (countOf v)
    assets := countOf (get "assets_total")
    assetsRewritten := countOf (get "assets_rewritten")
    assetsSkipped := countOf (get "assets_skipped")
    nuggets := countOf (get "nuggets_found")
    translated := countOf (get "nuggets_translated")
    rewritten := rowsOf (get "rewritten")
    missing := rowsOf (get "missing") }

/-! ## Writing -/

/-- The report as JSON. -/
def json (r : Report) : Text := Json.pretty (Value.ofFields r.fields)

/-- A cell of a row, as it is shown. -/
def cell (row : ReportRow) (name : Text) : Except MissingCell Text :=
  match row.lookup name with
  | some v => .ok v.shown
  | none => .error ⟨name⟩

/-- The word that goes before the status. -/
def mark (r : Report) : Text :=
  if r.status = ("success" : Text) then "OK"
  else if r.status = ("warnings" : Text) then "WARN" else "?"

/-- A row of a table with two columns. -/
def tableRow (name value : Text) : Text := "| " ++ name ++ " | " ++ value ++ " |"

/-- The figures, line by line. -/
def summary (r : Report) : List Text :=
  let catalog :=
    match r.catalog with
    | none | some [] => "(default locale pass)"
    | some t => t
  [ "# Build Report",
    "",
    "## Summary",
    "| Field | Value |",
    "|-------|-------|",
    tableRow "Locale" r.locale,
    tableRow "Catalog" catalog,
    tableRow "Status" (r.mark ++ " " ++ r.status),
    tableRow "Duration" (r.duration.brief ++ "s"),
    tableRow "Assets" (Text.ofInt r.assetsRewritten ++ " rewritten / " ++ Text.ofInt r.assets
      ++ " total (" ++ Text.ofInt r.assetsSkipped ++ " skipped)"),
    tableRow "Nuggets" (Text.ofInt r.translated ++ " translated / " ++ Text.ofInt r.nuggets
      ++ " found"),
    ""]

/-- A text as code. -/
def code (t : Text) : Text := "\x60" ++ t ++ "\x60"

/-- The line of an asset that was rewritten. -/
def rewrittenLine (row : ReportRow) : Except MissingCell Text := do
  return "| " ++ code (← cell row "asset") ++ " | " ++ (← cell row "nuggets") ++ " | "
    ++ (← cell row "translated") ++ " |"

/-- The line of a key that had no wording; the key stands on one line. -/
def missingLine (row : ReportRow) : Except MissingCell Text := do
  let key := Text.replace "\n" "\\n" (← cell row "key")
  return "- " ++ code (← cell row "asset") ++ ": '" ++ key ++ "' (" ++ (← cell row "locale") ++ ")"

/-- A list with its heading, unless it is empty. -/
def listed (heading : List Text) (line : ReportRow → Except MissingCell Text)
    (rows : List ReportRow) : Except MissingCell (List Text) := do
  if rows.isEmpty then return []
  else return heading ++ (← rows.mapM line) ++ [[]]

/-- The report as Markdown. -/
def markdown (r : Report) : Except MissingCell Text := do
  let rewritten ← listed
    ["## Assets Rewritten", "| Asset | Nuggets | Translated |", "|-------|---------|------------|"]
    rewrittenLine r.rewritten
  let missing ← listed ["## Missing Translations"] missingLine r.missing
  return Text.join "\n" (r.summary ++ rewritten ++ missing)

/-- The report in a format. -/
def render (r : Report) : ReportFormat → Except MissingCell Text
  | .json => .ok r.json
  | .markdown => r.markdown

end Report

end Localize
