import EndpointDocs.Comment.Cell
import EndpointDocs.Endpoint.Basic

/-!
# Markdown reports

* `Report.cell`: a text in a table cell; an empty one is a dash.
* `Report.row`, `Report.codeBlock`: the building blocks of a report.
* `Report.render`: the report of an endpoint.
* `Report.notFound`: the report of a key without an endpoint.
-/

namespace EndpointDocs.Report

def cell (s : String) : String := if Cell.clean s = "" then "-" else Cell.clean s

def row (cells : List String) : String := "| " ++ " | ".intercalate cells ++ " |"

/-- A text without the newlines at its end. -/
def dropNewlines (s : String) : String :=
  String.ofList (s.toList.reverse.dropWhile (· == '\n')).reverse

def codeBlock (body : String) : List String := ["```json", dropNewlines body, "```", ""]

/-- A section with a fenced block; none for an empty text. -/
def codeSection (title body : String) : List String :=
  if body = "" then [] else ["## " ++ title, ""] ++ codeBlock body

def descriptionLines (m : Metadata) : List String :=
  (Text.splitLines m.description.toList).map String.ofList

/-- The title and what follows it of the description. -/
def heading (m : Metadata) : List String :=
  match descriptionLines m with
  | [] => ["# " ++ m.endpoint.handler, ""]
  | [l] => ["# " ++ l, ""]
  | l :: ls => ["# " ++ l, "", "\n".intercalate ls, ""]

def basics (m : Metadata) : List String := [
  "| Item | Value |",
  "|------|-------|",
  row ["Path", "`" ++ cell m.path ++ "`"],
  row ["Methods", cell m.methodLabel],
  row ["Group", cell m.groupName],
  row ["Content Type", cell m.contentType]]

def parameterRow (p : ParameterDetail) : String :=
  row [cell p.name, cell p.typeName, p.role.name, if p.required then "Yes" else "No",
    cell p.description]

def parameters (m : Metadata) : List String :=
  if m.parameters.isEmpty then ["_No parameters._", ""]
  else [
    "| Name | Type | Location | Required | Description |",
    "|------|------|----------|----------|-------------|"] ++
    m.parameters.map parameterRow ++ [""]

def fieldRow (r : Row) : String := row [cell r.path, cell r.typeName, cell r.description]

def responseFields (m : Metadata) : List String :=
  if m.responseFields.isEmpty then []
  else [
    "## Response Fields", "",
    "| Field | Type | Description |",
    "|-------|------|-------------|"] ++
    m.responseFields.map fieldRow ++ [""]

/-- The lines of a report, newlines inside them included. -/
def lines (m : Metadata) (actual : Option String) : List String :=
  heading m ++ ["## Basic Information", ""] ++ basics m ++ ["", "## Parameters", ""] ++
    parameters m ++ codeSection "Request Example" m.bodyExample ++ responseFields m ++
    codeSection "Response Example" m.responseExample ++
    codeSection "Actual Response" (actual.getD "") ++
    ["---", "", "_Generated by api-dashboard_", ""]

/-- The report of an endpoint, with a response that was really seen if there is one. -/
def render (m : Metadata) (actual : Option String) : String := "\n".intercalate (lines m actual)

/-- The report of a key that no endpoint has. -/
def notFound (key : String) : String := "# Not Found\n\nNo endpoint matches `" ++ key ++ "`.\n"

end EndpointDocs.Report
