import EndpointDocs.Text.LineBreak

/-!
# Texts for table cells

* `Cell.flatten`: one line without a column bar.
* `Cell.ofOption`: the flattened text, or a text in its place.
-/

namespace EndpointDocs.Cell

/-- A column bar becomes a slash. -/
def unbar (c : Char) : Char := if c = '|' then '/' else c

/-- The lines of a text on one line, with a space for each break and a slash for each bar. -/
def flatten (cs : List Char) : List Char := (Text.joinWith [' '] (Text.splitLines cs)).map unbar

/-- A text that fits into a table cell. -/
def clean (s : String) : String := String.ofList (flatten s.toList)

/-- The text that fits into a table cell, or another text if there is none. -/
def ofOption (text : Option String) (otherwise : String) : String := text.elim otherwise clean

end EndpointDocs.Cell
