import EndpointDocs.Entries
import EndpointDocs.Text.Blank
import EndpointDocs.Text.LineBreak
import EndpointDocs.Text.Scan
import EndpointDocs.Text.Word

/-!
# Tags in documentation texts

* `tagOf?`: the name and the text of a tag line.
* `tags`: the tags of a text, `@param` tags under the name of their parameter.
* `paramText?`: the description that `@param` gives to one parameter.
-/

namespace EndpointDocs.Comment

open Text

/-- The name and the text of a tag line: `@`, a word, the rest of the line. -/
def tagOf? : List Char → Option (List Char × List Char)
  | '@' :: cs =>
    let name := cs.takeWhile isWordChar
    if name.isEmpty then none else some (name, trimStart (cs.dropWhile isWordChar))
  | _ => none

/-- The key and the value of a tag: a `@param` is known by its parameter and needs one. -/
def tagEntry? (name rest : List Char) : Option (String × String) :=
  if name = "param".toList then
    let parameter := rest.takeWhile (· != ' ')
    if parameter.isEmpty then none
    else some (String.ofList parameter,
      String.ofList (trim ((rest.dropWhile (· != ' ')).drop 1)))
  else some (String.ofList name, String.ofList (trim rest))

/-- The tags of a text in first-seen order; a later value replaces an earlier one. -/
def tags (text : String) : List (String × String) :=
  Entries.ofPairs <| (splitLines text.toList).filterMap fun l => do
    let (name, rest) ← tagOf? (trim l)
    tagEntry? name rest

/-- What stands behind `@param` and a name, up to the next newline. -/
def paramTail? (name : List Char) (cs : List Char) : Option (List Char) := do
  let cs ← after? "@param".toList cs
  afterSomeBlanks? (fun cs => do
    let cs ← after? name cs
    afterSomeBlanks? (fun cs => some (cs.takeWhile (· != '\n'))) cs) cs

/-- The description of a parameter in a text that holds its tags. -/
def paramText? (text : String) (name : String) : Option String :=
  (firstAt? (paramTail? name.toList) text.toList).map fun cs => String.ofList (trim cs)

end EndpointDocs.Comment
