import EndpointDocs.Proofs.Report.Fence

/-!
# Responses between fences

A report puts a response that was seen between two lines of backticks, as it came. A reader takes
the first line of backticks behind the opening one for the end of the block.

* `isFence`, `readBlock`: a line that ends a block, and the lines in a block and behind it.
* `readBlock_append`, `readBlock_eq_iff`: a block ends at the first such line.
* `rawLines_dropNewlines`: what a text loses at its end are empty lines.
* `rawLines_render`: the lines of a report, with the section of the response in its place.
* `Shows`, `shows_render`: the lines of a report behind the opening fence of the response.
* **`render_response`**: a response stays in its block just when it has no line of backticks.
-/

namespace EndpointDocs.Report

/-! ## Reading a block -/

/-- Whether a line ends a block: three or more backticks alone. -/
def isFence (l : List Char) : Bool := 3 ≤ l.length && l.all (· == '`')

/-- The lines in a block and those behind it, given the lines behind its opening fence. -/
def readBlock (ls : List (List Char)) : List (List Char) × List (List Char) :=
  (ls.takeWhile (!isFence ·), (ls.dropWhile (!isFence ·)).tail)

section Block

variable {inner : List (List Char)} {fence : List Char}

theorem readBlock_append (hinner : ∀ l ∈ inner, isFence l = false) (hfence : isFence fence = true)
    (outer : List (List Char)) : readBlock (inner ++ fence :: outer) = (inner, outer) := by
  have hpass : ∀ l ∈ inner, (!isFence l) = true := by simpa using hinner
  rw [readBlock, List.takeWhile_append_of_pos hpass, List.dropWhile_append_of_pos hpass]
  simp [hfence]

/-- **A block ends at a fence** just when no line before that one is a fence. -/
theorem readBlock_eq_iff (hfence : isFence fence = true) (outer : List (List Char)) :
    readBlock (inner ++ fence :: outer) = (inner, outer) ↔ ∀ l ∈ inner, isFence l = false := by
  constructor
  · intro h l hl
    have hinner : inner = (readBlock (inner ++ fence :: outer)).1 := by rw [h]
    rw [hinner] at hl
    simpa using List.mem_takeWhile_imp hl
  · intro h
    exact readBlock_append h hfence outer

end Block

/-! ## The newlines at the end of a text -/

theorem rawLines_append_newlines (cs : List Char) (k : Nat) :
    rawLines (cs ++ List.replicate k '\n') = rawLines cs ++ List.replicate k [] := by
  induction k generalizing cs with
  | zero => simp
  | succ k ih =>
    have hnewline : isBreak '\n' = true := by decide
    have hrest := ih []
    rw [List.nil_append] at hrest
    rw [List.replicate_succ, rawLines, List.splitOnP_append_cons _ _ hnewline, ← rawLines,
      ← rawLines, hrest, List.replicate_succ]
    rfl

/-- **What a text loses at its end** are empty lines. -/
theorem rawLines_dropNewlines (text : String) : ∃ k,
    rawLines text.toList = rawLines (dropNewlines text).toList ++ List.replicate k [] := by
  have hnewlines : (text.toList.reverse.takeWhile (· == '\n')).reverse =
      List.replicate (text.toList.reverse.takeWhile (· == '\n')).length '\n' := by
    rw [List.eq_replicate_iff, List.length_reverse]
    refine ⟨rfl, fun c hc => ?_⟩
    simpa using List.mem_takeWhile_imp (List.mem_reverse.mp hc)
  have htext : text.toList = (dropNewlines text).toList ++
      (text.toList.reverse.takeWhile (· == '\n')).reverse := by
    rw [dropNewlines, String.toList_ofList, ← List.reverse_append,
      List.takeWhile_append_dropWhile, List.reverse_reverse]
  refine ⟨(text.toList.reverse.takeWhile (· == '\n')).length, ?_⟩
  rw [← rawLines_append_newlines, ← hnewlines, ← htext]

theorem forall_mem_rawLines_iff (text : String) :
    (∀ l ∈ rawLines text.toList, isFence l = false) ↔
      ∀ l ∈ rawLines (dropNewlines text).toList, isFence l = false := by
  obtain ⟨k, hk⟩ := rawLines_dropNewlines text
  have hempty : ∀ l ∈ List.replicate k ([] : List Char), isFence l = false := by
    intro l hl
    rw [List.eq_of_mem_replicate hl]
    rfl
  rw [hk, List.forall_mem_append]
  exact and_iff_left hempty

/-! ## The section of a response -/

/-- The texts of a report in front of the response. -/
def front (m : Metadata) : List String :=
  heading m ++ ["## Basic Information", ""] ++ basics m ++ ["", "## Parameters", ""] ++
    parameters m ++ codeSection "Request Example" m.bodyExample ++ responseFields m ++
    codeSection "Response Example" m.responseExample

/-- The last lines of a report. -/
def ending : List (List Char) := ["---".toList, [], "_Generated by api-dashboard_".toList, []]

/-- What a report puts behind a response: a fence, a blank line and the last lines. -/
def closingLines : List (List Char) := "```".toList :: [] :: ending

theorem rawLines_render (m : Metadata) (actual : Option String) :
    rawLines (render m actual).toList = (front m).flatMap (fun l => rawLines l.toList) ++
      (codeSection "Actual Response" (actual.getD "")).flatMap (fun l => rawLines l.toList) ++
      ending := by
  have hlines : lines m actual = front m ++ codeSection "Actual Response" (actual.getD "") ++
      ["---", "", "_Generated by api-dashboard_", ""] := rfl
  have hending : ["---", "", "_Generated by api-dashboard_", ""].flatMap
      (fun l => rawLines l.toList) = ending := by decide
  rw [render, hlines, rawLines_intercalate (by simp), List.flatMap_append, List.flatMap_append,
    hending]

/--
A report shows a response with some lines behind its opening fence: it is the report without the
response up to the last lines, and then a title, the opening fence and these lines.
-/
def Shows (m : Metadata) (text : String) (behind : List (List Char)) : Prop :=
  ∃ before, rawLines (render m none).toList = before ++ ending ∧
    rawLines (render m (some text)).toList =
      before ++ "## Actual Response".toList :: [] :: "```json".toList :: behind

theorem shows_render (m : Metadata) {text : String} (hne : text ≠ "") :
    Shows m text (rawLines (dropNewlines text).toList ++ closingLines) := by
  refine ⟨(front m).flatMap fun l => rawLines l.toList, ?_, ?_⟩
  · rw [rawLines_render]
    simp [codeSection]
  · have hempty : rawLines "".toList = [[]] := rfl
    have htitle : rawLines ("## " ++ "Actual Response").toList = ["## Actual Response".toList] := by
      decide
    have hopening : rawLines "```json".toList = ["```json".toList] := by decide
    have hclosing : rawLines "```".toList = ["```".toList] := by decide
    rw [rawLines_render, Option.getD_some, codeSection, if_neg hne, codeBlock]
    simp only [List.flatMap_append, List.flatMap_cons, List.flatMap_nil]
    rw [hempty, htitle, hopening, hclosing]
    simp [closingLines]

/--
**A response stays in its block** just when none of its lines is three or more backticks alone. For
every endpoint and response, the report with it is the report without it and one section more: the
lines of the response between two fences, less empty lines at its end. The reader of the block finds
the response in it and nothing else if no line is a fence; otherwise the first such line ends the
block, and the rest of the response stands behind it, outside.
-/
theorem render_response (m : Metadata) {text : String} (hne : text ≠ "") :
    let body := rawLines (dropNewlines text).toList
    (∃ k, rawLines text.toList = body ++ List.replicate k []) ∧
      Shows m text (body ++ closingLines) ∧
      (readBlock (body ++ closingLines) = (body, [] :: ending) ↔
        ∀ l ∈ rawLines text.toList, isFence l = false) ∧
      ∀ inner fence outer, body = inner ++ fence :: outer → isFence fence = true →
        (∀ l ∈ inner, isFence l = false) →
          readBlock (body ++ closingLines) = (inner, outer ++ closingLines) := by
  have hfence : isFence "```".toList = true := by decide
  refine ⟨rawLines_dropNewlines text, shows_render m hne, ?_, ?_⟩
  · rw [forall_mem_rawLines_iff]
    exact readBlock_eq_iff hfence ([] :: ending)
  · intro inner fence outer hbody hend hinner
    rw [hbody, List.append_assoc, List.cons_append]
    exact readBlock_append hinner hend (outer ++ closingLines)

/-- An endpoint of which nothing is told. -/
def plainMetadata : Metadata where
  endpoint :=
    { path := "/a", methods := ["GET"], group := "demo", owner := none, handler := "a"
      parameters := [], response := .leaf .string "str" "builtins.str" }
  groupName := "Demo"
  contentType := "FORM"
  bodyExample := ""
  parameters := []
  responseExample := "\x7b\x7d"
  responseFields := []
  description := ""

/-- A response with a fence in it and a heading behind the fence. -/
def fencedText : String := "ok\n```\n# Injected\n"

theorem rawLines_fencedText : rawLines (dropNewlines fencedText).toList =
    ["ok".toList, "```".toList, "# Injected".toList] := by decide

theorem render_response_fencedText : fencedText ≠ "" ∧
    Shows plainMetadata fencedText
      (["ok".toList, "```".toList, "# Injected".toList] ++ closingLines) ∧
    readBlock (["ok".toList, "```".toList, "# Injected".toList] ++ closingLines) =
      (["ok".toList], "# Injected".toList :: closingLines) := by
  have hne : fencedText ≠ "" := by decide
  obtain ⟨-, hshows, -, hblock⟩ := render_response plainMetadata hne
  rw [rawLines_fencedText] at hshows hblock
  exact ⟨hne, hshows, hblock ["ok".toList] "```".toList ["# Injected".toList] rfl (by decide)
    (by decide)⟩

/-- **A response need not stay in its block**: a line of backticks in it ends the block early. -/
theorem not_readBlock_response_all : ¬ ∀ (m : Metadata) (text : String), text ≠ "" →
    ∀ behind, Shows m text behind →
      readBlock behind = (rawLines (dropNewlines text).toList, [] :: ending) := by
  intro h
  have hne : fencedText ≠ "" := by decide
  have hread := h plainMetadata fencedText hne _ (shows_render plainMetadata hne)
  rw [rawLines_fencedText] at hread
  exact absurd hread (by decide)

end EndpointDocs.Report
