import EndpointDocs.Proofs.Source.History
import EndpointDocs.Proofs.Source.Search
import EndpointDocs.Proofs.Text.Lines

/-!
# The layout of a class

* `FieldDecl`, `Layout`: a class with its fields, each with or without a block, as they are written
  into a module.
* `classLine?_layout`: the search for the class stops at its statement.
* `aboveInBody?_lines`, **`fieldText_fields`**: the search in the body stops at the statement of a
  field, and the text above it is that of its own block.
* **`ask_layout`**: what a store answers about the class and its fields.
* `view_of_source`: a store shows the lines of a file as they were written.
-/

namespace EndpointDocs.Source

open Comment Text

/-! ## Classes as they are written -/

/-- A field in the body of a class: its block, if there is one, and its statement. -/
structure FieldDecl where
  doc : Option DocBlock
  margin : List Char
  name : String
  type : List Char
  margin_blank : Blank margin
  margin_ne_nil : margin ≠ []
  named : IsName name.toList
  balanced : bracketSurplus type = 0

namespace FieldDecl

def statement (f : FieldDecl) : Line := fieldStatement f.margin f.name.toList f.type

def lines (f : FieldDecl) : List Line := DocBlock.linesOf f.doc ++ [f.statement]

variable (f : FieldDecl)

theorem isCode_statement : IsCode f.statement := isCode_fieldStatement f.margin_blank f.named

theorem bracketSurplus_statement : bracketSurplus f.statement = 0 :=
  bracketSurplus_fieldStatement f.margin_blank f.named f.balanced

theorem declaresField_statement_iff (g : FieldDecl) :
    declaresField g.name.toList f.statement = true ↔ g.name = f.name := by
  rw [← String.toList_inj]
  exact declaresField_fieldStatement_iff f.margin_blank g.named f.named

end FieldDecl

/--
A module with a class: lines that end with a blank one and do not declare the class, the block of
the class, if there is one, its statement, its fields, and any further lines.
-/
structure Layout where
  before : List Line
  doc : Option DocBlock
  name : String
  fields : List FieldDecl
  after : List Line
  named : IsName name.toList
  separated : ∀ l ∈ before.getLast?, isEmptyLine l = true
  undeclared : ∀ l ∈ before, isComment .hash l = false → declaresClass name.toList l = false
  distinct : (fields.map (·.name)).Nodup

namespace Layout

/-- The lines below the statement of the class. -/
def body (src : Layout) : List Line := src.fields.flatMap FieldDecl.lines ++ src.after

def lines (src : Layout) : List Line :=
  src.before ++ (DocBlock.linesOf src.doc ++ (classStatement src.name.toList :: src.body))

end Layout

/-! ## The class -/

namespace Layout

variable (src : Layout)

theorem not_mentions_above :
    ∀ l ∈ src.before ++ DocBlock.linesOf src.doc, ¬ Mentions .hash src.name l := by
  rintro l hl ⟨hcode, hdeclares⟩
  rcases List.mem_append.mp hl with hl | hl
  · simp [src.undeclared l hl hcode] at hdeclares
  · simp [DocBlock.isComment_of_mem hl] at hcode

theorem mentions_statement_iff : Mentions .hash src.name (classStatement src.name.toList) ↔
    endsInWord src.name.toList = true := by
  rw [Mentions, declaresClass_classStatement src.named]
  exact and_iff_right (isCode_classStatement _).uncommented

theorem classLine?_layout (hword : endsInWord src.name.toList = true) :
    classLine? .hash src.name src.lines =
      some ((DocBlock.linesOf src.doc).reverse ++ src.before.reverse,
        classStatement src.name.toList, src.body) := by
  rw [lines, ← List.append_assoc, classLine?_of_first (src.mentions_statement_iff.mpr hword)
    src.not_mentions_above, List.reverse_append]

theorem classLine?_layout_eq_none (hword : endsInWord src.name.toList = false)
    (hbody : ∀ l ∈ src.body, isComment .hash l = false → declaresClass src.name.toList l = false) :
    classLine? .hash src.name src.lines = none := by
  refine classLine?_eq_none fun l hl hmentions => ?_
  rw [lines, ← List.append_assoc, List.mem_append, List.mem_cons] at hl
  rcases hl with hl | rfl | hl
  · exact src.not_mentions_above l hl hmentions
  · simp [src.mentions_statement_iff, hword] at hmentions
  · simp [Mentions, hbody l hl hmentions.1] at hmentions

theorem blockLines_before : blockLines .hash src.before.reverse = none := by
  cases hbefore : src.before.reverse with
  | nil => simp [blockLines, nearest]
  | cons l ls =>
    have hlast : l ∈ src.before.getLast? := by
      rw [← List.head?_reverse, hbefore]
      rfl
    have hempty : trim l = [] := by simpa [isEmptyLine] using src.separated l hlast
    refine blockLines_eq_none ?_ ?_ (.inl hempty) ls
    · rw [hempty]
      rfl
    · rw [hempty]
      rfl

theorem classText_layout (hword : endsInWord src.name.toList = true) (module qualname : String) :
    classText .hash (some (.cls module src.name qualname)) src.lines =
      src.doc.map DocBlock.text := by
  rw [classText, aboveClass?, src.classLine?_layout hword]
  exact descriptionAbove_linesOf src.blockLines_before src.doc

end Layout

/-! ## The fields -/

theorem aboveInBody?_lines (f : FieldDecl) (test : Line → Bool) (above rest : List Line) :
    aboveInBody? .hash 0 test above (f.lines ++ rest) =
      if test f.statement then some ((DocBlock.linesOf f.doc).reverse ++ above)
      else aboveInBody? .hash 0 test (f.lines.reverse ++ above) rest := by
  have hends : ¬ Ends .hash 0 f.statement :=
    not_ends_of_lt (indent_fieldStatement f.margin_blank f.margin_ne_nil)
  have hhits : Hits .hash test f.statement ↔ test f.statement = true := by
    simp [Hits, f.isCode_statement.nonblank, f.isCode_statement.uncommented]
  rw [FieldDecl.lines, List.append_assoc, List.singleton_append,
    aboveInBody?_append fun l hl => passed_of_isComment (DocBlock.isComment_of_mem hl),
    aboveInBody?_cons, if_neg hends, List.reverse_append, List.reverse_singleton,
    List.append_assoc, List.singleton_append]
  simp only [hhits]

/-- **The text of a field** is that of its own block, whatever stands above and below the fields. -/
theorem fieldText_fields {fields : List FieldDecl} (hdistinct : (fields.map (·.name)).Nodup)
    {f : FieldDecl} (hf : f ∈ fields) {above : List Line} (h : blockLines .hash above = none)
    (after : List Line) :
    (aboveInBody? .hash 0 (declaresField f.name.toList) above
      (fields.flatMap FieldDecl.lines ++ after)).bind (descriptionAbove .hash false) =
        f.doc.map DocBlock.text := by
  -- at each field, no block ends right above what comes next
  induction fields generalizing above with
  | nil => cases hf
  | cons g gs ih =>
    rw [List.map_cons, List.nodup_cons] at hdistinct
    rw [List.flatMap_cons, List.append_assoc, aboveInBody?_lines]
    rcases List.mem_cons.mp hf with rfl | hf
    · rw [if_pos ((f.declaresField_statement_iff f).mpr rfl)]
      exact descriptionAbove_linesOf h f.doc
    · have hother : ¬ declaresField f.name.toList g.statement = true := by
        intro hg
        have hname : f.name = g.name := (g.declaresField_statement_iff f).mp hg
        exact hdistinct.1 (hname ▸ List.mem_map_of_mem hf)
      rw [if_neg hother]
      refine ih hdistinct.2 hf ?_
      -- the statement of the one field hides its block from the next
      rw [FieldDecl.lines, List.reverse_append, List.append_assoc]
      exact g.isCode_statement.blockLines_eq_none g.bracketSurplus_statement _

theorem Layout.fieldText_layout (src : Layout) (hword : endsInWord src.name.toList = true)
    (module qualname : String) {f : FieldDecl} (hf : f ∈ src.fields) :
    fieldText .hash (some (.cls module src.name qualname)) f.name src.lines =
      f.doc.map DocBlock.text := by
  have hclass := (isCode_classStatement src.name.toList).blockLines_eq_none
    (bracketSurplus_classStatement src.named)
  simp only [fieldText, aboveDeclaration?, aboveMember?, src.classLine?_layout hword,
    Option.bind_eq_bind, Option.bind_some, indent_classStatement]
  exact fieldText_fields src.distinct hf (hclass _) src.after

/-! ## The answers of a store -/

theorem answer_of_view {s : Store} {q : Question} {ls : List Line} (h : s.view q.owner = .ok ls)
    (style : Style) : ((q.ask style).run.run s).1 = .ok (q.textIn style ls) := by
  rw [Store.view] at h
  rw [Store.run_ask]
  cases hpath : s.tree.pathOf? q.owner with
  | none =>
    rw [hpath] at h
    cases h
    rfl
  | some path =>
    rw [hpath] at h
    simp only at h ⊢
    rw [h]
    rfl

/-- **A store shows a file** of its source root as it was written, a newline behind each line. -/
theorem view_of_source {s : Store} {owner : Option Owner} {path : String} {ls : List Line}
    (hpath : s.tree.pathOf? owner = some path) (hread : Entries.find? path s.read = none)
    (hfile : Tree.file? s.tree.root path =
      some (String.ofList (ls.flatMap (· ++ ['\n']))).toUTF8)
    (hls : ∀ l ∈ ls, Unbroken l) : s.view owner = .ok ls := by
  have hdecode : ∀ text : String, Tree.decode text.toUTF8 = .ok (splitLines text.toList) := by
    intro text
    have hvalid : String.fromUTF8? text.toUTF8 = some text :=
      dif_pos (c := text.toUTF8.IsValidUTF8) text.isValidUTF8
    rw [Tree.decode, hvalid]
  simp only [Store.view, hpath, Store.linesOf, hread, Tree.load, hfile]
  rw [hdecode, String.toList_ofList, splitLines_flatMap_newline, endedLines_of_unbroken hls]

/--
**What is written is read back.** A store that shows a class as it was written answers with the
lines of the block of the class, and of that of each field, but those that start with `@`; and with
nothing for what has no block. This holds if the name of the class ends in a word character. If it
does not, the class is not found, and nothing is known of it and its fields.
-/
theorem ask_layout (src : Layout) (s : Store) (module qualname : String)
    (hview : s.view (some (.cls module src.name qualname)) = .ok src.lines) :
    let owner : Option Owner := some (.cls module src.name qualname)
    let answer (q : Question) := ((q.ask .hash).run.run s).1
    (endsInWord src.name.toList = true →
      answer (.cls owner) = .ok (src.doc.map DocBlock.text) ∧
        ∀ f ∈ src.fields, answer (.field owner f.name) = .ok (f.doc.map DocBlock.text)) ∧
    (endsInWord src.name.toList = false →
      (∀ l ∈ src.body, isComment .hash l = false → declaresClass src.name.toList l = false) →
      answer (.cls owner) = .ok none ∧ ∀ name, answer (.field owner name) = .ok none) := by
  intro owner answer
  have hcls : answer (.cls owner) = .ok (classText .hash owner src.lines) :=
    answer_of_view (q := .cls owner) hview .hash
  have hfield : ∀ name, answer (.field owner name) = .ok (fieldText .hash owner name src.lines) :=
    fun name => answer_of_view (q := .field owner name) hview .hash
  refine ⟨fun hword => ⟨?_, fun f hf => ?_⟩, fun hword hbody => ⟨?_, fun name => ?_⟩⟩
  · rw [hcls, src.classText_layout hword]
  · rw [hfield, src.fieldText_layout hword module qualname hf]
  · rw [hcls, classText, aboveClass?, src.classLine?_layout_eq_none hword hbody]
    rfl
  · simp only [hfield, owner, fieldText, aboveDeclaration?, aboveMember?,
      src.classLine?_layout_eq_none hword hbody]
    rfl

/-- A line of documentation behind some spaces. -/
def plainLine (depth : Nat) (text : String)
    (h : text.toList ≠ [] ∧ trim text.toList = text.toList ∧ '<' ∉ text.toList) : DocLine where
  margin := List.replicate depth ' '
  gap := [' ']
  text := text.toList
  margin_blank := by
    intro c hc
    rw [List.eq_of_mem_replicate hc]
    decide
  gap_blank := by decide
  gap_ne_nil := by decide
  text_ne_nil := h.1
  trimmed := h.2.1
  untagged := not_hasTag_of_not_mem h.2.2

def idField : FieldDecl where
  doc := some ⟨plainLine 4 "The id." (by decide), []⟩
  margin := "    ".toList
  name := "id"
  type := "int".toList
  margin_blank := by decide
  margin_ne_nil := by decide
  named := by decide
  balanced := by decide

def nickField : FieldDecl where
  doc := none
  margin := "    ".toList
  name := "nick"
  type := "list[str]".toList
  margin_blank := by decide
  margin_ne_nil := by decide
  named := by decide
  balanced := by decide

/-- A class with both fields. One line of its block is a tag. -/
def userLayout (name : String) (named : IsName name.toList) : Layout where
  before := [[]]
  doc := some ⟨plainLine 0 "A user." (by decide), [plainLine 0 "@since 1" (by decide)]⟩
  name := name
  fields := [idField, nickField]
  after := []
  named := named
  separated := by
    intro l hl
    obtain rfl := Option.some.inj hl
    rfl
  undeclared := by
    intro l hl _
    rw [List.mem_singleton.mp hl]
    rfl
  distinct := by decide

/-- A store whose source root holds the lines of a module in one file. -/
def lineStore (ls : List Line) : Store :=
  .ofTree ⟨[("app.py", (String.ofList (ls.flatMap (· ++ ['\n']))).toUTF8)], [], []⟩

theorem view_lineStore {ls : List Line} (h : ∀ l ∈ ls, Unbroken l) {owner : Owner}
    (howner : moduleOf owner = "app") : (lineStore ls).view (some owner) = .ok ls := by
  have hnormal : normalPath? "app.py" = some "app.py" := by decide +kernel
  have hpath : (lineStore ls).tree.pathOf? (some owner) = some "app.py" := by
    simp [lineStore, Store.ofTree, Tree.pathOf?, howner, Tree.pathOfModule?]
  refine view_of_source hpath rfl ?_ h
  simp [lineStore, Store.ofTree, Tree.file?, hnormal, Entries.find?]

/-- A store whose source root holds a class in one file. -/
def fileStore (src : Layout) : Store :=
  .ofTree ⟨[("app.py", (String.ofList (src.lines.flatMap (· ++ ['\n']))).toUTF8)], [], []⟩

theorem view_fileStore {src : Layout} (h : ∀ l ∈ src.lines, Unbroken l) :
    (fileStore src).view (some (.cls "app" src.name src.name)) = .ok src.lines :=
  view_lineStore h rfl

/-- The name of the class ends in a letter. -/
def plainLayout : Layout := userLayout "User" (by decide)

theorem ask_layout_plain :
    let owner : Option Owner := some (.cls "app" plainLayout.name plainLayout.name)
    let answer (q : Question) := ((q.ask .hash).run.run (fileStore plainLayout)).1
    (fileStore plainLayout).view owner = .ok plainLayout.lines ∧
      endsInWord plainLayout.name.toList = true ∧
      answer (.cls owner) = .ok (some "A user.") ∧
      answer (.field owner "id") = .ok (some "The id.") ∧
      answer (.field owner "nick") = .ok none := by
  intro owner answer
  have hview : (fileStore plainLayout).view owner = .ok plainLayout.lines :=
    view_fileStore (by decide)
  have hword : endsInWord plainLayout.name.toList = true := by decide
  obtain ⟨hcls, hfields⟩ := (ask_layout plainLayout _ "app" plainLayout.name hview).1 hword
  have hid := hfields idField (.head _)
  have hnick := hfields nickField (.tail _ (.head _))
  have hclsText : plainLayout.doc.map DocBlock.text = some "A user." := by decide +kernel
  have hidText : idField.doc.map DocBlock.text = some "The id." := by decide +kernel
  rw [hclsText] at hcls
  rw [hidText] at hid
  exact ⟨hview, hword, hcls, hid, hnick⟩

/-- The name of the class ends in a vowel sign, which is a part of names but no word character. -/
def markedLayout : Layout := userLayout "उपयोगकर्ता" (by decide)

/-- **Not every class that is written is read back.** -/
theorem not_ask_layout_all : ¬ ∀ (src : Layout) (s : Store) (module qualname : String),
    s.view (some (.cls module src.name qualname)) = .ok src.lines →
      let owner : Option Owner := some (.cls module src.name qualname)
      let answer (q : Question) := ((q.ask .hash).run.run s).1
      answer (.cls owner) = .ok (src.doc.map DocBlock.text) ∧
        ∀ f ∈ src.fields, answer (.field owner f.name) = .ok (f.doc.map DocBlock.text) := by
  intro h
  have hview : (fileStore markedLayout).view (some (.cls "app" markedLayout.name _)) =
      .ok markedLayout.lines := view_fileStore (by decide)
  have hlost : classLine? .hash markedLayout.name markedLayout.lines = none :=
    markedLayout.classLine?_layout_eq_none (by decide +kernel) (by decide +kernel)
  have hanswer := answer_of_view (q := .cls (some (.cls "app" markedLayout.name _))) hview .hash
  rw [Question.textIn, classText, aboveClass?, hlost] at hanswer
  have hcls := hanswer.symm.trans (h markedLayout _ "app" markedLayout.name hview).1
  cases hcls

end EndpointDocs.Source
