import EndpointDocs.Proofs.Text.Lines
import EndpointDocs.Report.Markdown

/-!
# The tables of a report

* `Fits`, `fits_clean`: a cleaned text stays on its line and between its bars.
* `orDash`, `cell_eq`: a cell holds the cleaned text, a dash if that is empty.
* `toList_row`: a row, cell by cell.
* `IsRow`, `isRow_row`: one line with one bar more than cells, from which the cells are read back.
* `written`: the lines of a document that are made of some texts.
* **`splitLines_render`**: the three tables of a report, row by row, and what stands around them.
-/

namespace EndpointDocs.Report

open Text (Unbroken)

/-! ## Cells -/

/-- A text that fits between the bars of a row: it has no break and no bar. -/
structure Fits (s : String) : Prop where
  unbroken : Unbroken s.toList
  barless : '|' ∉ s.toList

theorem fits_iff (s : String) : Fits s ↔ Unbroken s.toList ∧ '|' ∉ s.toList :=
  ⟨fun h => ⟨h.unbroken, h.barless⟩, fun h => ⟨h.1, h.2⟩⟩

instance (s : String) : Decidable (Fits s) := decidable_of_iff _ (fits_iff s).symm

theorem Fits.append {s t : String} (hs : Fits s) (ht : Fits t) : Fits (s ++ t) := by
  rw [fits_iff, String.toList_append]
  refine ⟨hs.unbroken.append ht.unbroken, fun h => ?_⟩
  rcases List.mem_append.mp h with h | h
  · exact hs.barless h
  · exact ht.barless h

theorem mem_joinWith {sep : List Char} {ls : List (List Char)} {c : Char}
    (h : c ∈ Text.joinWith sep ls) : c ∈ sep ∨ ∃ l ∈ ls, c ∈ l := by
  fun_induction Text.joinWith sep ls with
  | case1 => simp at h
  | case2 l => exact .inr ⟨l, List.mem_cons_self, h⟩
  | case3 l l' ls ih =>
    rcases List.mem_append.mp h with h | h
    · rcases List.mem_append.mp h with h | h
      · exact .inr ⟨l, List.mem_cons_self, h⟩
      · exact .inl h
    · rcases ih h with h | ⟨k, hk, hc⟩
      · exact .inl h
      · exact .inr ⟨k, List.mem_cons_of_mem _ hk, hc⟩

theorem fits_clean (s : String) : Fits (Cell.clean s) := by
  have hjoin : Unbroken (Text.joinWith [' '] (Text.splitLines s.toList)) := by
    intro c hc
    rcases mem_joinWith hc with hc | ⟨l, hl, hc⟩
    · rw [List.mem_singleton.mp hc]
      decide
    · exact Text.unbroken_of_mem_splitLines hl c hc
  rw [fits_iff, Cell.clean, String.toList_ofList, Cell.flatten]
  constructor
  · intro c hc
    obtain ⟨d, hd, rfl⟩ := List.mem_map.mp hc
    rw [Cell.unbar]
    split_ifs
    · decide
    · exact hjoin d hd
  · intro hbar
    obtain ⟨d, -, hd⟩ := List.mem_map.mp hbar
    rw [Cell.unbar] at hd
    split_ifs at hd with h
    · exact absurd hd (by decide)
    · exact h hd

/-- A text, a dash if it is empty. -/
def orDash (s : String) : String := if s = "" then "-" else s

theorem cell_eq : cell = fun s => orDash (Cell.clean s) := rfl

theorem fits_orDash (s : String) : Fits (orDash (Cell.clean s)) := by
  unfold orDash
  split_ifs
  · decide
  · exact fits_clean s

/-! ## Rows -/

/-- A text with a blank on each side. -/
def padded (s : String) : List Char := ' ' :: s.toList ++ [' ']

theorem toList_row {cells : List String} (h : cells ≠ []) :
    (row cells).toList = '|' :: cells.flatMap fun s => padded s ++ ['|'] := by
  have hcells : ' ' :: (" | ".intercalate cells ++ " |").toList =
      cells.flatMap fun s => padded s ++ ['|'] := by
    induction cells with
    | nil => exact absurd rfl h
    | cons s cells ih =>
      cases cells with
      | nil => simp [padded]
      | cons t cells =>
        rw [List.flatMap_cons, ← ih (by simp)]
        simp [padded, String.toList_intercalate]
  rw [← hcells, row]
  simp

/-- A line that shows cells between bars. -/
structure IsRow (bars : Nat) (l : List Char) (cells : List String) : Prop where
  unbroken : Unbroken l
  count_bar : l.count '|' = bars
  splitOn_bar : l.splitOn '|' = [] :: cells.map padded ++ [[]]

theorem Fits.padded {s : String} (h : Fits s) : Unbroken (padded s) ∧ '|' ∉ padded s := by
  have hblank : Unbroken [' '] := by decide
  refine ⟨(hblank.append h.unbroken).append hblank, ?_⟩
  simpa [Report.padded] using h.barless

section Cells

variable {cells : List String} (h : ∀ s ∈ cells, Fits s)
include h

theorem unbroken_cells : Unbroken (cells.flatMap fun s => padded s ++ ['|']) := by
  intro c hc
  obtain ⟨s, hs, hc⟩ := List.mem_flatMap.mp hc
  have hbar : Unbroken ['|'] := by decide
  exact (h s hs).padded.1.append hbar c hc

theorem count_bar_cells : (cells.flatMap fun s => padded s ++ ['|']).count '|' = cells.length := by
  induction cells with
  | nil => rfl
  | cons s cells ih =>
    have hbar := List.count_eq_zero_of_not_mem (h s List.mem_cons_self).padded.2
    have hrest := ih fun t ht => h t (List.mem_cons_of_mem _ ht)
    rw [List.flatMap_cons, List.count_append, List.count_append, hbar, hrest, List.length_cons,
      List.count_singleton_self]
    omega

theorem splitOn_cells :
    (cells.flatMap fun s => padded s ++ ['|']).splitOn '|' = cells.map padded ++ [[]] := by
  induction cells with
  | nil => rfl
  | cons s cells ih =>
    have hrest := ih fun t ht => h t (List.mem_cons_of_mem _ ht)
    have hs : ∀ c ∈ padded s, (c == '|') = false := by
      intro c hc
      have hne : c ≠ '|' := fun he => (h s List.mem_cons_self).padded.2 (he ▸ hc)
      simpa using hne
    rw [List.splitOn] at hrest ⊢
    rw [List.flatMap_cons, List.append_assoc, List.singleton_append,
      List.splitOnP_append_cons_of_forall_mem hs '|' (by simp), hrest, List.map_cons,
      List.cons_append]

theorem isRow_row (hne : cells ≠ []) : IsRow (cells.length + 1) (row cells).toList cells := by
  rw [toList_row hne]
  refine ⟨?_, ?_, ?_⟩
  · have hbar : Unbroken ['|'] := by decide
    exact hbar.append (unbroken_cells h)
  · rw [List.count_cons_self, count_bar_cells h]
  · rw [List.splitOn, List.splitOnP_cons_eq_if_modifyHead, if_pos (by simp), ← List.splitOn,
      splitOn_cells h]
    rfl

end Cells

/-! ## The tables -/

def basicCells (m : Metadata) : List (List String) := [
  ["Path", "`" ++ orDash (Cell.clean m.path) ++ "`"],
  ["Methods", orDash (Cell.clean m.methodLabel)],
  ["Group", orDash (Cell.clean m.groupName)],
  ["Content Type", orDash (Cell.clean m.contentType)]]

def parameterCells (p : ParameterDetail) : List String :=
  [orDash (Cell.clean p.name), orDash (Cell.clean p.typeName), p.role.name,
    if p.required then "Yes" else "No", orDash (Cell.clean p.description)]

def fieldCells (r : Row) : List String :=
  [orDash (Cell.clean r.path), orDash (Cell.clean r.typeName), orDash (Cell.clean r.description)]

/-- Lines that show records, one each and in their order. -/
abbrev AreRows (bars : Nat) (ls : List (List Char)) (records : List (List String)) : Prop :=
  List.Forall₂ (IsRow bars) ls records

/-- The rows of records. -/
def rowLines (records : List (List String)) : List (List Char) :=
  records.map fun cells => (row cells).toList

theorem areRows_rowLines {bars : Nat} (hbars : 1 < bars) {records : List (List String)}
    (h : ∀ cells ∈ records, cells.length + 1 = bars ∧ ∀ s ∈ cells, Fits s) :
    AreRows bars (rowLines records) records := by
  induction records with
  | nil => exact .nil
  | cons cells records ih =>
    obtain ⟨hlength, hfits⟩ := h cells List.mem_cons_self
    have hne : cells ≠ [] := by
      rintro rfl
      rw [List.length_nil] at hlength
      omega
    exact .cons (hlength ▸ isRow_row hfits hne) (ih fun cs hcs => h cs (List.mem_cons_of_mem _ hcs))

theorem AreRows.unbroken {bars : Nat} {ls : List (List Char)} {records : List (List String)}
    (h : AreRows bars ls records) : ∀ l ∈ ls, Unbroken l := by
  induction h with
  | nil => simp
  | cons hrow _ ih =>
    intro l hl
    rcases List.mem_cons.mp hl with rfl | hl
    · exact hrow.unbroken
    · exact ih l hl

theorem areRows_basicCells (m : Metadata) :
    AreRows 3 (rowLines (basicCells m)) (basicCells m) := by
  have hpath : Fits ("`" ++ orDash (Cell.clean m.path) ++ "`") :=
    (Fits.append (by decide) (fits_orDash m.path)).append (by decide)
  have hwords : Fits "Path" ∧ Fits "Methods" ∧ Fits "Group" ∧ Fits "Content Type" := by decide
  refine areRows_rowLines (by omega) fun cells hcells => ?_
  simp only [basicCells, List.mem_cons, List.not_mem_nil, or_false] at hcells
  rcases hcells with rfl | rfl | rfl | rfl
  all_goals simp [hwords, hpath, fits_orDash]

theorem areRows_parameterCells (ps : List ParameterDetail) :
    AreRows 6 (rowLines (ps.map parameterCells)) (ps.map parameterCells) := by
  have hrole : ∀ r : Role, Fits r.name := by
    intro r
    cases r <;> decide
  have hrequired : ∀ b : Bool, Fits (if b then "Yes" else "No") := by decide
  refine areRows_rowLines (by omega) fun cells hcells => ?_
  obtain ⟨p, -, rfl⟩ := List.mem_map.mp hcells
  simp [parameterCells, hrole, hrequired, fits_orDash]

theorem areRows_fieldCells (rs : List Row) :
    AreRows 4 (rowLines (rs.map fieldCells)) (rs.map fieldCells) := by
  refine areRows_rowLines (by omega) fun cells hcells => ?_
  obtain ⟨r, -, rfl⟩ := List.mem_map.mp hcells
  simp [fieldCells, fits_orDash]

/-! ## The document -/

/-- The lines of a document that are made of some texts, each of them ended by a newline. -/
def written (ls : List String) : List (List Char) := Text.endedLines (ls.map String.toList)

@[simp] theorem written_append (ls ls' : List String) :
    written (ls ++ ls') = written ls ++ written ls' := by
  simp [written]

theorem written_of_unbroken {ls : List String} (h : ∀ l ∈ ls.map String.toList, Unbroken l) :
    written ls = ls.map String.toList := Text.endedLines_of_unbroken h

theorem splitLines_intercalate (ls : List String) :
    Text.splitLines ("\n".intercalate (ls ++ [""])).toList = written ls := by
  have hended : ("\n".intercalate (ls ++ [""])).toList =
      (ls.map String.toList).flatMap (· ++ ['\n']) := by
    induction ls with
    | nil => rfl
    | cons l ls ih =>
      rw [List.cons_append, String.intercalate_cons_of_ne_nil (by simp), List.map_cons,
        List.flatMap_cons, ← ih]
      simp
  rw [hended, Text.splitLines_flatMap_newline]
  rfl

/-- The lines of a table: its titles, the rule below them, its rows and a blank line. -/
def tableLines (titles rule : String) (rows : List (List Char)) : List (List Char) :=
  titles.toList :: rule.toList :: rows ++ [[]]

theorem written_table {titles rule : String}
    (hhead : ∀ l ∈ [titles, rule].map String.toList, Unbroken l) {bars : Nat}
    {records : List (List String)} (h : AreRows bars (rowLines records) records) :
    written ([titles, rule] ++ records.map row ++ [""]) =
      tableLines titles rule (rowLines records) := by
  have hrows : (records.map row).map String.toList = rowLines records := by
    rw [List.map_map]
    rfl
  have hblank : written [""] = [[]] := rfl
  rw [written_append, written_append, hblank, written_of_unbroken hhead,
    written_of_unbroken (hrows ▸ h.unbroken), hrows]
  rfl

def basicSection (rows : List (List Char)) : List (List Char) :=
  ["## Basic Information".toList, []] ++ tableLines "| Item | Value |" "|------|-------|" rows

def parameterSection (rows : List (List Char)) : List (List Char) :=
  ["## Parameters".toList, []] ++
    if rows.isEmpty then ["_No parameters._".toList, []]
    else tableLines "| Name | Type | Location | Required | Description |"
      "|------|------|----------|----------|-------------|" rows

/-- The section on response fields; none without a field. -/
def fieldSection (rows : List (List Char)) : List (List Char) :=
  if rows.isEmpty then []
  else ["## Response Fields".toList, []] ++
    tableLines "| Field | Type | Description |" "|-------|------|-------------|" rows

theorem written_basics (m : Metadata) :
    written (["## Basic Information", ""] ++ basics m ++ [""]) =
      basicSection (rowLines (basicCells m)) := by
  have hbasics : ["## Basic Information", ""] ++ basics m ++ [""] = ["## Basic Information", ""] ++
      (["| Item | Value |", "|------|-------|"] ++ (basicCells m).map row ++ [""]) := by
    rw [basics, cell_eq]
    rfl
  rw [hbasics, written_append, written_table (by decide) (areRows_basicCells m)]
  rfl

theorem written_parameters (m : Metadata) :
    written (["## Parameters", ""] ++ parameters m) =
      parameterSection (rowLines (m.parameters.map parameterCells)) := by
  have hempty : (rowLines (m.parameters.map parameterCells)).isEmpty = m.parameters.isEmpty := by
    simp [rowLines]
  have hrows : m.parameters.map parameterRow = (m.parameters.map parameterCells).map row := by
    rw [List.map_map]
    refine List.map_congr_left fun p _ => ?_
    rw [parameterRow, cell_eq]
    rfl
  rw [written_append, parameterSection, hempty, parameters]
  split_ifs
  · rfl
  · rw [hrows, written_table (by decide) (areRows_parameterCells _)]
    rfl

theorem written_responseFields (m : Metadata) :
    written (responseFields m) = fieldSection (rowLines (m.responseFields.map fieldCells)) := by
  have hempty : (rowLines (m.responseFields.map fieldCells)).isEmpty =
      m.responseFields.isEmpty := by
    simp [rowLines]
  have hrows : m.responseFields.map fieldRow = (m.responseFields.map fieldCells).map row := by
    rw [List.map_map]
    refine List.map_congr_left fun r _ => ?_
    rw [fieldRow, cell_eq]
    rfl
  rw [fieldSection, hempty, responseFields]
  split_ifs
  · rfl
  · rw [show ["## Response Fields", "", "| Field | Type | Description |",
        "|-------|------|-------------|"] ++ m.responseFields.map fieldRow ++ [""] =
        ["## Response Fields", ""] ++ (["| Field | Type | Description |",
          "|-------|------|-------------|"] ++ m.responseFields.map fieldRow ++ [""]) from rfl,
      hrows, written_append, written_table (by decide) (areRows_fieldCells _)]
    rfl

/-- The examples behind the response fields and the end of a report. -/
def closing (m : Metadata) (actual : Option String) : List String :=
  codeSection "Response Example" m.responseExample ++
    codeSection "Actual Response" (actual.getD "") ++ ["---", "", "_Generated by api-dashboard_"]

/--
**The tables of a report stay whole**, whatever its texts hold. The lines of the document are those
of its heading, of the basic information, the parameters, the response fields and the examples, and
no others. Each table is one run of lines with one row for each record, in order; a row is one line,
has a fixed number of bars and parts at them into its cells: cleaned texts, a dash if empty.
-/
theorem splitLines_render (m : Metadata) (actual : Option String) :
    ∃ basicRows parameterRows fieldRows : List (List Char),
      AreRows 3 basicRows (basicCells m) ∧
      AreRows 6 parameterRows (m.parameters.map parameterCells) ∧
      AreRows 4 fieldRows (m.responseFields.map fieldCells) ∧
      Text.splitLines (render m actual).toList =
        written (heading m) ++ basicSection basicRows ++ parameterSection parameterRows ++
          written (codeSection "Request Example" m.bodyExample) ++ fieldSection fieldRows ++
          written (closing m actual) := by
  refine ⟨_, _, _, areRows_basicCells m, areRows_parameterCells m.parameters,
    areRows_fieldCells m.responseFields, ?_⟩
  have hlines : lines m actual = (heading m ++ (["## Basic Information", ""] ++ basics m ++ [""]) ++
      (["## Parameters", ""] ++ parameters m) ++ codeSection "Request Example" m.bodyExample ++
      responseFields m ++ closing m actual) ++ [""] := by
    simp [lines, closing]
  rw [render, hlines, splitLines_intercalate]
  -- one cut between each two sections
  rw [written_append, written_append, written_append, written_append, written_append,
    written_basics, written_parameters, written_responseFields]

end EndpointDocs.Report
