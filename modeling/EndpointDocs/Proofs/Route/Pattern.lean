import EndpointDocs.Route.Path
import Mathlib.Data.List.DropRight

/-!
# Written route paths

* `Route.Variable`: `{name}` or `{name:converter}`, as it is written in a path.
* `Route.Pattern`: a path as literals without braces alternating with variables.
* **`Pattern.pathVariables_text`**: reading a written path gives the names of its variables.
* **`Pattern.pathVariables_join`**: a path below a prefix has the variables of both.
* `Route.FullPath`: a path as it is registered, with the prefix of its controller if there is one.
-/

namespace EndpointDocs.Route

/-- A variable as it is written in a path, with or without a converter behind its name. -/
structure Variable where
  name : List Char
  converter : Option (List Char)
  name_ne_nil : name ≠ []
  isWordChar_of_mem : ∀ c ∈ name, Text.isWordChar c = true
  close_not_mem : ∀ cs ∈ converter, '}' ∉ cs

/-- A text without braces. -/
def Braceless (cs : List Char) : Prop := '{' ∉ cs ∧ '}' ∉ cs

instance (cs : List Char) : Decidable (Braceless cs) :=
  inferInstanceAs (Decidable ('{' ∉ cs ∧ '}' ∉ cs))

/-- A path as it is written: a literal, then variables with a literal behind each of them. -/
structure Pattern where
  first : List Char
  rest : List (Variable × List Char)
  braceless_first : Braceless first
  braceless_rest : ∀ e ∈ rest, Braceless e.2

/-! ## Variables -/

namespace Variable

variable (v : Variable)

/-- What stands behind the name of a variable. -/
def ending : List Char := v.converter.elim ['}'] fun cs => ':' :: (cs ++ ['}'])

def text : List Char := '{' :: (v.name ++ v.ending)

/-- **The name is read back** whatever stands behind the variable. -/
theorem variableHere?_append (cs : List Char) :
    variableHere? (v.name ++ v.ending ++ cs) = some (v.name, cs) := by
  have hname : v.name.isEmpty = false := by simpa using v.name_ne_nil
  unfold variableHere?
  rw [List.append_assoc, List.takeWhile_append_of_pos v.isWordChar_of_mem,
    List.dropWhile_append_of_pos v.isWordChar_of_mem]
  cases hconverter : v.converter with
  | none =>
    have hclose : Text.isWordChar '}' = false := by decide
    simp [ending, hconverter, hclose, hname]
  | some ds =>
    have hcolon : Text.isWordChar ':' = false := by decide
    -- the converter ends at the first closing brace
    have hds : (ds ++ '}' :: cs).dropWhile (· != '}') = '}' :: cs := by
      have hopen : ∀ d ∈ ds, (d != '}') = true := by
        intro d hd
        rw [bne_iff_ne]
        rintro rfl
        exact v.close_not_mem ds hconverter hd
      rw [List.dropWhile_append_of_pos hopen, List.dropWhile_cons_of_neg (by simp)]
    simp [ending, hconverter, hcolon, hname, hds]

theorem pathVariables_append (cs : List Char) :
    pathVariables (v.text ++ cs) = v.name :: pathVariables cs := by
  rw [text, List.cons_append, pathVariables, if_pos rfl]
  split
  next h =>
    rw [variableHere?_append] at h
    cases h
    rfl
  next h =>
    rw [variableHere?_append] at h
    cases h

/-- A variable ends with a brace. -/
theorem getLast?_text : v.text.getLast? = some '}' := by
  obtain ⟨cs, hcs⟩ : ∃ cs, v.ending = cs ++ ['}'] := by
    cases hconverter : v.converter with
    | none => exact ⟨[], by simp [ending, hconverter]⟩
    | some cs => exact ⟨':' :: cs, by simp [ending, hconverter]⟩
  rw [text, hcs, ← List.append_assoc, ← List.cons_append, List.getLast?_concat]

end Variable

theorem pathVariables_braceless {cs : List Char} (h : Braceless cs) (ds : List Char) :
    pathVariables (cs ++ ds) = pathVariables ds := by
  induction cs with
  | nil => rfl
  | cons c cs ih =>
    obtain ⟨hopen, hclose⟩ := h
    rw [List.mem_cons, not_or] at hopen hclose
    rw [List.cons_append, pathVariables, if_neg (Ne.symm hopen.1), ih ⟨hopen.2, hclose.2⟩]

/-! ## Paths -/

namespace Pattern

variable (p : Pattern)

/-- Variables with the literals behind them, as they are written. -/
def written (es : List (Variable × List Char)) : List Char := es.flatMap fun e => e.1.text ++ e.2

def text : String := String.ofList (p.first ++ written p.rest)

/-- The names of the variables from left to right. -/
def names : List (List Char) := p.rest.map (·.1.name)

theorem pathVariables_written {es : List (Variable × List Char)} (h : ∀ e ∈ es, Braceless e.2)
    (cs : List Char) :
    pathVariables (written es ++ cs) = es.map (·.1.name) ++ pathVariables cs := by
  induction es with
  | nil => rfl
  | cons e es ih =>
    obtain ⟨he, hes⟩ := List.forall_mem_cons.mp h
    rw [written, List.flatMap_cons, ← written, List.append_assoc, List.append_assoc,
      e.1.pathVariables_append, pathVariables_braceless he, ih hes]
    rfl

/-- **Reading a written path gives the names of its variables**, from left to right. -/
theorem pathVariables_text : pathVariables p.text.toList = p.names := by
  rw [text, String.toList_ofList, pathVariables_braceless p.braceless_first]
  have hread := pathVariables_written p.braceless_rest []
  rwa [List.append_nil, pathVariables, List.append_nil] at hread

/-! ## Paths below a prefix -/

/-- A path without the slashes that it starts with; they belong to its first literal. -/
def trimStart : Pattern where
  first := p.first.dropWhile isSlash
  rest := p.rest
  braceless_first := p.braceless_first.imp
    (mt ((List.dropWhile_suffix _).subset ·)) (mt ((List.dropWhile_suffix _).subset ·))
  braceless_rest := p.braceless_rest

theorem text_trimStart : p.trimStart.text.toList = p.text.toList.dropWhile isSlash := by
  simp only [text, trimStart, String.toList_ofList, List.dropWhile_append]
  split
  next h =>
    rw [List.isEmpty_iff.mp h, List.nil_append]
    cases p.rest with
    | nil => rfl
    | cons e es => rfl
  next => rfl

/-- A path as its last literal and what stands in front of it: all of its variables. -/
theorem exists_front : ∃ front last, p.text.toList = front ++ last ∧ Braceless last ∧
    (∀ c ∈ front.getLast?, isSlash c = false) ∧
    ∀ cs, pathVariables (front ++ cs) = p.names ++ pathVariables cs := by
  obtain hnil | ⟨es, e, hrest⟩ := List.eq_nil_or_concat p.rest
  · refine ⟨[], p.first, ?_, p.braceless_first, nofun, fun cs => ?_⟩
    · simp [text, hnil, written]
    · simp [names, hnil]
  · have hbraceless := p.braceless_rest
    rw [hrest, List.concat_eq_append, List.forall_mem_append] at hbraceless
    obtain ⟨hes, he⟩ := hbraceless
    refine ⟨p.first ++ written es ++ e.1.text, e.2, ?_, he e (List.mem_singleton_self e), ?_,
      fun cs => ?_⟩
    · simp [text, hrest, written]
    · intro c hc
      rw [List.getLast?_append, e.1.getLast?_text] at hc
      cases hc
      decide
    · rw [List.append_assoc, List.append_assoc, pathVariables_braceless p.braceless_first,
        pathVariables_written hes, e.1.pathVariables_append]
      simp [names, hrest]

theorem rdropWhile_append {front last : List Char} (h : ∀ c ∈ front.getLast?, isSlash c = false) :
    (front ++ last).rdropWhile isSlash = front ++ last.rdropWhile isSlash := by
  induction last using List.reverseRecOn with
  | nil =>
    rw [List.append_nil, List.rdropWhile_nil, List.append_nil, List.rdropWhile_eq_self_iff]
    intro hne
    simp [h _ (List.getLast_mem_getLast? hne)]
  | append_singleton last c ih =>
    rw [← List.append_assoc, List.rdropWhile_concat, List.rdropWhile_concat]
    split
    · exact ih
    · exact List.append_assoc ..

/-- **A path below a prefix has the variables of both**, whatever slashes stand at the seam. -/
theorem pathVariables_join (base p : Pattern) :
    pathVariables (join base.text p.text).toList = base.names ++ p.names := by
  obtain ⟨front, last, htext, hlast, hfront, hread⟩ := base.exists_front
  unfold join
  split
  next hempty =>
    have hnames : base.names = [] := by
      have h := base.pathVariables_text
      rw [hempty] at h
      exact h.symm.trans (by simp [pathVariables])
    rw [hnames, p.pathVariables_text, List.nil_append]
  next =>
    have hseam : Braceless (last.rdropWhile isSlash ++ ['/']) := by
      have hmem : ∀ {c : Char}, c ∉ last → c ≠ '/' → c ∉ last.rdropWhile isSlash ++ ['/'] := by
        intro c hc hslash h
        obtain h | h := List.mem_append.mp h
        · exact hc ((List.rdropWhile_prefix isSlash (l := last)).subset h)
        · exact hslash (List.mem_singleton.mp h)
      exact ⟨hmem hlast.1 (by decide), hmem hlast.2 (by decide)⟩
    have hbase : (base.text.toList.reverse.dropWhile isSlash).reverse =
        front ++ last.rdropWhile isSlash := by
      rw [htext, ← List.rdropWhile, rdropWhile_append hfront]
    rw [String.toList_ofList, hbase, ← text_trimStart, List.append_assoc, hread,
      List.append_cons, pathVariables_braceless hseam, pathVariables_text]
    rfl

end Pattern

/-- A path as it is registered: the own one of a function, or one below a controller's prefix. -/
inductive FullPath where
  | own (path : Pattern)
  | below (base path : Pattern)

namespace FullPath

def text : FullPath → String
  | own path => path.text
  | below base path => join base.text path.text

/-- The names of the variables of the prefix and of the path. -/
def names : FullPath → List (List Char)
  | own path => path.names
  | below base path => base.names ++ path.names

theorem pathVariables_text (path : FullPath) : pathVariables path.text.toList = path.names := by
  cases path with
  | own path => exact path.pathVariables_text
  | below base path => exact base.pathVariables_join path

end FullPath

end EndpointDocs.Route
