import EndpointDocs.Endpoint.Builder
import Mathlib.Data.List.Induction

/-!
# Parameters in metadata

A parameter is told about in one of two ways: by a detail in a list, or by the example of a body. The
list keeps every detail, but there is one example only.

* `Gives`, `Answers`: what holds of every answer of a computation; a lookup that cannot fail.
* `Gives.foldlM`: what each step keeps, a run keeps.
* `Builder.bodyExample?`: the example that a parameter is told about by, if it is.
* `Builder.Summarizes`: what a summary of parameters says; `gives_addParameter`, `gives_parameters`.
* **`build_represents`**: which parameters metadata tells about.
* **`not_represents_all`**: of two bodies with parts, one gets lost.
-/

namespace EndpointDocs

variable {σ α β γ : Type}

/-! ## Answers -/

/-- Whatever is remembered, the answer has a property. -/
def Gives (P : α → Prop) (x : StateM σ α) : Prop := ∀ s, P (x.run s).1

theorem Gives.pure {P : α → Prop} {a : α} (h : P a) : Gives P (Pure.pure a : StateM σ α) :=
  fun _ => h

theorem Gives.bind {P : α → Prop} {Q : β → Prop} {x : StateM σ α} {f : α → StateM σ β}
    (h : Gives P x) (hf : ∀ a, P a → Gives Q (f a)) : Gives Q (x >>= f) := fun s =>
  hf _ (h s) _

theorem Gives.foldlM {P : List γ → α → Prop} {f : α → γ → StateM σ α} {a : α} (xs : List γ)
    (hnil : P [] a)
    (hstep : ∀ ys, ∀ x ∈ xs, ∀ a, P ys a → Gives (P (ys ++ [x])) (f a x)) :
    Gives (P xs) (xs.foldlM f a) := by
  induction xs using List.reverseRecOn with
  | nil => exact .pure hnil
  | append_singleton xs x ih =>
    simp only [List.foldlM_append, List.foldlM_cons]
    refine .bind (ih fun ys y hy => hstep ys y (List.mem_append_left _ hy)) fun a ha => ?_
    exact .bind (hstep xs x (by simp) a ha) fun _ hb => .pure hb

/-- A lookup does not fail, and its answer has a property. -/
def Answers (P : α → Prop) (x : Lookup σ α) : Prop := Gives (fun r => ∃ a, r = .ok a ∧ P a) x.run

theorem Answers.pure {P : α → Prop} {a : α} (h : P a) :
    Answers P (Pure.pure a : Lookup σ α) := fun _ => ⟨a, rfl, h⟩

theorem Answers.lift {P : α → Prop} {x : StateM σ α} (h : Gives P x) :
    Answers P (liftM x : Lookup σ α) := fun s => ⟨_, rfl, h s⟩

theorem Answers.bind {P : α → Prop} {Q : β → Prop} {x : Lookup σ α} {f : α → Lookup σ β}
    (h : Answers P x) (hf : ∀ a, P a → Answers Q (f a)) : Answers Q (x >>= f) := by
  unfold Answers
  rw [ExceptT.run_bind]
  refine Gives.bind h ?_
  rintro _ ⟨a, rfl, ha⟩
  exact hf a ha

/-- All that sources are asked for an endpoint has an answer. -/
structure Docs.AnswersFor (docs : Docs σ) (e : Endpoint) : Prop where
  classText : Answers (fun _ => True) (docs.classText e.owner)
  methodText : Answers (fun _ => True) (docs.methodText e.owner e.handler)
  paramText : ∀ p ∈ e.parameters, Answers (fun _ => True) (docs.paramText e.owner e.handler p.name)

/-- Whether the default of a parameter, if it has one, can be printed. -/
def Parameter.IsPrintable (p : Parameter) : Prop := ∀ d, p.default = some d → d.text?.isSome = true

/-! ## Details and the example of the body -/

/-- Whether a parameter is a body whose values have parts. -/
def Parameter.isComplexBody (p : Parameter) : Bool := p.role == .body && !p.type.isScalar

namespace Builder

variable (b : Builder σ)

/-- The example that takes the place of a detail. -/
def bodyExample? (p : Parameter) : Option String :=
  if p.isComplexBody then b.example? p.type else none

/-- The example of the last body that has parts. -/
def lastExample (ps : List Parameter) : String :=
  (ps.filter (·.isComplexBody)).getLast?.elim "" fun p => (b.example? p.type).getD ""

/-- What a summary says about parameters. -/
structure Summarizes (ps : List Parameter) (s : ParameterSummary) : Prop where
  names : s.details.map (·.name) = (ps.filter fun p => (b.bodyExample? p).isNone).map (·.name)
  bodyExample : s.bodyExample = b.lastExample ps

/-- Metadata tells about a parameter: by a detail with its name, or by its example. -/
def Represents (m : Metadata) (p : Parameter) : Prop :=
  (∃ d ∈ m.parameters, d.name = p.name) ∨ b.bodyExample? p = some m.bodyExample

variable {b} {e : Endpoint} {p : Parameter} {ps : List Parameter} {s : ParameterSummary}

theorem lastExample_concat : b.lastExample (ps ++ [p]) =
    if p.isComplexBody then (b.example? p.type).getD "" else b.lastExample ps := by
  unfold lastExample
  cases hp : p.isComplexBody <;> simp [hp]

theorem gives_detail? (hdefault : p.IsPrintable)
    (hdocs : Answers (fun _ => True) (b.docs.paramText e.owner e.handler p.name)) :
    Gives (fun d => d.map (·.name) = some p.name) (b.detail? e p) := by
  have htext : Answers (fun _ => True) (b.paramText e p) := by
    unfold paramText
    split_ifs
    · exact .pure trivial
    · exact hdocs
  unfold detail?
  refine .bind htext ?_
  rintro _ ⟨text, rfl, -⟩
  dsimp only
  cases hd : p.default with
  | none => exact .pure rfl
  | some d =>
    obtain ⟨shown, hshown⟩ := Option.isSome_iff_exists.mp (hdefault d hd)
    exact .pure (by rw [hshown]; rfl)

theorem summarizes_concat_of_detail {d : Option ParameterDetail} {hasBody : Bool}
    (h : b.Summarizes ps s) (hp : p.isComplexBody = false) (hd : d.map (·.name) = some p.name) :
    b.Summarizes (ps ++ [p]) ⟨s.details ++ d.toList, s.bodyExample, hasBody⟩ where
  names := by
    obtain ⟨detail, rfl, hname⟩ := Option.map_eq_some_iff.mp hd
    simp [h.names, bodyExample?, hp, hname]
  bodyExample := by
    rw [lastExample_concat, hp]
    exact h.bodyExample

theorem gives_addParameter (hdefault : p.IsPrintable)
    (hdocs : Answers (fun _ => True) (b.docs.paramText e.owner e.handler p.name))
    (h : b.Summarizes ps s) :
    Gives (b.Summarizes (ps ++ [p])) (b.addParameter e s p) := by
  unfold addParameter
  split_ifs with hrole hscalar
  · have hp : p.isComplexBody = false := by simp [Parameter.isComplexBody, hscalar]
    exact .bind (gives_detail? hdefault hdocs) fun d hd =>
      .pure (summarizes_concat_of_detail ⟨h.names, h.bodyExample⟩ hp hd)
  · -- of a body with parts there is either an example or a detail, and the example is the last one
    have hp : p.isComplexBody = true := by simp [Parameter.isComplexBody, hrole, hscalar]
    dsimp only
    cases hexample : b.example? p.type with
    | some text =>
      refine .pure ⟨?_, ?_⟩
      · simp [h.names, bodyExample?, hp, hexample]
      · simp [lastExample_concat, hp, hexample]
    | none =>
      refine .pure ⟨?_, ?_⟩
      · simp [h.names, bodyExample?, hp, hexample, complexBody]
      · simp [lastExample_concat, hp, hexample]
  · have hp : p.isComplexBody = false := by simp [Parameter.isComplexBody, hrole]
    exact .bind (gives_detail? hdefault hdocs) fun d hd =>
      .pure (summarizes_concat_of_detail h hp hd)

theorem gives_parameters (hdocs : b.docs.AnswersFor e)
    (hdefault : ∀ p ∈ e.parameters, p.IsPrintable) :
    Gives (b.Summarizes e.parameters) (b.parameters e) :=
  .foldlM _ ⟨rfl, rfl⟩ fun _ p hp _ h =>
    gives_addParameter (hdefault p hp) (hdocs.paramText p hp) h

theorem answers_groupName (hdocs : b.docs.AnswersFor e) :
    Answers (fun _ => True) (b.groupName e) := by
  unfold groupName
  cases ho : e.owner with
  | none => exact .pure trivial
  | some o =>
    refine .bind (ho ▸ hdocs.classText) fun text _ => ?_
    split <;> exact .pure trivial

/-- Metadata has what the summary of the parameters says. -/
theorem answers_build (hdocs : b.docs.AnswersFor e)
    (hdefault : ∀ p ∈ e.parameters, p.IsPrintable) :
    Answers (fun m => ∃ s, b.Summarizes e.parameters s ∧ m.parameters = s.details ∧
      m.bodyExample = s.bodyExample) (b.build e) := by
  unfold build
  refine .bind (.lift (gives_parameters hdocs hdefault)) fun s hs => ?_
  refine .bind (answers_groupName hdocs) fun _ _ => ?_
  refine .bind (.lift (P := fun _ => True) fun _ => trivial) fun _ _ => ?_
  exact .bind hdocs.methodText fun _ _ => .pure ⟨s, hs, rfl, rfl⟩

theorem represents_iff {m : Metadata} (h : b.Summarizes e.parameters s)
    (hdetails : m.parameters = s.details) (hexample : m.bodyExample = s.bodyExample) :
    b.Represents m p ↔ (∃ q ∈ e.parameters, q.name = p.name ∧ b.bodyExample? q = none) ∨
      b.bodyExample? p = some (b.lastExample e.parameters) := by
  have hnames : (∃ d ∈ m.parameters, d.name = p.name) ↔ p.name ∈ s.details.map (·.name) := by
    rw [hdetails, List.mem_map]
  rw [Represents, hnames, h.names, hexample, h.bodyExample, List.mem_map]
  refine or_congr_left (exists_congr fun q => ?_)
  rw [List.mem_filter, Option.isNone_iff_eq_none, and_assoc, and_comm (a := q.name = p.name)]

theorem bodyExample?_eq_last {text : String} (hp : p ∈ ps) (h : b.bodyExample? p = some text)
    (hone : (ps.filter (·.isComplexBody)).length ≤ 1) : text = b.lastExample ps := by
  rw [bodyExample?] at h
  split_ifs at h with hcomplex
  have hmem : p ∈ ps.filter (·.isComplexBody) := List.mem_filter.mpr ⟨hp, hcomplex⟩
  obtain ⟨q, hq⟩ := List.length_eq_one_iff.mp
    (Nat.le_antisymm hone (List.length_pos_of_mem hmem))
  rw [hq, List.mem_singleton] at hmem
  rw [lastExample, hq, ← hmem, List.getLast?_singleton, Option.elim_some, h, Option.getD_some]

/--
**What metadata says about parameters.** If sources answer and defaults can be printed, a build has
metadata; it tells about all parameters with a detail, and about a body with parts just if its example
is the one of the last such body, or if something else has its name. One such body is never lost.
-/
theorem build_represents (b : Builder σ) (e : Endpoint) (hdocs : b.docs.AnswersFor e)
    (hdefault : ∀ p ∈ e.parameters, p.IsPrintable) (s : σ) :
    ∃ m, ((b.build e).run.run s).1 = .ok m ∧
      m.parameters.map (·.name) =
        (e.parameters.filter fun p => (b.bodyExample? p).isNone).map (·.name) ∧
      m.bodyExample = b.lastExample e.parameters ∧
      (∀ p, b.Represents m p ↔ (∃ q ∈ e.parameters, q.name = p.name ∧ b.bodyExample? q = none) ∨
        b.bodyExample? p = some (b.lastExample e.parameters)) ∧
      ((e.parameters.filter (·.isComplexBody)).length ≤ 1 →
        ∀ p ∈ e.parameters, b.Represents m p) := by
  obtain ⟨m, hm, summary, hsummary, hdetails, hexample⟩ := answers_build hdocs hdefault s
  have hrepresents (p : Parameter) := represents_iff (p := p) hsummary hdetails hexample
  refine ⟨m, hm, hdetails ▸ hsummary.names, hexample.trans hsummary.bodyExample, hrepresents,
    fun hone p hp => (hrepresents p).mpr ?_⟩
  cases htext : b.bodyExample? p with
  | none => exact .inl ⟨p, hp, rfl, htext⟩
  | some text => exact .inr (congrArg some (bodyExample?_eq_last hp htext hone))

/-- A builder whose sources have no texts. -/
def wordless : Builder Unit :=
  .standard .empty (.fixed (.ok none) (.ok none) (fun _ => .ok none) fun _ => .ok none) 3
    "No description"

theorem answersFor_wordless (e : Endpoint) : wordless.docs.AnswersFor e where
  classText _ := ⟨none, rfl, trivial⟩
  methodText _ := ⟨none, rfl, trivial⟩
  paramText _ _ _ := ⟨none, rfl, trivial⟩

/-- A required parameter without a description. -/
def bareParameter (name : String) (role : Role) (t : TypeExpr) : Parameter where
  name
  type := Universe.empty.describe t
  role
  description := ""
  required := true
  default := none

def idsBody : Parameter :=
  bareParameter "ids" .body (.generic (.standard .list) [.cls (.standard .int)])

def labelsBody : Parameter :=
  bareParameter "labels" .body
    (.generic (.standard .dict) [.cls (.standard .str), .cls (.standard .str)])

/-- A handler that puts tags on things. -/
def tagEndpoint (parameters : List Parameter) : Endpoint where
  path := "/tags"
  methods := ["POST"]
  group := "tags"
  owner := none
  handler := "tag"
  parameters
  response := Universe.empty.describe .any

theorem build_represents_tags :
    let e := tagEndpoint [bareParameter "tag" .query (.cls (.standard .str)), labelsBody]
    wordless.docs.AnswersFor e ∧
      (∀ p ∈ e.parameters, p.IsPrintable) ∧
      (e.parameters.filter (·.isComplexBody)).length ≤ 1 ∧
      ∃ m, ((wordless.build e).run.run ()).1 = .ok m ∧ m.parameters.map (·.name) = ["tag"] ∧
        ∀ p ∈ e.parameters, wordless.Represents m p := by
  intro e
  have hdefault : ∀ p ∈ e.parameters, p.IsPrintable := by
    simp [e, tagEndpoint, labelsBody, bareParameter, Parameter.IsPrintable]
  have hone : (e.parameters.filter (·.isComplexBody)).length ≤ 1 := by decide +kernel
  obtain ⟨m, hm, hnames, -, -, hall⟩ :=
    build_represents wordless e (answersFor_wordless e) hdefault ()
  exact ⟨answersFor_wordless e, hdefault, hone, m, hm, hnames.trans (by decide +kernel), hall hone⟩

/-- **Of two bodies with parts, one gets lost**: the example of the first makes room for the last. -/
theorem not_represents_all : ¬ ∀ (b : Builder Unit) (e : Endpoint), b.docs.AnswersFor e →
    (∀ p ∈ e.parameters, p.IsPrintable) →
    ∀ m, ((b.build e).run.run ()).1 = .ok m → ∀ p ∈ e.parameters, b.Represents m p := by
  intro hall
  have hdocs := answersFor_wordless (tagEndpoint [idsBody, labelsBody])
  have hdefault : ∀ p ∈ (tagEndpoint [idsBody, labelsBody]).parameters, p.IsPrintable := by
    simp [tagEndpoint, idsBody, labelsBody, bareParameter, Parameter.IsPrintable]
  obtain ⟨m, hm, s, hsummary, hdetails, hexample⟩ := answers_build hdocs hdefault ()
  have hlost := hall _ _ hdocs hdefault m hm idsBody List.mem_cons_self
  rw [represents_iff hsummary hdetails hexample] at hlost
  revert hlost
  decide +kernel

end Builder

end EndpointDocs
