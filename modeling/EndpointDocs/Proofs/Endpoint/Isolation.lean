import EndpointDocs.Proofs.Endpoint.Parameters
import EndpointDocs.Proofs.Endpoint.Paths

/-!
# Parameters that fail

The detail of a parameter cannot always be built: its default may have no text, and sources may fail
when they are asked for its description. Such a parameter is left out; nothing else changes.

* `Builder.fails`: whether the detail of a parameter cannot be built.
* `Builder.adds`, `run_addParameter`: what one parameter adds to a summary.
* `run_parameters`: the summary of all parameters, in a closed form.
* `told_without`: with given answers, what is told does not depend on parameters that fail.
* **`build_without_failing`**: the same for any sources whose answers do not depend on what was asked
  before.
-/

namespace EndpointDocs

variable {σ : Type}

/-! ## Sources and their own answers -/

theorem DocsRelated.refl (docs : Docs σ) : DocsRelated Eq True docs docs := by
  have hsame (x : Lookup σ (Option String)) :
      Related Eq (Agree (SameText True)) x.run x.run := by
    rintro s _ rfl
    exact ⟨.refl (fun _ _ => rfl) _, rfl⟩
  exact ⟨fun _ => hsame _, fun _ _ => hsame _, fun _ _ => hsame _, fun _ _ _ => hsame _⟩

theorem BuilderRelated.refl (b : Builder σ) : BuilderRelated Eq True b b where
  docs := .refl b.docs
  noDescription := rfl
  example_eq := rfl
  rows d := by
    rintro s _ rfl
    exact ⟨.refl _, rfl⟩

/-- An endpoint without the parameters that pass a test. -/
def Endpoint.without (e : Endpoint) (test : Parameter → Bool) : Endpoint :=
  { e with parameters := e.parameters.filter (!test ·) }

/-- Whether the default of a parameter, if it has one, has a text. -/
def Parameter.isPrintable (p : Parameter) : Bool := p.default.all (·.text?.isSome)

namespace Builder

variable (b : Builder Unit) (e : Endpoint)

/-! ## What one parameter adds -/

/--
Whether the detail of a parameter cannot be built: its description cannot be looked up, or its
default has no text. A body with parts has an example in place of a detail.
-/
def fails (p : Parameter) : Bool :=
  !p.isComplexBody && !(((b.paramText e p).run.run ()).1.isOk && p.isPrintable)

/-- The details that a parameter adds: its own, or a makeshift for a body without an example. -/
def adds (p : Parameter) : List ParameterDetail :=
  if p.isComplexBody then (if (b.example? p.type).isSome then [] else [complexBody p])
  else ((b.detail? e p).run ()).1.toList

variable {b e} {p : Parameter}

theorem run_bind_forgetful {α β : Type} (x : StateM Unit α) (f : α → StateM Unit β) :
    ((x >>= f).run ()).1 = ((f (x.run ()).1).run ()).1 := rfl

theorem isSome_detail? : ((b.detail? e p).run ()).1.isSome =
    (((b.paramText e p).run.run ()).1.isOk && p.isPrintable) := by
  unfold detail? Parameter.isPrintable
  rw [run_bind_forgetful]
  cases ((b.paramText e p).run.run ()).1 with
  | error f => rfl
  | ok text =>
    cases p.default with
    | none => rfl
    | some d => cases htext : d.text? <;> simp [htext] <;> rfl

theorem adds_of_fails (h : b.fails e p = true) : b.adds e p = [] := by
  unfold fails at h
  rw [← isSome_detail?, Bool.and_eq_true, Bool.not_eq_true', Bool.not_eq_true'] at h
  obtain ⟨hp, hnone⟩ := h
  rw [Option.isSome_eq_false_iff, Option.isNone_iff_eq_none] at hnone
  rw [adds, if_neg (by simp [hp]), hnone, Option.toList_none]

theorem isComplexBody_iff :
    p.isComplexBody = true ↔ p.role = .body ∧ p.type.isScalar = false := by
  simp [Parameter.isComplexBody]

/-- **What a parameter adds**: details behind the others, an example in place of an earlier one. -/
theorem run_addParameter (s : ParameterSummary) : ((b.addParameter e s p).run ()).1 =
    ⟨s.details ++ b.adds e p,
      if p.isComplexBody then (b.example? p.type).getD "" else s.bodyExample,
      s.hasBody || p.role == .body⟩ := by
  unfold addParameter adds
  by_cases hp : p.isComplexBody = true
  · obtain ⟨hrole, hscalar⟩ := isComplexBody_iff.mp hp
    rw [if_pos hrole, if_neg (by simp [hscalar]), if_pos hp, if_pos hp, hrole, beq_self_eq_true,
      Bool.or_true]
    cases b.example? p.type with
    | some text => simp only [Option.isSome_some, if_true, List.append_nil]; rfl
    | none => rfl
  · rw [if_neg hp, if_neg hp]
    by_cases hrole : p.role = .body
    · have hscalar : p.type.isScalar = true := by
        simpa [isComplexBody_iff, hrole] using hp
      rw [if_pos hrole, if_pos hscalar, hrole, beq_self_eq_true, Bool.or_true]
      rfl
    · rw [if_neg hrole, beq_eq_false_iff_ne.mpr hrole, Bool.or_false]
      rfl

/-! ## All parameters -/

variable (b e) in
/-- The summary of some parameters: their details in order, and the example of the last body. -/
def sum (ps : List Parameter) : ParameterSummary :=
  ⟨ps.flatMap (b.adds e), b.lastExample ps, ps.any (·.role == .body)⟩

theorem run_parameters : ((b.parameters e).run ()).1 = b.sum e e.parameters := by
  refine Gives.foldlM (P := fun ps s => s = b.sum e ps) _ rfl (fun ps p _ s hs t => ?_) ()
  obtain rfl := hs
  refine (run_addParameter _).trans ?_
  simp [sum, lastExample_concat]

/-- **Parameters that fail add nothing** but that there is a body. -/
theorem sum_filter (ps : List Parameter) :
    b.sum e ps = { b.sum e (ps.filter (!b.fails e ·)) with
      hasBody := ps.any (·.role == .body) } := by
  have hadds : (ps.filter (!b.fails e ·)).flatMap (b.adds e) = ps.flatMap (b.adds e) := by
    rw [flatMap_filter]
    refine List.flatMap_congr fun p _ => ?_
    cases hp : b.fails e p with
    | true => rw [adds_of_fails hp]; rfl
    | false => rfl
  have hbodies : (ps.filter (!b.fails e ·)).filter (·.isComplexBody) =
      ps.filter (·.isComplexBody) := by
    rw [List.filter_filter]
    refine List.filter_congr fun p _ => ?_
    cases hp : p.isComplexBody <;> simp [fails, hp]
  simp only [sum, lastExample, hadds, hbodies]

/-! ## Metadata -/

/-- **Parameters that fail are left out** of what is told, and all else stays. -/
theorem told_without : b.told e = (b.told (e.without (b.fails e))).map fun m =>
    { m with
      endpoint := e
      contentType := if e.parameters.any (·.role == .body) then "JSON" else "FORM" } := by
  have hname : b.groupName (e.without (b.fails e)) = b.groupName e := rfl
  have hparameters : ((b.parameters (e.without (b.fails e))).run ()).1 =
      b.sum e (e.parameters.filter (!b.fails e ·)) := run_parameters
  rw [told_eq, told_eq, run_parameters, sum_filter, hparameters, hname]
  cases ((b.groupName e).run.run ()).1 with
  | error f => rfl
  | ok name =>
    have howner : (e.without (b.fails e)).owner = e.owner := rfl
    have hhandler : (e.without (b.fails e)).handler = e.handler := rfl
    rw [howner, hhandler]
    cases ((b.docs.methodText e.owner e.handler).run.run ()).1 with
    | error f => rfl
    | ok text => rfl

/-- Whether the texts that metadata cannot do without are found. -/
structure Finds (b : Builder Unit) (e : Endpoint) : Prop where
  classText : ∀ o, e.owner = some o → ((b.docs.classText (some o)).run.run ()).1.isOk = true
  methodText : ((b.docs.methodText e.owner e.handler).run.run ()).1.isOk = true

theorem isOk_groupName (h : b.Finds e) : ((b.groupName e).run.run ()).1.isOk = true := by
  unfold groupName
  cases ho : e.owner with
  | none => rfl
  | some o =>
    have hclass := h.classText o ho
    simp only [run_bind_unit]
    cases htext : ((b.docs.classText (some o)).run.run ()).1 with
    | error f =>
      rw [htext] at hclass
      cases hclass
    | ok text =>
      simp only [Except.bind]
      split <;> rfl

theorem isOk_told (h : b.Finds e) : (b.told e).isOk = true := by
  have hname := isOk_groupName h
  have hmethod := h.methodText
  rw [told_eq]
  cases hn : ((b.groupName e).run.run ()).1 with
  | error f =>
    rw [hn] at hname
    cases hname
  | ok name =>
    cases ht : ((b.docs.methodText e.owner e.handler).run.run ()).1 with
    | error f =>
      rw [ht] at hmethod
      cases hmethod
    | ok text => rfl

/--
**Parameters that fail are isolated.** Let the answers of sources not depend on what was asked
before, and let the texts of the owner and the handler be found. However many details of parameters
cannot be built, there is metadata: it is that of the endpoint without these parameters, but that
the content is JSON just if the endpoint has a body, be it one that fails.
-/
theorem build_without_failing {I : σ → Unit → Prop} {b : Builder σ} {answers : Builder Unit}
    (h : BuilderRelated I True b answers) (e : Endpoint) (hfound : answers.Finds e)
    {s t : σ} (hs : I s ()) (ht : I t ()) :
    ∃ m m', ((b.build e).run.run s).1 = .ok m ∧
      ((b.build (e.without (answers.fails e))).run.run t).1 = .ok m' ∧
      m = { m' with
        endpoint := e
        contentType := if e.parameters.any (·.role == .body) then "JSON" else "FORM" } := by
  have hrun (e : Endpoint) {s : σ} (hs : I s ()) :
      ((b.build e).run.run s).1 = answers.told e :=
    (build_related h e s () hs).1.eq fun _ _ hm => hm.same trivial
  have hok := isOk_told hfound
  rw [hrun e hs, hrun _ ht]
  rw [told_without] at hok ⊢
  cases hm : answers.told (e.without (answers.fails e)) with
  | error f =>
    rw [hm] at hok
    cases hok
  | ok m => exact ⟨_, m, rfl, rfl, rfl⟩

/-- A builder whose sources refuse to tell about the parameter `lost`. -/
def refusing : Builder Unit :=
  .standard .empty (.fixed (.ok none) (.ok (some "Orders things.")) (fun _ => .ok none)
    fun name => if name = "lost" then .error .refused else .ok none) 3 "No description"

/-- Orders things: of four parameters, one has a description and two have no printable default. -/
def orderEndpoint : Endpoint :=
  tagEndpoint [
    bareParameter "lost" .query (.cls (.standard .str)),
    bareParameter "id" .query (.cls (.standard .int)),
    { bareParameter "odd" .path (.cls (.standard .str)) with default := some .unprintable },
    { bareParameter "note" .body (.cls (.standard .str)) with default := some .unprintable }]

theorem build_without_failing_order :
    BuilderRelated Eq True refusing refusing ∧ refusing.Finds orderEndpoint ∧
      (orderEndpoint.parameters.filter (refusing.fails orderEndpoint)).map (·.name) =
        ["lost", "odd", "note"] ∧
      ∃ m, ((refusing.build orderEndpoint).run.run ()).1 = .ok m ∧
        m.parameters.map (·.name) = ["id"] ∧ m.contentType = "JSON" ∧
        m.description = "Orders things." := by
  have hfound : refusing.Finds orderEndpoint := ⟨nofun, rfl⟩
  obtain ⟨m, m', hm, hm', heq⟩ :=
    build_without_failing (.refl refusing) orderEndpoint hfound (s := ()) (t := ()) rfl rfl
  have hrest : (refusing.told (orderEndpoint.without (refusing.fails orderEndpoint))).map
      (fun m => (m.parameters.map (·.name), m.description)) =
        .ok (["id"], "Orders things.") := by decide +kernel
  rw [told, hm'] at hrest
  obtain ⟨hnames, hdescription⟩ := Prod.mk.inj (Except.ok.inj hrest)
  have hbody : orderEndpoint.parameters.any (·.role == .body) = true := by decide
  rw [hbody] at heq
  subst heq
  exact ⟨.refl refusing, hfound, by decide +kernel, _, hm, hnames, rfl, hdescription⟩

end Builder

end EndpointDocs
