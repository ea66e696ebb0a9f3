import EndpointDocs.Endpoint.Builder
import EndpointDocs.Proofs.Source.View

/-!
# What sources contribute to metadata

* `ParameterDetail.undescribed`, `Row.undescribed`, `Metadata.undescribed`: without descriptions.
* `SameUpTo`: the same without descriptions and, where this matters, the same at all.
* `collect_related`, `parameters_related`, `groupName_related`: the parts of metadata.
* **`build_related`**: sources that answer or fail alike give metadata that differs in descriptions.
* `Builder.told`, `isOk_told_iff`: with given lines, a build fails only with the owner's module.
-/

namespace EndpointDocs

/-! ## Metadata without descriptions -/

/-- What is told about a parameter without its description. -/
def ParameterDetail.undescribed (p : ParameterDetail) : ParameterDetail :=
  { p with description := "" }

/-- A row without its description. -/
def Row.undescribed (r : Row) : Row := { r with description := "" }

/-- Metadata without what its sources say: no descriptions and no name for the group. -/
def Metadata.undescribed (m : Metadata) : Metadata :=
  { m with
    groupName := "", description := ""
    parameters := m.parameters.map (·.undescribed)
    responseFields := m.responseFields.map (·.undescribed) }

@[simp] theorem Metadata.endpoint_undescribed (m : Metadata) :
    m.undescribed.endpoint = m.endpoint := rfl

/-- A summary without the descriptions of the parameters. -/
def ParameterSummary.undescribed (s : ParameterSummary) : ParameterSummary :=
  { s with details := s.details.map (·.undescribed) }

/-- Two values that are the same once something is erased, and at all where this matters. -/
structure SameUpTo {α β : Type} (exact : Prop) (erase : α → β) (a b : α) : Prop where
  erased : erase a = erase b
  same : exact → a = b

variable {σ τ : Type} {I : σ → τ → Prop} {exact : Prop}

theorem SameUpTo.refl {α β : Type} {erase : α → β} (a : α) : SameUpTo exact erase a a :=
  ⟨rfl, fun _ => rfl⟩

theorem SameUpTo.append {α β : Type} {erase : α → β} {as as' bs bs' : List α}
    (ha : SameUpTo exact (List.map erase) as as') (hb : SameUpTo exact (List.map erase) bs bs') :
    SameUpTo exact (List.map erase) (as ++ bs) (as' ++ bs') :=
  ⟨by rw [List.map_append, List.map_append, ha.erased, hb.erased],
    fun he => by rw [ha.same he, hb.same he]⟩

theorem SameUpTo.toList {α β : Type} {erase : α → β} {a a' : Option α}
    (h : SameUpTo exact (Option.map erase) a a') :
    SameUpTo exact (List.map erase) a.toList a'.toList :=
  ⟨by rw [← Option.toList_map, ← Option.toList_map, h.erased], fun he => by rw [h.same he]⟩

/-! ## Rows -/

section Rows

variable {docs : Docs σ} {docs' : Docs τ}

theorem fieldCell_related (h : DocsRelated I exact docs docs') (f : Field) :
    Related I (Agree fun a b => exact → a = b) (Rows.fieldCell (some docs) f).run
      (Rows.fieldCell (some docs') f).run := by
  unfold Rows.fieldCell
  cases f.owner with
  | none => exact .lookup_pure fun _ => rfl
  | some o =>
    refine .lookup_bind (h.fieldText (some o) f.name) fun a b hab => ?_
    exact .lookup_pure fun he => by rw [hab he]

theorem collect_related (h : DocsRelated I exact docs docs') (u : Universe) (depth : Nat)
    (path : String) (d : Descriptor) {rows rows' : Array Row}
    (hrows : SameUpTo exact (Array.map Row.undescribed) rows rows') :
    Related I (SameUpTo exact (Array.map Row.undescribed))
      (Rows.collect u (some docs) depth path d rows)
      (Rows.collect u (some docs') depth path d rows') := by
  induction depth generalizing path d rows rows' with
  | zero => exact .pure hrows
  | succ n ih =>
    unfold Rows.collect
    refine .foldlM _ (fun a b f _ hab => ?_) hrows
    split_ifs
    · exact .pure hab
    · cases u.describeField? f with
      | none => exact .pure hab
      | some t =>
        refine .bind (fieldCell_related h f) fun x y hxy => ?_
        cases hxy with
        | error e => exact .pure hab
        | ok hcell =>
          refine ih _ t ⟨?_, fun he => ?_⟩
          · rw [Array.map_push, Array.map_push, hab.erased]
            rfl
          · rw [hab.same he, hcell he]

end Rows

/-! ## Builders -/

/-- Builders that differ in their sources only. -/
structure BuilderRelated (I : σ → τ → Prop) (exact : Prop) (b : Builder σ) (b' : Builder τ) :
    Prop where
  docs : DocsRelated I exact b.docs b'.docs
  noDescription : b.noDescription = b'.noDescription
  example_eq : b.example? = b'.example?
  rows : ∀ d, Related I (SameUpTo exact (Option.map (List.map Row.undescribed))) (b.rows? d)
    (b'.rows? d)

theorem standard_related {docs : Docs σ} {docs' : Docs τ} (h : DocsRelated I exact docs docs')
    (u : Universe) (limit : Int) (noDescription : String) :
    BuilderRelated I exact (Builder.standard u docs limit noDescription)
      (Builder.standard u docs' limit noDescription) where
  docs := h
  noDescription := rfl
  example_eq := rfl
  rows d := by
    refine .bind (collect_related h u _ "" d (.refl #[])) fun a b hab => .pure ⟨?_, fun he => ?_⟩
    · have := congrArg Array.toList hab.erased
      simpa using this
    · rw [hab.same he]

section Builders

variable {b : Builder σ} {b' : Builder τ} (h : BuilderRelated I exact b b') (e : Endpoint)
include h

theorem paramText_related (p : Parameter) :
    Related I (Agree (SameText exact)) (b.paramText e p).run (b'.paramText e p).run := by
  unfold Builder.paramText
  split_ifs
  · exact .lookup_pure fun _ => rfl
  · exact h.docs.paramText _ _ _

theorem detail?_related (p : Parameter) :
    Related I (SameUpTo exact (Option.map ParameterDetail.undescribed)) (b.detail? e p)
      (b'.detail? e p) := by
  unfold Builder.detail?
  refine .bind (paramText_related h e p) fun x y hxy => ?_
  cases hxy with
  | error _ => exact .pure (.refl _)
  | ok htext =>
    cases p.default with
    | none => exact .pure ⟨rfl, fun he => by rw [htext he, h.noDescription]⟩
    | some d =>
      refine .pure ⟨?_, fun he => by rw [htext he, h.noDescription]⟩
      cases d.text? <;> rfl

theorem addParameter_related {s s' : ParameterSummary}
    (hs : SameUpTo exact ParameterSummary.undescribed s s') (p : Parameter) :
    Related I (SameUpTo exact ParameterSummary.undescribed) (b.addParameter e s p)
      (b'.addParameter e s' p) := by
  obtain ⟨details, body, hasBody⟩ := s
  obtain ⟨details', body', hasBody'⟩ := s'
  obtain ⟨herased, hsame⟩ := hs
  simp only [ParameterSummary.undescribed, ParameterSummary.mk.injEq] at herased hsame
  obtain ⟨hdetails, rfl, rfl⟩ := herased
  have hd : SameUpTo exact (List.map ParameterDetail.undescribed) details details' :=
    ⟨hdetails, fun he => (hsame he).1⟩
  have summary {ds ds' : List ParameterDetail} (body : String) (hasBody : Bool)
      (h : SameUpTo exact (List.map ParameterDetail.undescribed) ds ds') :
      SameUpTo exact ParameterSummary.undescribed ⟨ds, body, hasBody⟩ ⟨ds', body, hasBody⟩ :=
    ⟨congrArg (ParameterSummary.mk · body hasBody) h.erased, fun he => by rw [h.same he]⟩
  unfold Builder.addParameter
  split_ifs
  · exact .bind (detail?_related h e p) fun _ _ hp => .pure (summary _ _ (hd.append hp.toList))
  · rw [h.example_eq]
    cases b'.example? p.type with
    | some text => exact .pure (summary _ _ hd)
    | none => exact .pure (summary _ _ (hd.append (.refl _)))
  · exact .bind (detail?_related h e p) fun _ _ hp => .pure (summary _ _ (hd.append hp.toList))

theorem parameters_related :
    Related I (SameUpTo exact ParameterSummary.undescribed) (b.parameters e) (b'.parameters e) :=
  .foldlM _ (fun _ _ p _ hs => addParameter_related h e hs p) (.refl _)

theorem groupName_related :
    Related I (Agree fun name name' => exact → name = name') (b.groupName e).run
      (b'.groupName e).run := by
  unfold Builder.groupName
  cases e.owner with
  | none => exact .lookup_pure fun _ => rfl
  | some o =>
    refine .lookup_bind (h.docs.classText (some o)) fun x y hxy => ?_
    cases hx : x.bind Builder.nonEmpty? <;> cases hy : y.bind Builder.nonEmpty? <;>
      exact .lookup_pure fun he => by simp_all [hxy he]

/-- **Metadata differs in descriptions only.** -/
theorem build_related :
    Related I (Agree (SameUpTo exact Metadata.undescribed)) (b.build e).run (b'.build e).run := by
  unfold Builder.build
  refine .lookup_bind (.lookup_lift (parameters_related h e)) fun s s' hs => ?_
  refine .lookup_bind (groupName_related h e) fun name name' hname => ?_
  refine .lookup_bind (.lookup_lift (h.rows e.response)) fun rows rows' hrows => ?_
  refine .lookup_bind (h.docs.methodText e.owner e.handler) fun text text' htext => ?_
  refine .lookup_pure ⟨?_, fun he => ?_⟩
  · have hdetails := congrArg ParameterSummary.details hs.erased
    have hbody := congrArg ParameterSummary.bodyExample hs.erased
    have hhas := congrArg ParameterSummary.hasBody hs.erased
    have hgetD : ∀ rows : Option (List Row), (rows.getD []).map Row.undescribed =
        (rows.map (List.map Row.undescribed)).getD [] := by rintro (_ | _) <;> rfl
    simp only [ParameterSummary.undescribed] at hdetails hbody hhas
    simp only [Metadata.undescribed, hdetails, hbody, hhas, hgetD, hrows.erased, h.example_eq]
  · rw [hs.same he, hname he, hrows.same he, htext he, h.example_eq]

end Builders

/-! ## Building from a view -/

/-- What a builder without a memory tells about an endpoint. -/
def Builder.told (b : Builder Unit) (e : Endpoint) : Except Source.Fault Metadata :=
  ((b.build e).run.run ()).1

theorem run_bind_unit {α β : Type} (x : Lookup Unit α) (f : α → Lookup Unit β) :
    ((x >>= f).run.run ()).1 = (x.run.run ()).1.bind fun a => ((f a).run.run ()).1 := by
  rw [ExceptT.run_bind, StateT.run_bind]
  rcases x.run.run () with ⟨_ | a, ⟨⟩⟩ <;> rfl

theorem run_lift_bind_unit {α β : Type} (x : StateM Unit α) (f : α → Lookup Unit β) :
    ((liftM x >>= f : Lookup Unit β).run.run ()).1 = ((f (x.run ()).1).run.run ()).1 := by
  rw [run_bind_unit]
  rfl

theorem Builder.told_eq (b : Builder Unit) (e : Endpoint) :
    b.told e = ((b.groupName e).run.run ()).1.bind fun groupName =>
      ((b.docs.methodText e.owner e.handler).run.run ()).1.bind fun text => .ok {
        endpoint := e, groupName
        contentType := if ((b.parameters e).run ()).1.hasBody then "JSON" else "FORM"
        bodyExample := ((b.parameters e).run ()).1.bodyExample
        parameters := ((b.parameters e).run ()).1.details
        responseExample := (b.example? e.response).getD "\x7b\x7d"
        responseFields := ((b.rows? e.response).run ()).1.getD []
        description := text.getD "" } := by
  rw [told, build, run_lift_bind_unit, run_bind_unit]
  congr 1
  funext name
  rw [run_lift_bind_unit, run_bind_unit]
  rfl

theorem Builder.endpoint_of_told {b : Builder Unit} {e : Endpoint} {m : Metadata}
    (h : b.told e = .ok m) : m.endpoint = e := by
  rw [told_eq] at h
  cases hname : ((b.groupName e).run.run ()).1 with
  | error f => rw [hname] at h; cases h
  | ok name =>
    cases htext : ((b.docs.methodText e.owner e.handler).run.run ()).1 with
    | error f => rw [hname, htext] at h; cases h
    | ok text => rw [hname, htext] at h; cases h; rfl

/-- **A build fails with the module of the owner**, and with nothing else. -/
theorem isOk_told_iff (u : Universe) (style : Comment.Style) {v : Source.View}
    (hv : v none = .ok []) (limit : Int) (noDescription : String) (e : Endpoint) :
    ((Builder.standard u (Docs.ofView style v) limit noDescription).told e).isOk = true ↔
      (v e.owner).isOk = true := by
  set b := Builder.standard u (Docs.ofView style v) limit noDescription with hb
  have htext : ((b.docs.methodText e.owner e.handler).run.run ()).1 =
      (v e.owner).map (Source.methodText style e.owner e.handler) := by
    simp only [hb, Builder.standard, Docs.ofView, Source.View.run_map]
  have hname : ((b.groupName e).run.run ()).1.isOk = (v e.owner).isOk := by
    unfold Builder.groupName
    cases ho : e.owner with
    | none => rw [hv]; rfl
    | some o =>
      simp only [run_bind_unit, hb, Builder.standard, Docs.ofView, Source.View.run_map]
      cases v (some o) with
      | error f => rfl
      | ok ls =>
        simp only [Except.map, Except.bind]
        split <;> rfl
  rw [Builder.told_eq, htext]
  cases hn : ((b.groupName e).run.run ()).1 with
  | error f =>
    rw [hn] at hname
    simp [Except.bind, ← hname]
  | ok name =>
    cases hv' : v e.owner <;> simp [Except.bind, Except.map]

end EndpointDocs
