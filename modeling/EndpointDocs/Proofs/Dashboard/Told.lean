import EndpointDocs.Proofs.Dashboard.Completeness

/-!
# What a dashboard builds

* `collect?_related`, `buildGroups_related`: sources that show the same give the same groups.
* `Dashboard.told`: what is told about an endpoint, whatever was read before.
* `Dashboard.currentGroups`: the groups of all endpoints from what is told about each.
* **`run_groups_told`**: a dashboard builds these groups and still shows the same afterwards.
* `run_index_of_unbuilt`: what a read answers and leaves if it has to build.
* `groupName_of_told`: an endpoint is listed under the name that its owner's text gives.
-/

namespace EndpointDocs

open Groups (included)

/-! ## Groups from related builders -/

section Related

variable {σ τ ε : Type} {I : σ → τ → Prop} {b : Builder σ} {b' : Builder τ}

theorem build_related_eq (h : BuilderRelated I True b b') (e : Endpoint) :
    Related I Eq (b.build e).run (b'.build e).run := by
  intro s t hst
  obtain ⟨hagree, hst'⟩ := build_related h e s t hst
  exact ⟨hagree.eq fun _ _ hm => hm.same trivial, hst'⟩

theorem collect?_related (h : BuilderRelated I True b b') (excluded : List String)
    (es : List (Except ε Endpoint)) :
    Related I Eq (Groups.collect? excluded b.build es) (Groups.collect? excluded b'.build es) := by
  induction es with
  | nil => exact .pure rfl
  | cons e es ih =>
    cases e with
    | error f => exact .pure rfl
    | ok e =>
      by_cases he : e.path ∈ excluded
      · rwa [Groups.collect?_of_mem _ _ he, Groups.collect?_of_mem _ _ he]
      · rw [Groups.collect?_of_not_mem _ _ he, Groups.collect?_of_not_mem _ _ he]
        refine .bind (build_related_eq h e) fun o o' ho => ?_
        subst ho
        refine .bind ih fun ms ms' hms => ?_
        subst hms
        exact .pure rfl

theorem buildGroups_related (h : BuilderRelated I True b b') (excluded : List String)
    (es : List (Except ε Endpoint)) :
    Related I Eq (Groups.build? excluded b.build es) (Groups.build? excluded b'.build es) :=
  .map (collect?_related h excluded es) fun _ _ hms => congrArg _ hms

end Related

namespace Dashboard

variable (d : Dashboard)

/-! ## What is told -/

/-- The builder of a dashboard on the lines that its store shows. -/
def viewBuilder : Builder Unit :=
  .standard d.program.classes (Docs.ofView d.style d.store.view) d.settings.depthLimit
    d.settings.noDescription

theorem viewBuilder_related :
    BuilderRelated (Shows d.store.view) True d.builder d.viewBuilder :=
  standard_related (docs_related fun _ => .refl (fun _ _ => rfl) _) _ _ _

/-- What is told about an endpoint, whatever was read before. -/
def told (e : Endpoint) : Except Source.Fault Metadata := d.viewBuilder.told e

/-- The groups of all endpoints from what is told about each, if all routes have an endpoint. -/
def currentGroups : Except HandlerFault Groups :=
  ((d.registry.endpoints d.program).mapM id).map fun es => Groups.ofMetadata
    ((included d.settings.excludedPaths es).filterMap fun e => (d.told e).toOption)

theorem currentGroups_of_view (mode : CacheMode) (cache : Cache) {s : Source.Store}
    (hs : s.view = d.store.view) :
    currentGroups { d with settings := { d.settings with cacheMode := mode }, cache, store := s } =
      d.currentGroups := by
  have htold : told { d with settings := { d.settings with cacheMode := mode }, cache, store := s } =
      d.told := by
    funext e
    simp only [told, viewBuilder, hs]
  simp only [currentGroups, htold]

/-- **A dashboard builds the groups of what is told**, and still shows the same afterwards. -/
theorem run_groups_told : (d.groups.run d.store).1 = d.currentGroups ∧
    (d.groups.run d.store).2.view = d.store.view := by
  obtain ⟨hgroups, hview⟩ := buildGroups_related d.viewBuilder_related d.settings.excludedPaths
    (d.registry.endpoints d.program) d.store () rfl
  refine ⟨hgroups.trans ?_, hview⟩
  simp only [Groups.run_build?, run_outcomes_unit, List.filterMap_map]
  rfl

theorem run_index_eq (baseUrl : Option String) : (index baseUrl).run.run d =
    let r := (d.cache.get d.groups (baseUrl.getD d.settings.baseUrl)).run d.store
    (r.1.1, { d with cache := r.1.2, store := r.2 }) := rfl

theorem run_index_of_unbuilt (h : d.cache.mode = .cached → d.cache.built = none)
    (baseUrl : Option String) :
    let url := baseUrl.getD d.settings.baseUrl
    ∃ s, s.view = d.store.view ∧ (index baseUrl).run.run d =
      (d.currentGroups.map (⟨url, ·⟩),
        { d with cache := (d.cache.afterBuild url d.currentGroups).2, store := s }) := by
  intro url
  obtain ⟨hgroups, hview⟩ := d.run_groups_told
  have hget : (d.cache.get d.groups url).run d.store =
      (d.cache.afterBuild url d.currentGroups, (d.groups.run d.store).2) := by
    rw [Cache.get_of_build _ _ _ h, hgroups]
  refine ⟨_, hview, ?_⟩
  rw [run_index_eq, hget, ← Cache.afterBuild_fst url d.cache]

/-! ## Names of groups -/

/-- The name that an endpoint is listed under. -/
def groupNameOf (e : Endpoint) : Except Source.Fault String :=
  ((d.builder.groupName e).run.run d.store).1

theorem groupNameOf_eq (e : Endpoint) :
    d.groupNameOf e = ((d.viewBuilder.groupName e).run.run ()).1 := by
  obtain ⟨hname, -⟩ := groupName_related d.viewBuilder_related e d.store () rfl
  exact hname.eq fun _ _ h => h trivial

theorem groupName_of_told {e : Endpoint} {m : Metadata} (h : d.told e = .ok m) :
    d.groupNameOf e = .ok m.groupName := by
  rw [groupNameOf_eq]
  rw [told, Builder.told_eq] at h
  cases hname : ((d.viewBuilder.groupName e).run.run ()).1 with
  | error f => rw [hname] at h; cases h
  | ok name =>
    cases htext : ((d.viewBuilder.docs.methodText e.owner e.handler).run.run ()).1 with
    | error f => rw [hname, htext] at h; cases h
    | ok text => rw [hname, htext] at h; cases h; rfl

/-! ## A sample -/

/-- The route of a function without parameters. -/
def plainRoute (name : String) : Route where
  path := "/" ++ name
  methods := ["GET"]
  handler := ⟨name, "app", name, [], none, true⟩
  group := none
  owner := none

/-- A new dashboard over one source. -/
def sampleOf (mode : CacheMode) (routes : List Route) : Dashboard :=
  make ⟨.empty, ["app"]⟩ { Settings.standard with cacheMode := mode } .hash ⟨routes⟩
    ⟨[("app.py", "## The app.\n".toUTF8)], [], []⟩

end Dashboard

end EndpointDocs
