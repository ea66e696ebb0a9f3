import EndpointDocs.Dashboard
import EndpointDocs.Proofs.Endpoint.Related
import EndpointDocs.Proofs.Index.Grouping
import EndpointDocs.Proofs.Index.History

/-!
# Which endpoints an index lists

* `silenced`: what is told about an endpoint if every source that can be read were empty.
* `endpoints_of_outcomes`: the endpoints that a builder does not fail on.
* `outcomes_of_store`: a store makes a builder fail on the endpoints whose module cannot be read.
* **`index_lists_usable`**: an index lists exactly the endpoints whose module can be read.
* **`not_index_lists_all`**: an endpoint is lost with a module that is not valid UTF-8.
-/

namespace EndpointDocs

open Groups (included outcomes)

/-! ## Endpoints that are told about -/

theorem run_outcomes_unit (b : Builder Unit) (es : List Endpoint) :
    ((outcomes b.build es).run ()).1 = es.map b.told := by
  induction es with
  | nil => rfl
  | cons e es ih =>
    rw [Groups.run_outcomes_cons, List.map_cons, ← ih]
    rfl

/-- **The endpoints that a builder does not fail on** are told about once each, in order. -/
theorem endpoints_of_outcomes {b : Builder Unit} {os : List (Except Source.Fault Metadata)}
    {es : List Endpoint} (h : List.Forall₂
      (fun o e => Agree (SameUpTo False Metadata.undescribed) o (b.told e)) os es) :
    (os.filterMap Except.toOption).map (·.endpoint) = es.filter (fun e => (b.told e).isOk) ∧
      ∀ m ∈ os.filterMap Except.toOption, ∃ m₀, b.told m.endpoint = .ok m₀ ∧
        m.undescribed = m₀.undescribed := by
  induction h with
  | nil => simp
  | @cons o e os es hoe _ ih =>
    generalize ht : b.told e = t at hoe
    cases hoe with
    | error f =>
      rw [List.filterMap_cons_none rfl, List.filter_cons_of_neg (by rw [ht]; exact nofun)]
      exact ih
    | @ok m m₀ hm =>
      have he : m.endpoint = e := by
        rw [← m.endpoint_undescribed, hm.erased, Metadata.endpoint_undescribed]
        exact Builder.endpoint_of_told ht
      rw [List.filterMap_cons_some (rfl : Except.toOption (.ok m) = some m),
        List.filter_cons_of_pos (by rw [ht]; rfl)]
      refine ⟨by rw [List.map_cons, he, ih.1], fun m' hm' => ?_⟩
      obtain rfl | hm' := List.mem_cons.mp hm'
      · exact ⟨m₀, he ▸ ht, hm.erased⟩
      · exact ih.2 m' hm'

namespace Dashboard

variable (d : Dashboard)

/-- The builder of a dashboard if every source that can be read were empty. -/
def silentBuilder : Builder Unit :=
  .standard d.program.classes (Docs.ofView d.style d.store.view.silent) d.settings.depthLimit
    d.settings.noDescription

/-- What is told about an endpoint if every source that can be read were empty. -/
def silenced (e : Endpoint) : Except Source.Fault Metadata := d.silentBuilder.told e

theorem isOk_silenced_iff (e : Endpoint) :
    (d.silenced e).isOk = true ↔ d.store.Usable e.owner := by
  rw [silenced, silentBuilder, isOk_told_iff _ _ rfl, Source.View.isOk_silent,
    Source.Store.view_isOk_iff]

theorem silentBuilder_related :
    BuilderRelated (Shows d.store.view) False d.builder d.silentBuilder :=
  standard_related (docs_related d.store.view.agree_silent) _ _ _

/-- **A store makes a builder fail** on the endpoints whose module cannot be read. -/
theorem outcomes_of_store (es : List Endpoint) :
    List.Forall₂ (fun o e => Agree (SameUpTo False Metadata.undescribed) o (d.silenced e))
      ((outcomes d.builder.build es).run d.store).1 es := by
  have h : List.Forall₂ (Agree (SameUpTo False Metadata.undescribed))
      ((outcomes d.builder.build es).run d.store).1
      ((outcomes d.silentBuilder.build es).run ()).1 :=
    ((Related.mapM es fun e => build_related d.silentBuilder_related e) d.store () rfl).1
  rwa [run_outcomes_unit, List.forall₂_map_right_iff] at h

/-! ## The index -/

theorem run_index (baseUrl : Option String) : ((index baseUrl).run.run d).1 =
    ((d.cache.get d.groups (baseUrl.getD d.settings.baseUrl)).run d.store).1.1 := rfl

theorem run_index_refresh (baseUrl : Option String) :
    ((index baseUrl).run.run d.refresh).1 =
      ((d.groups.run d.store).1.map fun gs => ⟨baseUrl.getD d.settings.baseUrl, gs⟩) := by
  rw [run_index, Cache.get_of_build _ _ _ fun _ => rfl, Cache.afterBuild_fst]
  rfl

theorem run_groups : (d.groups.run d.store).1 =
    ((d.registry.endpoints d.program).mapM id).map fun es => Groups.ofMetadata
      (((outcomes d.builder.build (included d.settings.excludedPaths es)).run d.store).1.filterMap
        Except.toOption) :=
  Groups.run_build? _ _ _ _

theorem index_refresh_of_endpoints {es : List Endpoint}
    (hes : (d.registry.endpoints d.program).mapM id = .ok es) (baseUrl : Option String) :
    ∃ i, ((index baseUrl).run.run d.refresh).1 = .ok i ∧
      (i.all.map (·.endpoint)).Perm
        ((included d.settings.excludedPaths es).filter fun e => d.store.Usable e.owner) ∧
      ∀ m ∈ i.all, ∃ m₀, d.silenced m.endpoint = .ok m₀ ∧ m.undescribed = m₀.undescribed := by
  obtain ⟨hendpoints, htold⟩ := endpoints_of_outcomes
    (d.outcomes_of_store (included d.settings.excludedPaths es))
  have hperm := (Groups.isGroupingOf_ofMetadata (((outcomes d.builder.build
    (included d.settings.excludedPaths es)).run d.store).1.filterMap Except.toOption)).perm
  have hindex := d.run_index_refresh baseUrl
  rw [run_groups, hes] at hindex
  refine ⟨_, hindex, ?_, fun m hm => htold m (hperm.mem_iff.mp hm)⟩
  refine (hperm.map _).trans (.of_eq (hendpoints.trans (List.filter_congr fun e _ => ?_)))
  rw [Bool.eq_iff_iff, decide_eq_true_iff]
  exact d.isOk_silenced_iff e

/--
**An index lists exactly the endpoints whose module can be read.** If a route has no endpoint there
is no index. Otherwise a new index lists each included endpoint with such a module once, so it lists
all that are included just when all their modules can be read. What it tells is, descriptions aside,
what it would tell if every source that can be read were empty.
-/
theorem index_lists_usable (baseUrl : Option String) :
    match (d.registry.endpoints d.program).mapM id with
    | .error f => ((index baseUrl).run.run d.refresh).1 = .error f
    | .ok es => ∃ i, ((index baseUrl).run.run d.refresh).1 = .ok i ∧
        (i.all.map (·.endpoint)).Perm
          ((included d.settings.excludedPaths es).filter fun e => d.store.Usable e.owner) ∧
        ((i.all.map (·.endpoint)).Perm (included d.settings.excludedPaths es) ↔
          ∀ e ∈ included d.settings.excludedPaths es, d.store.Usable e.owner) ∧
        ∀ m ∈ i.all, ∃ m₀, d.silenced m.endpoint = .ok m₀ ∧ m.undescribed = m₀.undescribed := by
  cases hes : (d.registry.endpoints d.program).mapM id with
  | error f =>
    have hindex := d.run_index_refresh baseUrl
    rwa [run_groups, hes] at hindex
  | ok es =>
    obtain ⟨i, hi, hperm, htold⟩ := d.index_refresh_of_endpoints hes baseUrl
    refine ⟨i, hi, hperm, ⟨fun h e he => ?_, fun h => ?_⟩, htold⟩
    · have hmem := (h.symm.trans hperm).mem_iff.mp he
      exact of_decide_eq_true (List.mem_filter.mp hmem).2
    · rwa [List.filter_eq_self.mpr fun e he => decide_eq_true (h e he)] at hperm

/-- One route whose module is there and is not valid UTF-8. -/
def unreadableSample : Dashboard :=
  .make ⟨.empty, ["app"]⟩ .standard .hash
    (Registry.empty.add ⟨"a", "app", "a", [], none, true⟩ ⟨"/a", ["GET"], none⟩)
    ⟨[("app.py", ⟨#[0xff]⟩)], [], []⟩

/-- **An endpoint is lost with a module that is not valid UTF-8.** -/
theorem not_index_lists_all : ¬ ∀ (d : Dashboard) (es : List Endpoint),
    (d.registry.endpoints d.program).mapM id = .ok es →
      ∃ i, ((index none).run.run d.refresh).1 = .ok i ∧
        (i.all.map (·.endpoint)).Perm (included d.settings.excludedPaths es) := by
  intro hall
  obtain ⟨e, hes, hpath, howner⟩ : ∃ e,
      (unreadableSample.registry.endpoints unreadableSample.program).mapM id = .ok [e] ∧
        e.path = "/a" ∧ e.owner = some (.module "app") := ⟨_, rfl, rfl, rfl⟩
  obtain ⟨i, hi, hperm⟩ := hall _ _ hes
  obtain ⟨i', hi', hlisted, -⟩ := unreadableSample.index_refresh_of_endpoints hes none
  cases hi.symm.trans hi'
  have hincluded : included unreadableSample.settings.excludedPaths [e] = [e] :=
    Groups.included_cons_of_not_mem _ (by rw [hpath]; decide) []
  have hunusable : ¬ unreadableSample.store.Usable e.owner := by
    rw [howner]
    decide +kernel
  rw [hincluded] at hperm hlisted
  rw [List.filter_cons_of_neg (by simpa using hunusable)] at hlisted
  exact absurd (hperm.symm.trans hlisted).length_eq (by simp)

end Dashboard

end EndpointDocs
