import EndpointDocs.Index.Cache
import Mathlib.Data.List.Induction
import Mathlib.Tactic.Common

/-!
# The history of a cache

A cache is read at base URLs and told to forget, while the endpoints that it is built from change.

* `get_of_built`, `get_of_build`: a read answers from what is built, or builds.
* `Step`, `Site`, `Event`, `Site.run`: any number of steps, with the answers of the reads.
* `firstRead?`: the first read that succeeded since the cache was last told to forget.
* `Holds`, `holds_run`: the cache holds what that read built.
* **`read_after_run`**: what a read answers after any steps.
-/

namespace EndpointDocs.Cache

/-! ## Single reads -/

section Get

variable {σ ε : Type} (build : StateM σ (Except ε Groups)) (baseUrl : String) (s : σ)

/-- **A read of a built cache** answers from it and changes nothing. -/
theorem get_of_built {c : Cache} (hc : c.mode = .cached) {gs : Groups} (hb : c.built = some gs) :
    (c.get build baseUrl).run s = ((.ok ⟨baseUrl, gs⟩, c), s) := by
  unfold get
  rw [hc, hb]
  rfl

/-- What a read of a cache that has to build leaves: the answer, and the cache if it succeeds. -/
def afterBuild (c : Cache) (built : Except ε Groups) : Except ε Index × Cache :=
  match built with
  | .error e => (.error e, c)
  | .ok gs => (.ok ⟨baseUrl, gs⟩, if c.mode = .cached then { c with built := some gs } else c)

theorem afterBuild_fst (c : Cache) (built : Except ε Groups) :
    (c.afterBuild baseUrl built).1 = built.map (⟨baseUrl, ·⟩) := by
  cases built <;> rfl

theorem afterBuild_snd_of_fresh {c : Cache} (hc : c.mode = .fresh) (built : Except ε Groups) :
    (c.afterBuild baseUrl built).2 = c := by
  cases built with
  | error e => rfl
  | ok gs => simp [afterBuild, hc]

theorem afterBuild_snd_of_error (c : Cache) {built : Except ε Groups} (hb : built.isOk = false) :
    (c.afterBuild baseUrl built).2 = c := by
  cases built with
  | error e => rfl
  | ok gs => cases hb

/-- A cache that is kept holds what was built last, if that did not fail. -/
theorem built_afterBuild {c : Cache} (hc : c.mode = .cached) (hb : c.built = none)
    (built : Except ε Groups) : (c.afterBuild baseUrl built).2.mode = .cached ∧
      ∀ gs, (c.afterBuild baseUrl built).2.built = some gs → built = .ok gs := by
  cases built with
  | error e =>
    refine ⟨hc, fun gs hgs => ?_⟩
    rw [afterBuild, hb] at hgs
    cases hgs
  | ok gs =>
    rw [afterBuild, if_pos hc]
    refine ⟨hc, fun gs' hgs => ?_⟩
    cases hgs
    rfl

/-- **A read of any other cache** builds; the groups are kept if the mode says so. -/
theorem get_of_build {c : Cache} (h : c.mode = .cached → c.built = none) :
    (c.get build baseUrl).run s =
      (c.afterBuild baseUrl (build.run s).1, (build.run s).2) := by
  obtain ⟨mode, built⟩ := c
  have hbuild : mode = .fresh ∨ mode = .cached ∧ built = none := by
    cases mode
    · exact .inl rfl
    · exact .inr ⟨rfl, h rfl⟩
  unfold get afterBuild
  obtain rfl | ⟨rfl, rfl⟩ := hbuild
  all_goals
    simp only [StateT.run_bind]
    rcases hb : build s with ⟨_ | gs, s'⟩ <;> simp [StateT.run, hb] <;> rfl

end Get

/-! ## Runs -/

/-- What can happen to a cache and to the endpoints that it is built from. -/
inductive Step (ε : Type) where
  | read (baseUrl : String)
  | forget
  | change (endpoints : List (Except ε Endpoint))

/-- A cache and the endpoints of the moment. -/
structure Site (ε : Type) where
  cache : Cache
  endpoints : List (Except ε Endpoint)

/-- A step that was taken: the endpoints at that time, and what a read answered. -/
structure Event (ε : Type) where
  step : Step ε
  endpoints : List (Except ε Endpoint)
  answer : Option (Except ε Index)

section Runs

variable {ε : Type} (excluded : List String) (build : Endpoint → Except Source.Fault Metadata)

/-- The groups of endpoints, if what is told about an endpoint depends on nothing else. -/
def groupsOf (es : List (Except ε Endpoint)) : Except ε Groups :=
  ((Groups.build? excluded (fun e => ExceptT.mk (pure (build e))) es).run ()).1

/-- The answer of a read, and the cache after it. -/
def Site.read (s : Site ε) (baseUrl : String) : Except ε Index × Cache :=
  ((s.cache.get (Groups.build? excluded (fun e => ExceptT.mk (pure (build e))) s.endpoints)
    baseUrl).run ()).1

/-- One step: what a read answers, and what there is after the step. -/
def Site.take (s : Site ε) : Step ε → Option (Except ε Index) × Site ε
  | .read baseUrl =>
    let (answer, cache) := s.read excluded build baseUrl
    (some answer, { s with cache })
  | .forget => (none, { s with cache := s.cache.invalidate })
  | .change endpoints => (none, { s with endpoints })

/-- One more step, put at the end of a history. -/
def advance (r : Site ε × List (Event ε)) (t : Step ε) : Site ε × List (Event ε) :=
  let (answer, s) := r.1.take excluded build t
  (s, r.2 ++ [⟨t, r.1.endpoints, answer⟩])

/-- Steps one after the other, with their history. -/
def run (s : Site ε) (ts : List (Step ε)) : Site ε × List (Event ε) :=
  ts.foldl (advance excluded build) (s, [])

end Runs

/-! ## What the history tells -/

section Events

variable {ε : Type}

/-- Whether a step makes the cache forget. -/
def Step.isForget : Step ε → Bool
  | .forget => true
  | _ => false

/-- Whether a step was a read that succeeded. -/
def Event.succeeded (e : Event ε) : Bool := e.answer.any (·.isOk)

/-- What happened since the cache was last told to forget. -/
def sinceForget (h : List (Event ε)) : List (Event ε) :=
  (h.reverse.takeWhile fun e => !e.step.isForget).reverse

/-- The first read that succeeded since the cache was last told to forget. -/
def firstRead? (h : List (Event ε)) : Option (Event ε) := (sinceForget h).find? (·.succeeded)

theorem firstRead?_snoc_forget (h : List (Event ε)) {e : Event ε} (he : e.step.isForget = true) :
    firstRead? (h ++ [e]) = none := by
  simp [firstRead?, sinceForget, he]

theorem firstRead?_snoc (h : List (Event ε)) {e : Event ε} (he : e.step.isForget = false) :
    firstRead? (h ++ [e]) = (firstRead? h).or (if e.succeeded then some e else none) := by
  have hsince : sinceForget (h ++ [e]) = sinceForget h ++ [e] := by simp [sinceForget, he]
  rw [firstRead?, hsince, List.find?_append, List.find?_singleton, firstRead?]

theorem isSome_firstRead?_iff (h : List (Event ε)) :
    (firstRead? h).isSome = true ↔ ∃ e ∈ sinceForget h, e.succeeded = true := by
  rw [firstRead?, List.find?_isSome]

end Events

/-! ## What the cache holds -/

section Holds

variable {ε : Type} (excluded : List String) (build : Endpoint → Except Source.Fault Metadata)

/-- A cache that is kept holds what the first read built; a fresh one never holds anything. -/
structure Holds (mode : CacheMode) (s : Site ε) (h : List (Event ε)) : Prop where
  mode_eq : s.cache.mode = mode
  fresh : mode = .fresh → s.cache.built = none
  empty : firstRead? h = none → s.cache.built = none
  full : mode = .cached → ∀ e, firstRead? h = some e →
    ∃ gs, groupsOf excluded build e.endpoints = .ok gs ∧ s.cache.built = some gs

variable {excluded build} {mode : CacheMode} {s : Site ε} {h : List (Event ε)}

theorem Holds.read_built (hs : Holds excluded build mode s h) (hm : mode = .cached) {e : Event ε}
    (he : firstRead? h = some e) (baseUrl : String) :
    ∃ gs, groupsOf excluded build e.endpoints = .ok gs ∧
      s.read excluded build baseUrl = (.ok ⟨baseUrl, gs⟩, s.cache) := by
  obtain ⟨gs, hgs, hbuilt⟩ := hs.full hm e he
  refine ⟨gs, hgs, ?_⟩
  rw [Site.read, get_of_built _ _ _ (hs.mode_eq.trans hm) hbuilt]

theorem Holds.read_empty (hs : Holds excluded build mode s h)
    (he : mode = .cached → firstRead? h = none) (baseUrl : String) :
    s.read excluded build baseUrl =
      s.cache.afterBuild baseUrl (groupsOf excluded build s.endpoints) := by
  have hb : s.cache.mode = .cached → s.cache.built = none := fun hc =>
    hs.empty (he (hs.mode_eq.symm.trans hc))
  rw [Site.read, get_of_build _ _ _ hb]
  rfl

theorem holds_ofMode (mode : CacheMode) (es : List (Except ε Endpoint)) :
    Holds excluded build mode ⟨.ofMode mode, es⟩ [] :=
  ⟨rfl, fun _ => rfl, fun _ => rfl, fun _ e he => by cases he⟩

theorem Holds.advance_read (hs : Holds excluded build mode s h) (baseUrl : String) :
    Holds excluded build mode (advance excluded build (s, h) (.read baseUrl)).1
      (advance excluded build (s, h) (.read baseUrl)).2 := by
  set e : Event ε := ⟨.read baseUrl, s.endpoints, some (s.read excluded build baseUrl).1⟩ with he
  change Holds excluded build mode { s with cache := (s.read excluded build baseUrl).2 } (h ++ [e])
  have hfirst := firstRead?_snoc h (e := e) rfl
  cases hm : mode with
  | fresh =>
    rw [hs.read_empty (by simp [hm]) baseUrl, afterBuild_snd_of_fresh _ (hs.mode_eq.trans hm)]
    exact ⟨hs.mode_eq.trans hm, fun _ => hs.fresh hm, fun _ => hs.fresh hm, by simp⟩
  | cached =>
    cases hf : firstRead? h with
    | some e₀ =>
      obtain ⟨gs, hgs, hread⟩ := hs.read_built hm hf baseUrl
      rw [hf, Option.some_or] at hfirst
      rw [hread]
      refine ⟨hs.mode_eq.trans hm, by simp, by simp [hfirst], fun _ e₁ he₁ => ?_⟩
      rw [hfirst] at he₁
      exact hs.full hm e₁ (hf.trans he₁)
    | none =>
      rw [hf, Option.none_or] at hfirst
      have hread := hs.read_empty (fun _ => hf) baseUrl
      cases hg : groupsOf excluded build s.endpoints with
      | error err =>
        -- the read failed: nothing is kept, and no read has succeeded yet
        rw [hg, afterBuild] at hread
        have hfail : e.succeeded = false := by rw [he, hread]; rfl
        rw [hread]
        refine ⟨hs.mode_eq.trans hm, by simp, fun _ => hs.empty hf, fun _ e₁ he₁ => ?_⟩
        simp [hfirst, hfail] at he₁
      | ok gs =>
        -- the read succeeded: it is the first one, and what it built is kept
        rw [hg, afterBuild, if_pos (hs.mode_eq.trans hm)] at hread
        have hok : e.succeeded = true := by rw [he, hread]; rfl
        rw [hok, if_pos rfl] at hfirst
        rw [hread]
        refine ⟨hs.mode_eq.trans hm, by simp, by simp [hfirst], fun _ e₁ he₁ => ?_⟩
        obtain rfl : e = e₁ := by rw [hfirst] at he₁; exact Option.some.inj he₁
        exact ⟨gs, hg, rfl⟩

/-- **Every step keeps it.** -/
theorem Holds.advance (hs : Holds excluded build mode s h) (t : Step ε) :
    Holds excluded build mode (advance excluded build (s, h) t).1
      (advance excluded build (s, h) t).2 := by
  cases t with
  | read baseUrl => exact hs.advance_read baseUrl
  | forget =>
    refine ⟨hs.mode_eq, fun _ => rfl, fun _ => rfl, fun _ e he => ?_⟩
    rw [show (Cache.advance excluded build (s, h) .forget).2 = h ++ [⟨.forget, s.endpoints, none⟩]
      from rfl, firstRead?_snoc_forget h rfl] at he
    cases he
  | change es =>
    have hfirst : firstRead? (h ++ [⟨.change es, s.endpoints, none⟩]) = firstRead? h := by
      rw [firstRead?_snoc h rfl]
      exact Option.or_none
    refine ⟨hs.mode_eq, hs.fresh, fun he => hs.empty (hfirst ▸ he), fun hm e he => ?_⟩
    exact hs.full hm e (hfirst ▸ he)

variable (excluded build) in
/-- **After any run**, the cache holds what the first read built. -/
theorem holds_run (mode : CacheMode) (es : List (Except ε Endpoint)) (ts : List (Step ε)) :
    Holds excluded build mode (run excluded build ⟨.ofMode mode, es⟩ ts).1
      (run excluded build ⟨.ofMode mode, es⟩ ts).2 := by
  induction ts using List.reverseRecOn with
  | nil => exact holds_ofMode mode es
  | append_singleton ts t ih =>
    rw [run, List.foldl_append]
    exact ih.advance t

/-- **A cache is built** if it is kept and some read succeeded since it was told to forget. -/
theorem Holds.isBuilt_iff (hs : Holds excluded build mode s h) :
    s.cache.isBuilt = true ↔ mode = .cached ∧ ∃ e ∈ sinceForget h, e.succeeded = true := by
  rw [← isSome_firstRead?_iff, isBuilt]
  constructor
  · intro hb
    refine ⟨?_, ?_⟩
    · by_contra hm
      cases mode with
      | fresh => simp [hs.fresh rfl] at hb
      | cached => exact hm rfl
    · by_contra hf
      simp [hs.empty (by simpa using hf)] at hb
  · rintro ⟨hm, hf⟩
    obtain ⟨e, he⟩ := Option.isSome_iff_exists.mp hf
    obtain ⟨gs, -, hb⟩ := hs.full hm e he
    rw [hb]
    rfl

/-! ## What a read answers -/

/-- The endpoints that a read answers for: those of the first read if kept, else the present. -/
def answeredFor (mode : CacheMode) (h : List (Event ε)) (present : List (Except ε Endpoint)) :
    List (Except ε Endpoint) :=
  match mode with
  | .cached => ((firstRead? h).map (·.endpoints)).getD present
  | .fresh => present

theorem Holds.read_fst (hs : Holds excluded build mode s h) (baseUrl : String) :
    (s.read excluded build baseUrl).1 =
      (groupsOf excluded build (answeredFor mode h s.endpoints)).map (⟨baseUrl, ·⟩) := by
  cases mode with
  | fresh => rw [hs.read_empty nofun, afterBuild_fst, answeredFor]
  | cached =>
    cases hf : firstRead? h with
    | none => rw [hs.read_empty fun _ => hf, afterBuild_fst, answeredFor, hf]; rfl
    | some e =>
      obtain ⟨gs, hgs, hread⟩ := hs.read_built rfl hf baseUrl
      rw [hread, answeredFor, hf, Option.map_some, Option.getD_some, hgs]
      rfl

theorem Holds.isOk_read (hs : Holds excluded build mode s h) (hb : s.cache.isBuilt = true)
    (baseUrl : String) : (s.read excluded build baseUrl).1.isOk = true := by
  obtain ⟨hm, hf⟩ := hs.isBuilt_iff.mp hb
  obtain ⟨e, he⟩ := Option.isSome_iff_exists.mp ((isSome_firstRead?_iff h).mpr hf)
  obtain ⟨gs, -, hread⟩ := hs.read_built hm he baseUrl
  rw [hread]
  rfl

theorem Holds.read_snd_of_error (hs : Holds excluded build mode s h) {baseUrl : String}
    (hfail : (s.read excluded build baseUrl).1.isOk = false) :
    (s.read excluded build baseUrl).2 = s.cache := by
  have hempty : mode = .cached → firstRead? h = none := by
    intro hm
    by_contra hf
    have hread : (firstRead? h).isSome = true := Option.isSome_iff_ne_none.mpr hf
    have hb := hs.isBuilt_iff.mpr ⟨hm, (isSome_firstRead?_iff h).mp hread⟩
    rw [hs.isOk_read hb] at hfail
    cases hfail
  rw [hs.read_empty hempty] at hfail ⊢
  refine afterBuild_snd_of_error _ _ ?_
  cases hg : groupsOf excluded build s.endpoints with
  | error e => rfl
  | ok gs => rw [hg] at hfail; cases hfail

end Holds

/--
**What a read answers after any steps**: the groups of the endpoints as they were at the first read
that succeeded since the cache was last told to forget, at the base URL of this read; a fresh cache
answers for the present endpoints and is never built. A read that fails leaves the cache as it was.
-/
theorem read_after_run {ε : Type} (excluded : List String)
    (build : Endpoint → Except Source.Fault Metadata) (mode : CacheMode)
    (es : List (Except ε Endpoint)) (ts : List (Step ε)) (baseUrl : String) :
    let s := (run excluded build ⟨.ofMode mode, es⟩ ts).1
    let h := (run excluded build ⟨.ofMode mode, es⟩ ts).2
    let (answer, cache) := s.read excluded build baseUrl
    answer = (groupsOf excluded build (answeredFor mode h s.endpoints)).map (⟨baseUrl, ·⟩) ∧
      (s.cache.isBuilt = true ↔ mode = .cached ∧ ∃ e ∈ sinceForget h, e.succeeded = true) ∧
      (s.cache.isBuilt = true → answer.isOk = true) ∧
      (answer.isOk = false → cache = s.cache) := by
  have hs := holds_run excluded build mode es ts
  exact ⟨hs.read_fst baseUrl, hs.isBuilt_iff, fun hb => hs.isOk_read hb baseUrl,
    hs.read_snd_of_error⟩

end EndpointDocs.Cache
