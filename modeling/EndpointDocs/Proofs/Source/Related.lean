import EndpointDocs.Source.Store
import Mathlib.Data.List.Forall2
import Mathlib.Tactic.Common

/-!
# Related computations

Two computations with memories of their own, compared answer by answer.

* `Related`: from tied memories, tied answers and tied memories.
* `Agree`: two answers that are both there, or fail with the same fault.
* `Related.bind`, `Related.foldlM`, `Related.mapM`: related parts make related wholes.
* `Related.lookup_bind`: the same for questions that may fail.
-/

namespace EndpointDocs

variable {σ τ α β γ δ ε : Type} {I : σ → τ → Prop} {R : α → β → Prop} {S : γ → δ → Prop}

/-- From memories that `I` ties together, answers that `R` ties together; the memories stay tied. -/
def Related (I : σ → τ → Prop) (R : α → β → Prop) (x : StateM σ α) (y : StateM τ β) : Prop :=
  ∀ s t, I s t → R (x.run s).1 (y.run t).1 ∧ I (x.run s).2 (y.run t).2

/-- Two answers that are tied by `R`, or the same fault. -/
inductive Agree (R : α → β → Prop) : Except ε α → Except ε β → Prop
  | ok {a : α} {b : β} : R a b → Agree R (.ok a) (.ok b)
  | error (e : ε) : Agree R (.error e) (.error e)

theorem Agree.refl {R : α → α → Prop} (hR : ∀ a, R a a) (x : Except ε α) : Agree R x x := by
  cases x with
  | ok a => exact .ok (hR a)
  | error e => exact .error e

theorem Agree.eq {R : α → α → Prop} {x y : Except ε α} (h : Agree R x y)
    (hR : ∀ a b, R a b → a = b) : x = y := by
  cases h with
  | ok hab => rw [hR _ _ hab]
  | error e => rfl

@[simp] theorem isOk_ok (a : α) : (Except.ok a : Except ε α).isOk = true := rfl

@[simp] theorem isOk_error (e : ε) : (Except.error e : Except ε α).isOk = false := rfl

namespace Related

theorem pure {a : α} {b : β} (h : R a b) : Related I R (Pure.pure a) (Pure.pure b) :=
  fun _ _ hI => ⟨h, hI⟩

theorem bind {x : StateM σ α} {y : StateM τ β} {f : α → StateM σ γ} {g : β → StateM τ δ}
    (h : Related I R x y) (hfg : ∀ a b, R a b → Related I S (f a) (g b)) :
    Related I S (x >>= f) (y >>= g) := fun s t hI =>
  hfg _ _ (h s t hI).1 _ _ (h s t hI).2

theorem map {x : StateM σ α} {y : StateM τ β} {f : α → γ} {g : β → δ} (h : Related I R x y)
    (hfg : ∀ a b, R a b → S (f a) (g b)) : Related I S (f <$> x) (g <$> y) := fun s t hI =>
  ⟨hfg _ _ (h s t hI).1, (h s t hI).2⟩

theorem foldlM {f : α → γ → StateM σ α} {g : β → γ → StateM τ β} (xs : List γ)
    (hstep : ∀ a b, ∀ x ∈ xs, R a b → Related I R (f a x) (g b x)) {a : α} {b : β} (h : R a b) :
    Related I R (xs.foldlM f a) (xs.foldlM g b) := by
  induction xs generalizing a b with
  | nil => exact pure h
  | cons x xs ih =>
    rw [List.foldlM_cons, List.foldlM_cons]
    refine bind (hstep a b x List.mem_cons_self h) fun a' b' h' => ?_
    exact ih (fun a b y hy => hstep a b y (List.mem_cons_of_mem _ hy)) h'

theorem mapM {f : γ → StateM σ α} {g : γ → StateM τ β} (xs : List γ)
    (hf : ∀ x, Related I R (f x) (g x)) :
    Related I (List.Forall₂ R) (xs.mapM f) (xs.mapM g) := by
  induction xs with
  | nil => exact pure .nil
  | cons x xs ih =>
    rw [List.mapM_cons, List.mapM_cons]
    exact bind (hf x) fun a b h => bind ih fun as bs hs => pure (.cons h hs)

theorem lookup_pure {a : α} {b : β} (h : R a b) :
    Related I (Agree R) (Pure.pure a : Lookup σ α).run (Pure.pure b : Lookup τ β).run :=
  pure (.ok h)

theorem lookup_lift {x : StateM σ α} {y : StateM τ β} (h : Related I R x y) :
    Related I (Agree R) (liftM x : Lookup σ α).run (liftM y : Lookup τ β).run :=
  map h fun _ _ hR => .ok hR

theorem lookup_bind {x : Lookup σ α} {y : Lookup τ β} {f : α → Lookup σ γ} {g : β → Lookup τ δ}
    (h : Related I (Agree R) x.run y.run)
    (hfg : ∀ a b, R a b → Related I (Agree S) (f a).run (g b).run) :
    Related I (Agree S) (x >>= f).run (y >>= g).run := by
  rw [ExceptT.run_bind, ExceptT.run_bind]
  refine bind h fun a b hab => ?_
  cases hab with
  | ok hR => exact hfg _ _ hR
  | error e => exact pure (.error e)

end Related

end EndpointDocs
