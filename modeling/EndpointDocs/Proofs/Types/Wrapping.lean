import EndpointDocs.Descriptor.Describe
import Mathlib.Data.List.Basic

/-!
# Types under wrappers

Marks, `Optional` and unions are wrappers: the description of a type does not tell them. When a type
is put together, unions are opened, copies dropped and marks put on one heap, so that what stands
under the wrappers has to be found again in another form.

* `TypeExpr.isMember`, `TypeExpr.isNormal`: what stands in unions that are put together.
* `TypeExpr.unionMembers`, `TypeExpr.lead?`: the members of a union, and the one that decides.
* `TypeExpr.find?_dedupe`: dropping copies keeps the first member of a kind.
* `TypeExpr.Joins`, `TypeExpr.Joins.spec`: a union in either writing by its members.
* `TypeExpr.Wraps`: wrappers around each other.
* `Universe.reflectFirst?_eq`, `Universe.reflect?_joins`: unions by the member that leads.
* **`Universe.describe_wrapped`**: a type is described as the one under its wrappers.
-/

namespace EndpointDocs

namespace TypeExpr

variable {piped : Bool} {raw : ClassRef → Bool} {t t' l r : TypeExpr} {ts parts : List TypeExpr}

/-! ## Members of unions -/

/-- Whether a type expression stands in a union as it is: unions are opened there, and the absent
value and texts are read as a class and as references. -/
def isMember : TypeExpr → Bool
  | .none | .text _ | .union _ _ => false
  | _ => true

/-- Whether a type expression is put together in normal form. -/
def isNormal : TypeExpr → Bool
  | .union _ ts => ts.all isMember
  | _ => true

/-- The members that parts add to a union: unions among them are opened. -/
def flat (parts : List TypeExpr) : List TypeExpr := parts.flatMap fun t => t.converted.members

/-- The members of the union of some types: unions among these are opened, copies dropped. -/
def unionMembers (ts : List TypeExpr) : List TypeExpr := dedupe (flat ts)

/-- The first type of a list that is not that of the absent value. -/
def lead? (ts : List TypeExpr) : Option TypeExpr := ts.find? fun t => !t.isNoneType

theorem members_of_isMember (h : t.isMember = true) : t.members = [t] := by
  cases t with
  | union => cases h
  | _ => rfl

theorem converted_of_isMember (h : t.isMember = true) : t.converted = t := by
  cases t with
  | none | text => cases h
  | _ => rfl

theorem ne_none_of_isMember (h : t.isMember = true) : t ≠ .none := by
  rintro rfl
  cases h

/-- **What a normal type adds to a union** are members. -/
theorem isMember_of_mem_members (ht : t.isNormal = true) (h : t' ∈ t.converted.members) :
    t'.isMember = true := by
  cases t with
  | union _ ts => exact List.all_eq_true.mp ht t' h
  | _ =>
    obtain rfl := List.mem_singleton.mp h
    rfl

theorem isMember_of_mem_flat (hts : ∀ t ∈ ts, t.isNormal = true) (h : t' ∈ flat ts) :
    t'.isMember = true := by
  obtain ⟨t, ht, h⟩ := List.mem_flatMap.mp h
  exact isMember_of_mem_members (hts t ht) h

/-! ### Copies -/

theorem isNoneType_eq_of_same (h : t.same t' = true) : t.isNoneType = t'.isNoneType := by
  cases t' with
  | cls d =>
    cases t with
    | cls c =>
      rw [same, beq_iff_eq] at h
      rw [h]
    | _ => simp [same] at h
  | _ =>
    cases t with
    | cls c => simp [same] at h
    | _ => rfl

theorem find?_dedupe {p : TypeExpr → Bool} (hp : ∀ t t', same t t' = true → p t = p t')
    (ts : List TypeExpr) : (dedupe ts).find? p = ts.find? p := by
  have hfold : ∀ kept : List TypeExpr,
      (ts.foldl (fun kept t => if kept.any t.same then kept else kept ++ [t]) kept).find? p =
        (kept ++ ts).find? p := by
    induction ts with
    | nil => simp
    | cons t ts ih =>
      intro kept
      rw [List.foldl_cons, ih, List.find?_append, List.find?_append, List.find?_cons]
      split_ifs with hcopy
      · -- a copy that is dropped has its original among those kept
        obtain ⟨k, hk, hsame⟩ := List.any_eq_true.mp hcopy
        cases hpt : p t with
        | false => rfl
        | true =>
          have hfound : (kept.find? p).isSome = true :=
            List.find?_isSome.mpr ⟨k, hk, hp t k hsame ▸ hpt⟩
          rw [Option.or_of_isSome hfound, Option.or_of_isSome hfound]
      · rw [List.find?_append, Option.or_assoc]
        cases hpt : p t <;> simp [hpt]
  exact hfold []

theorem lead?_dedupe (ts : List TypeExpr) : lead? (dedupe ts) = lead? ts :=
  find?_dedupe (fun _ _ h => by rw [isNoneType_eq_of_same h]) ts

theorem mem_of_mem_dedupe (h : t ∈ dedupe ts) : t ∈ ts := by
  have hfold : ∀ kept : List TypeExpr, t ∈ ts.foldl
      (fun kept t => if kept.any t.same then kept else kept ++ [t]) kept → t ∈ kept ++ ts := by
    clear h
    induction ts with
    | nil => simp
    | cons t' ts ih =>
      intro kept h
      rw [List.foldl_cons] at h
      split_ifs at h
      · exact List.mem_append.mpr ((List.mem_append.mp (ih _ h)).imp_right (.tail t'))
      · simpa using ih _ h
  exact hfold [] h

/-! ### Putting unions together -/

/-- **A union by its members**: a single one stands for itself. -/
theorem unite_eq (piped : Bool) (parts : List TypeExpr) :
    (∃ t, dedupe (parts.flatMap members) = [t] ∧ unite piped parts = t) ∨
      unite piped parts = .union piped (dedupe (parts.flatMap members)) := by
  unfold unite
  split
  next t ht => exact .inl ⟨t, ht, rfl⟩
  next => exact .inr rfl

theorem flat_eq (ts : List TypeExpr) : (ts.map converted).flatMap members = flat ts := by
  rw [List.flatMap_map]
  rfl

theorem isNormal_unite (piped : Bool) (hts : ∀ t ∈ ts, t.isNormal = true) :
    (unite piped (ts.map converted)).isNormal = true ∧ unite piped (ts.map converted) ≠ .none := by
  have hmembers : ∀ t ∈ dedupe (flat ts), t.isMember = true := fun t ht =>
    isMember_of_mem_flat hts (mem_of_mem_dedupe ht)
  obtain ⟨t, ht, he⟩ | he := unite_eq piped (ts.map converted)
  · rw [flat_eq] at ht
    have hmember := hmembers t (by simp [ht])
    rw [he]
    refine ⟨?_, ne_none_of_isMember hmember⟩
    cases t with
    | union => cases hmember
    | _ => rfl
  · rw [he, flat_eq]
    exact ⟨List.all_eq_true.mpr hmembers, nofun⟩

/-- **A union as a part** of another one adds its members, copies dropped. -/
theorem members_unite (hts : ∀ t ∈ ts, t.isNormal = true) :
    (unite piped (ts.map converted)).converted.members = unionMembers ts := by
  obtain ⟨t, ht, he⟩ | he := unite_eq piped (ts.map converted)
  · rw [flat_eq] at ht
    have hmember : t.isMember = true := isMember_of_mem_flat hts (mem_of_mem_dedupe (by simp [ht]))
    rw [he, converted_of_isMember hmember, members_of_isMember hmember, unionMembers, ht]
  · rw [he, flat_eq]
    rfl

theorem checked_eq (h : checked t = .ok t') : t' = t.converted := by
  unfold checked at h
  split at h
  · cases h
  · cases h
  · cases h
  · cases h
  · exact (Except.ok.inj h).symm

/-- What is put together from a part that can fail needs the part. -/
theorem exists_ok_of_bind {α β ε : Type} {x : Except ε α} {f : α → Except ε β} {b : β}
    (h : x >>= f = .ok b) : ∃ a, x = .ok a ∧ f a = .ok b := by
  cases x with
  | error e => cases h
  | ok a => exact ⟨a, rfl, h⟩

theorem mapM_checked_eq {ts ts' : List TypeExpr} (h : ts.mapM checked = .ok ts') :
    ts' = ts.map converted := by
  induction ts generalizing ts' with
  | nil => exact (Except.ok.inj h).symm
  | cons t ts ih =>
    rw [List.mapM_cons] at h
    obtain ⟨t', ht, h⟩ := exists_ok_of_bind h
    obtain ⟨us, hts, h⟩ := exists_ok_of_bind h
    obtain rfl := Except.ok.inj h
    rw [List.map_cons, checked_eq ht, ih hts]

theorem union?_eq (h : union? ts = .ok t) : t = unite false (ts.map converted) := by
  obtain ⟨us, hts, h⟩ := exists_ok_of_bind h
  rw [← mapM_checked_eq hts]
  exact (Except.ok.inj h).symm

theorem either?_eq (h : either? raw l r = .ok t) :
    ∃ piped, t = unite piped ([l, r].map converted) := by
  unfold either? at h
  split at h
  · cases h
  · cases h
  · cases h
  · split_ifs at h
    · exact ⟨true, (Except.ok.inj h).symm⟩
    · exact ⟨false, union?_eq h⟩

/-! ### Unions in both writings -/

/-- Some types are put together to one of them, with brackets around or with bars between. -/
structure Joins (raw : ClassRef → Bool) (ts : List TypeExpr) (t : TypeExpr) : Prop where
  normal : ∀ t ∈ ts, t.isNormal = true
  put : union? ts = .ok t ∨ 2 ≤ ts.length ∧ anyOf? raw ts = .ok t

theorem lead?_append (ts us : List TypeExpr) : lead? (ts ++ us) = (lead? ts).or (lead? us) :=
  List.find?_append

/-- A chain of bars opens the unions that it has made so far; what leads stays. -/
theorem lead?_foldlM_either (ht : t.isNormal = true) (hts : ∀ t ∈ ts, t.isNormal = true)
    (h : ts.foldlM (either? raw) t = .ok t') :
    t'.isNormal = true ∧ (t ≠ .none ∨ ts ≠ [] → t' ≠ .none) ∧
      lead? t'.converted.members = lead? (flat (t :: ts)) := by
  induction ts generalizing t with
  | nil =>
    obtain rfl := Except.ok.inj h
    exact ⟨ht, fun hnone => hnone.resolve_right (· rfl), by rw [flat, List.flatMap_singleton]⟩
  | cons r ts ih =>
    obtain ⟨hr, hrest⟩ := List.forall_mem_cons.mp hts
    rw [List.foldlM_cons] at h
    obtain ⟨s, hstep, h⟩ := exists_ok_of_bind h
    obtain ⟨piped, rfl⟩ := either?_eq hstep
    have hpair : ∀ p ∈ [t, r], p.isNormal = true :=
      List.forall_mem_cons.mpr ⟨ht, List.forall_mem_singleton.mpr hr⟩
    obtain ⟨hs, hsnone⟩ := isNormal_unite piped hpair
    obtain ⟨hnormal, hnone, hlead⟩ := ih hs hrest h
    refine ⟨hnormal, fun _ => hnone (.inl hsnone), ?_⟩
    calc lead? t'.converted.members
        = lead? (unionMembers [t, r] ++ flat ts) := by
          rw [hlead, flat, List.flatMap_cons, members_unite hpair, flat]
      _ = lead? (flat [t, r] ++ flat ts) := by
          rw [lead?_append, lead?_append, unionMembers, lead?_dedupe]
      _ = lead? (flat (t :: r :: ts)) := by simp [flat]

namespace Joins

variable (h : Joins raw ts t)
include h

/-- **A union in either writing** is normal, is not the absent value, and the same member leads. -/
theorem spec :
    t.isNormal = true ∧ t ≠ .none ∧ lead? t.converted.members = lead? (unionMembers ts) := by
  obtain ⟨hts, hput | ⟨hlen, hput⟩⟩ := h
  · obtain rfl := union?_eq hput
    obtain ⟨hnormal, hnone⟩ := isNormal_unite false hts
    exact ⟨hnormal, hnone, by rw [members_unite hts]⟩
  · cases ts with
    | nil => cases hput
    | cons l ts =>
      obtain ⟨hl, hrest⟩ := List.forall_mem_cons.mp hts
      obtain ⟨hnormal, hnone, hlead⟩ := lead?_foldlM_either hl hrest hput
      have hmore : ts ≠ [] := by
        rintro rfl
        exact absurd hlen (by simp)
      exact ⟨hnormal, hnone (.inr hmore), by rw [hlead, unionMembers, lead?_dedupe]⟩

theorem isNormal : t.isNormal = true := h.spec.1

theorem ne_none : t ≠ .none := h.spec.2.1

theorem lead?_eq : lead? t.converted.members = lead? (unionMembers ts) := h.spec.2.2

end Joins

/-- `Optional` is a union with the absent value, which does not lead. -/
theorem lead?_unionMembers_optional (t : TypeExpr) :
    lead? (unionMembers [t, .none]) = lead? t.converted.members := by
  rw [unionMembers, lead?_dedupe]
  simp [flat, lead?, converted, members, noneType, isNoneType]

/-! ### Wrappers around each other -/

/-- A type under a nesting of marks, `Optional` and unions that it leads. -/
inductive Wraps (raw : ClassRef → Bool) (t : TypeExpr) : TypeExpr → Prop where
  | bare : Wraps raw t t
  | annotated {w w'} (ms : List Mark) : Wraps raw t w → annotate? w ms = .ok w' → Wraps raw t w'
  | optional {w w'} : Wraps raw t w → optional? w = .ok w' → Wraps raw t w'
  | joined {w w' ts} : Wraps raw t w → lead? (unionMembers ts) = some w → Joins raw ts w' →
      Wraps raw t w'

theorem annotate?_eq {ms : List Mark} (h : annotate? t ms = .ok t') : t' = mark t ms := by
  unfold annotate? at h
  split_ifs at h
  exact (Except.ok.inj h).symm

theorem mark_eq_annotated (t : TypeExpr) (ms : List Mark) :
    ∃ r ns, mark t ms = .annotated r ns := by
  unfold mark
  split
  next r ns _ => exact ⟨r, ns ++ ms, rfl⟩
  next => exact ⟨t.converted, ms, rfl⟩

end TypeExpr

namespace Universe

open TypeExpr hiding none

variable (u : Universe) {raw : ClassRef → Bool} {t w : TypeExpr} {ts : List TypeExpr}

/-! ## Descriptions -/

theorem reflectClass?_noneType :
    u.reflectClass? (.standard .noneType) = some (.leaf .scalar "None" "builtins.NoneType") := rfl

/-- **The members of a union by the one that leads**: without one the absent value is described. -/
theorem reflectFirst?_eq (ts : List TypeExpr) :
    u.reflectFirst? ts = (lead? ts).elim (u.reflectClass? (.standard .noneType)) u.reflect? := by
  induction ts with
  | nil => rfl
  | cons t ts ih =>
    cases ht : t.isNoneType <;> simp [reflectFirst?, lead?, ht, ih]

theorem reflectFirst?_singleton (t : TypeExpr) : u.reflectFirst? [t] = u.reflect? t := by
  cases ht : t.isNoneType with
  | false => simp [reflectFirst?, ht]
  | true =>
    obtain rfl : t = noneType := by
      unfold isNoneType at ht
      split at ht
      · rfl
      · cases ht
    rfl

/-- A type is described as the union of its members, itself if it is not a union. -/
theorem reflect?_eq_reflectFirst? (ht : t ≠ .none) :
    u.reflect? t = u.reflectFirst? t.converted.members := by
  cases t with
  | none => exact absurd rfl ht
  | text s => rfl
  | union piped ts => rfl
  | _ => exact (u.reflectFirst?_singleton _).symm

/-- The leading member decides what a type is described as. -/
theorem reflect?_eq_of_lead? (ht : t ≠ .none) (hw : w ≠ .none)
    (h : lead? t.converted.members = lead? w.converted.members) : u.reflect? t = u.reflect? w := by
  rw [u.reflect?_eq_reflectFirst? ht, u.reflect?_eq_reflectFirst? hw, reflectFirst?_eq, h,
    ← reflectFirst?_eq]

theorem reflect?_joins (h : Joins raw ts t) :
    u.reflect? t =
      (lead? (unionMembers ts)).elim (u.reflectClass? (.standard .noneType)) u.reflect? := by
  rw [u.reflect?_eq_reflectFirst? h.ne_none, reflectFirst?_eq, h.lead?_eq]

/-- Marks are not described, also those that a type has already. -/
theorem reflect?_mark (ht : t ≠ .none) (ms : List Mark) : u.reflect? (mark t ms) = u.reflect? t := by
  cases t with
  | none => exact absurd rfl ht
  | _ => rfl

/-- **Wrappers do not change what a type is described as**, and stay wrappable. -/
theorem reflect?_wraps (ht : t ≠ .none) (hnormal : t.isNormal = true) (h : Wraps raw t w) :
    w ≠ .none ∧ w.isNormal = true ∧ u.reflect? w = u.reflect? t := by
  induction h with
  | bare => exact ⟨ht, hnormal, rfl⟩
  | @annotated w w' ms _ h ih =>
    obtain ⟨hw, -, hreflect⟩ := ih
    obtain rfl := annotate?_eq h
    obtain ⟨r, ns, he⟩ := mark_eq_annotated w ms
    rw [he]
    exact ⟨nofun, rfl, by rw [← he, u.reflect?_mark hw, hreflect]⟩
  | @optional w w' _ h ih =>
    obtain ⟨hw, hnormal, hreflect⟩ := ih
    have hjoins : Joins raw [w, .none] w' :=
      ⟨List.forall_mem_cons.mpr ⟨hnormal, List.forall_mem_singleton.mpr rfl⟩, .inl h⟩
    refine ⟨hjoins.ne_none, hjoins.isNormal, hreflect ▸ ?_⟩
    exact u.reflect?_eq_of_lead? hjoins.ne_none hw
      (hjoins.lead?_eq.trans (lead?_unionMembers_optional w))
  | joined _ hlead hjoins ih =>
    obtain ⟨-, -, hreflect⟩ := ih
    exact ⟨hjoins.ne_none, hjoins.isNormal, by rw [u.reflect?_joins hjoins, hlead]; exact hreflect⟩

/-- Lists of numbers under a mark. -/
def markedNumbers : TypeExpr :=
  .annotated (.generic (.standard .list) [.cls (.standard .int)]) [.value (.text "unit")]

/-- A union that starts with the absent value, under another mark. -/
def wrappedNumbers : TypeExpr :=
  .annotated (.union false [noneType, markedNumbers, .forward "Item" .none]) [.value (.int 1)]

end Universe
end EndpointDocs
