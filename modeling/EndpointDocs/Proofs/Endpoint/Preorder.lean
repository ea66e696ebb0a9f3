import EndpointDocs.Proofs.Endpoint.Paths
import Mathlib.Data.List.Nodup

/-!
# The order of rows

The rows of a type are listed as a walk of a tree lists its nodes. The tree is that of the names
that lead from field to field, through any number of collections; a class may come again in it.

* `Preordered`, `sprout`: paths in the order of such a walk, and how a walk is put together.
* `Preordered.append`, `Preordered.sprout`, `Preordered.flatMap`: walks make larger walks.
* `Row.trail`, `splitOn_extend`: the names in the path of a row.
* `Rows.trails`, **`trails_below`**: the walk that the rows of a type are.
* `Leads`, `filter_trails`: what stands right below a path.
* **`rows_preordered`**: the rows that a store gives are in preorder.
-/

namespace EndpointDocs

/-! ## Paths in preorder -/

section Preordered

variable {α β : Type} {a b : α} {p q : List α} {ps qs before after : List (List α)}

/--
Paths as a walk of a tree lists them: none twice, each behind that of its parent, and all that
extend a path in one block right behind it.
-/
structure Preordered (ps : List (List α)) : Prop where
  nonempty : ∀ p ∈ ps, p ≠ []
  nodup : ps.Nodup
  parent : ∀ {before p after}, ps = before ++ p :: after → 1 < p.length → p.dropLast ∈ before
  block : ∀ {before p after}, ps = before ++ p :: after → ∃ inner rest, after = inner ++ rest ∧
    (∀ q ∈ inner, p <+: q) ∧ ∀ q ∈ before ++ rest, ¬ p <+: q

/-- A path of one name, and some paths put below it. -/
def sprout (a : α) (ps : List (List α)) : List (List α) := [a] :: ps.map (a :: ·)

theorem head?_of_mem_sprout (h : p ∈ sprout a ps) : p.head? = some a := by
  obtain rfl | h := List.mem_cons.mp h
  · rfl
  · obtain ⟨q, -, rfl⟩ := List.mem_map.mp h
    rfl

theorem sprout_eq_append_cons (h : sprout a ps = before ++ p :: after) :
    (before = [] ∧ p = [a] ∧ after = ps.map (a :: ·)) ∨ ∃ before' q after',
      ps = before' ++ q :: after' ∧ before = sprout a before' ∧ p = a :: q ∧
        after = after'.map (a :: ·) := by
  cases before with
  | nil =>
    obtain ⟨rfl, rfl⟩ := List.cons.inj h
    exact .inl ⟨rfl, rfl, rfl⟩
  | cons r before =>
    obtain ⟨rfl, hps⟩ := List.cons.inj h
    obtain ⟨before', qs, rfl, rfl, hqs⟩ := List.map_eq_append_iff.mp hps
    obtain ⟨q, after', rfl, rfl, rfl⟩ := List.map_eq_cons_iff.mp hqs
    exact .inr ⟨before', q, after', rfl, rfl, rfl, rfl⟩

theorem append_eq_append_cons (h : ps ++ qs = before ++ p :: after) :
    (∃ rest, ps = before ++ p :: rest ∧ after = rest ++ qs) ∨
      ∃ rest, before = ps ++ rest ∧ qs = rest ++ p :: after := by
  obtain ⟨rest, hbefore, hqs⟩ | ⟨rest, hps, hrest⟩ := List.append_eq_append_iff.mp h
  · exact .inr ⟨rest, hbefore, hqs⟩
  · cases rest with
    | nil => exact .inr ⟨[], by simp [hps], by simpa using hrest.symm⟩
    | cons r rest =>
      obtain ⟨rfl, rfl⟩ := List.cons.inj hrest
      exact .inl ⟨rest, hps, rfl⟩

theorem head?_eq_of_extends (hp : p ≠ []) (h : p <+: q) : p.head? = q.head? := by
  obtain ⟨r, rfl⟩ := h
  rw [List.head?_append_of_ne_nil _ hp]

namespace Preordered

theorem nil : Preordered ([] : List (List α)) where
  nonempty := by simp
  nodup := .nil
  parent h := by simp at h
  block h := by simp at h

/-- **A walk is put below a name.** -/
theorem sprout (h : Preordered ps) : Preordered (sprout a ps) where
  nonempty p hp := by
    rintro rfl
    simpa using head?_of_mem_sprout hp
  nodup := by
    refine List.nodup_cons.mpr ⟨fun hmem => ?_, List.Nodup.map List.cons_injective h.nodup⟩
    obtain ⟨q, hq, he⟩ := List.mem_map.mp hmem
    exact h.nonempty q hq (List.cons.inj he).2
  parent hcut hlen := by
    obtain ⟨-, rfl, -⟩ | ⟨before', q, after', hps, rfl, rfl, -⟩ := sprout_eq_append_cons hcut
    · simp at hlen
    · have hq : q ≠ [] := h.nonempty q (by simp [hps])
      rw [List.dropLast_cons_of_ne_nil hq]
      by_cases hone : 1 < q.length
      · exact List.mem_cons_of_mem _ (List.mem_map_of_mem (h.parent hps hone))
      · -- a path of two names stands behind the first name alone
        have hlast : q.dropLast = [] := by
          rw [← List.length_eq_zero_iff, List.length_dropLast]
          omega
        rw [hlast]
        exact List.mem_cons_self
  block hcut := by
    obtain ⟨rfl, rfl, rfl⟩ | ⟨before', q, after', hps, rfl, rfl, rfl⟩ :=
      sprout_eq_append_cons hcut
    · refine ⟨_, [], (List.append_nil _).symm, fun r hr => ?_, by simp⟩
      obtain ⟨s, -, rfl⟩ := List.mem_map.mp hr
      exact List.prefix_append [a] s
    · have hq : q ≠ [] := h.nonempty q (by simp [hps])
      obtain ⟨inner, rest, rfl, hinner, hrest⟩ := h.block hps
      refine ⟨inner.map (a :: ·), rest.map (a :: ·), List.map_append, ?_, ?_⟩
      · simpa using hinner
      · intro r hr
        rw [EndpointDocs.sprout, List.cons_append, ← List.map_append, List.mem_cons] at hr
        obtain rfl | hr := hr
        · simpa using hq
        · obtain ⟨s, hs, rfl⟩ := List.mem_map.mp hr
          simpa using hrest s hs

/-- **Two walks follow each other** if they start with different names. -/
theorem append (hp : Preordered ps) (hq : Preordered qs)
    (hheads : ∀ p ∈ ps, ∀ q ∈ qs, p.head? ≠ q.head?) : Preordered (ps ++ qs) where
  nonempty p h := (List.mem_append.mp h).elim (hp.nonempty p) (hq.nonempty p)
  nodup := by
    refine List.nodup_append.mpr ⟨hp.nodup, hq.nodup, fun p h q h' he => ?_⟩
    exact hheads p h q h' (congrArg _ he)
  parent hcut hlen := by
    obtain ⟨rest, hps, -⟩ | ⟨rest, rfl, hqs⟩ := append_eq_append_cons hcut
    · exact hp.parent hps hlen
    · exact List.mem_append_right _ (hq.parent hqs hlen)
  block {before p after} hcut := by
    obtain ⟨rest, hps, rfl⟩ | ⟨rest, rfl, hqs⟩ := append_eq_append_cons hcut
    · have hmem : p ∈ ps := by simp [hps]
      obtain ⟨inner, rest, rfl, hinner, hrest⟩ := hp.block hps
      refine ⟨inner, rest ++ qs, by simp, hinner, fun q h => ?_⟩
      rw [← List.append_assoc, List.mem_append] at h
      obtain h | h := h
      · exact hrest q h
      · exact fun hpq => hheads p hmem q h (head?_eq_of_extends (hp.nonempty p hmem) hpq)
    · have hmem : p ∈ qs := by simp [hqs]
      obtain ⟨inner, rest', rfl, hinner, hrest⟩ := hq.block hqs
      refine ⟨inner, rest', rfl, hinner, fun q h => ?_⟩
      rw [List.append_assoc, List.mem_append] at h
      obtain h | h := h
      · exact fun hpq => hheads q h p hmem (head?_eq_of_extends (hq.nonempty p hmem) hpq).symm
      · exact hrest q h

/-- **Walks below different names** make one walk. -/
theorem flatMap {key : β → α} {walk : β → List (List α)} {xs : List β}
    (hkeys : (xs.map key).Nodup) (h : ∀ x ∈ xs, Preordered (walk x)) :
    Preordered (xs.flatMap fun x => EndpointDocs.sprout (key x) (walk x)) := by
  induction xs with
  | nil => exact .nil
  | cons x xs ih =>
    rw [List.map_cons, List.nodup_cons] at hkeys
    obtain ⟨hx, hxs⟩ := List.forall_mem_cons.mp h
    rw [List.flatMap_cons]
    refine hx.sprout.append (ih hkeys.2 hxs) fun p hp q hq => ?_
    obtain ⟨y, hy, hq⟩ := List.mem_flatMap.mp hq
    rw [head?_of_mem_sprout hp, head?_of_mem_sprout hq, Ne, Option.some.injEq]
    intro he
    exact hkeys.1 (he ▸ List.mem_map_of_mem hy)

end Preordered

/-! ### What stands right below a path -/

section Children

variable [DecidableEq α]

omit [DecidableEq α] in
theorem filter_sprout_nil (h : ∀ q ∈ ps, q ≠ []) :
    (sprout a ps).filter (·.dropLast = []) = [[a]] := by
  have hps : ∀ q ∈ ps, (a :: q).dropLast ≠ [] := by
    intro q hq
    rw [List.dropLast_cons_of_ne_nil (h q hq)]
    simp
  rw [sprout, List.filter_cons_of_pos (by simp), List.filter_eq_nil_iff.mpr]
  simpa using hps

theorem filter_sprout_cons (h : ∀ q ∈ ps, q ≠ []) (p : List α) :
    (sprout a ps).filter (·.dropLast = a :: p) =
      (ps.filter (·.dropLast = p)).map (a :: ·) := by
  rw [sprout, List.filter_cons_of_neg (by simp), List.filter_map]
  congr 1
  refine List.filter_congr fun q hq => ?_
  simp [List.dropLast_cons_of_ne_nil (h q hq)]

theorem filter_sprout_of_ne (hne : a ≠ b) (h : ∀ q ∈ ps, q ≠ []) (p : List α) :
    (sprout a ps).filter (·.dropLast = b :: p) = [] := by
  have hps : ∀ q ∈ ps, (a :: q).dropLast ≠ b :: p := by
    intro q hq
    rw [List.dropLast_cons_of_ne_nil (h q hq)]
    simp [hne]
  rw [sprout, List.filter_cons_of_neg (by simp), List.filter_eq_nil_iff.mpr]
  simpa using hps

end Children

/-- In a list of different keys, one element gives all there is if no other key gives anything. -/
theorem flatMap_eq_of_key {γ δ : Type} {key : β → γ} {g : β → List δ} {xs : List β} {x : β}
    (hx : x ∈ xs) (hkeys : (xs.map key).Nodup) (hother : ∀ y ∈ xs, key x ≠ key y → g y = []) :
    xs.flatMap g = g x := by
  obtain ⟨before, after, rfl⟩ := List.append_of_mem hx
  rw [List.map_append, List.map_cons, List.nodup_append, List.nodup_cons] at hkeys
  obtain ⟨-, ⟨hafter, -⟩, hbefore⟩ := hkeys
  have hnone : ∀ ys : List β, (∀ y ∈ ys, y ∈ before ++ x :: after ∧ key x ≠ key y) →
      ys.flatMap g = [] := fun ys h => List.flatMap_eq_nil_iff.mpr fun y hy =>
    hother y (h y hy).1 (h y hy).2
  rw [List.flatMap_append, List.flatMap_cons, hnone before, hnone after, List.append_nil,
    List.nil_append]
  · intro y hy
    exact ⟨by simp [hy], fun he => hafter (he ▸ List.mem_map_of_mem hy)⟩
  · intro y hy
    refine ⟨by simp [hy], fun he => ?_⟩
    exact hbefore _ (List.mem_map_of_mem hy) _ List.mem_cons_self he.symm

end Preordered

/-! ## The names in a path -/

/-- The names in the path of a row. -/
def Row.trail (r : Row) : List String := Text.splitOn '.' r.path

namespace Rows

/-- The names in a path; the empty path has none. -/
def segments (path : String) : List String := if path = "" then [] else Text.splitOn '.' path

variable {path name : String}

theorem extend_ne_empty (hname : name ≠ "") : extend path name ≠ "" := by
  unfold extend
  split_ifs with h
  · exact hname
  · intro he
    have := congrArg String.toList he
    simp at this

/-- **A path grows by one name**, unless the name has a dot. -/
theorem splitOn_extend (hdot : '.' ∉ name.toList) :
    Text.splitOn '.' (extend path name) = segments path ++ [name] := by
  have hchars : ∀ c ∈ name.toList, (c == '.') = false := by
    intro c hc
    simpa using fun he : c = '.' => hdot (he ▸ hc)
  have hname : name.toList.splitOn '.' = [name.toList] := List.splitOnP_eq_singleton hchars
  unfold extend segments
  split_ifs with h
  · simp [Text.splitOn, hname]
  · have hlist : (path ++ "." ++ name).toList = path.toList ++ '.' :: name.toList := by simp
    rw [Text.splitOn, Text.splitOn, hlist, List.splitOn_append_cons_self, hname]
    simp

theorem segments_extend (hname : name ≠ "") (hdot : '.' ∉ name.toList) :
    segments (extend path name) = segments path ++ [name] := by
  rw [segments, if_neg (extend_ne_empty hname), splitOn_extend hdot]

end Rows

/-! ## The walk of a type -/

/-- The fields of a record are told apart by their names, and no name is empty or has a dot. -/
structure Named (d : Descriptor) : Prop where
  distinct : (d.shown.map (·.name)).Nodup
  nonempty : ∀ f ∈ d.shown, f.name ≠ ""
  undotted : ∀ f ∈ d.shown, '.' ∉ f.name.toList

namespace Rows

variable (u : Universe)

/-- Whether a field has a row: its values have it, and its type and its description are known. -/
def isTold (cell : Field → Except Source.Fault String) (f : Field) : Bool :=
  !f.static && (u.describeField? f).isSome && (cell f).isOk

/-- The names that lead to each row of a type, given the fields that have rows. -/
def trails (told : Field → Bool) : Nat → Descriptor → List (List String)
  | 0, _ => []
  | n + 1, d => (d.recordFields.filter told).flatMap fun f =>
    sprout f.name ((u.describeField? f).elim [] (trails told n))

end Rows

section Walk

variable {u : Universe} {d : Descriptor} {P : Descriptor → Prop} {f : Field} {t : Descriptor}

theorem Throughout.exists_shown (hd : Throughout u P d) (hf : f ∈ d.recordFields) :
    ∃ r, Throughout u P r ∧ r.shown = d.recordFields.filter (!·.static) := by
  fun_induction Descriptor.recordFields d with
  | case1 name fullName key e fields ih | case2 name fullName key e fields ih =>
    exact ih (hd.part (.element rfl rfl)) hf
  | case3 name fullName key element fs => exact ⟨_, hd, rfl⟩
  | case4 => cases hf

theorem Throughout.exists_mem_shown (hd : Throughout u P d) (hf : f ∈ d.recordFields)
    (hstatic : f.static = false) : ∃ r, Throughout u P r ∧ f ∈ r.shown := by
  obtain ⟨r, hr, hshown⟩ := hd.exists_shown hf
  refine ⟨r, hr, ?_⟩
  rw [hshown, List.mem_filter]
  exact ⟨hf, by simp [hstatic]⟩

theorem Throughout.field (hd : Throughout u P d) (hf : f ∈ d.recordFields)
    (hstatic : f.static = false) (ht : u.describeField? f = some t) : Throughout u P t := by
  obtain ⟨r, hr, hmem⟩ := hd.exists_mem_shown hf hstatic
  exact hr.part (.field hmem ht)

theorem Throughout.named_field (hd : Throughout u Named d) (hf : f ∈ d.recordFields)
    (hstatic : f.static = false) : f.name ≠ "" ∧ '.' ∉ f.name.toList := by
  obtain ⟨r, hr, hmem⟩ := hd.exists_mem_shown hf hstatic
  exact ⟨hr.here.nonempty f hmem, hr.here.undotted f hmem⟩

theorem Throughout.nodup_names (hd : Throughout u Named d) {told : Field → Bool}
    (htold : ∀ f, told f = true → f.static = false) :
    ((d.recordFields.filter told).map (·.name)).Nodup := by
  by_cases hnone : d.recordFields = []
  · simp [hnone]
  obtain ⟨f, hf⟩ := List.exists_mem_of_ne_nil _ hnone
  obtain ⟨r, hr, hshown⟩ := hd.exists_shown hf
  have hsub : (d.recordFields.filter told).Sublist r.shown := by
    rw [hshown]
    refine List.monotone_filter_right _ fun g hg => ?_
    simp [htold g hg]
  exact hr.here.distinct.sublist (hsub.map _)

namespace Rows

variable {cell : Field → Except Source.Fault String} {told : Field → Bool}

theorem isTold_iff : isTold u cell f = true ↔
    f.static = false ∧ (∃ t, u.describeField? f = some t) ∧ ∃ text, cell f = .ok text := by
  have hok : (cell f).isOk = true ↔ ∃ text, cell f = .ok text := by
    cases cell f <;> simp
  simp [isTold, hok, Option.isSome_iff_exists, and_assoc]

/-- **The rows of a type** are its walk, put below the names of the path. -/
theorem trails_below (hd : Throughout u Named d) (n : Nat) (path : String) :
    (below u cell n path d).map Row.trail =
      (trails u (isTold u cell) n d).map (segments path ++ ·) := by
  induction n generalizing d path with
  | zero => rfl
  | succ n ih =>
    rw [below_succ, trails, flatMap_filter, List.map_flatMap, List.map_flatMap]
    refine List.flatMap_congr fun f hf => ?_
    by_cases htold : isTold u cell f = true
    · obtain ⟨hstatic, ⟨t, ht⟩, text, htext⟩ := isTold_iff.mp htold
      obtain ⟨hname, hdot⟩ := hd.named_field hf hstatic
      have hrest := ih (hd.field hf hstatic ht) (extend path f.name)
      rw [segments_extend hname hdot] at hrest
      have hrow : Row.trail ⟨extend path f.name, t.name, text⟩ = segments path ++ [f.name] :=
        splitOn_extend hdot
      simp [htold, hstatic, ht, htext, sprout, hrow, hrest]
    · have hnone : ∀ t text, f.static = false → u.describeField? f = some t → cell f ≠ .ok text :=
        fun t text hstatic ht htext => htold (isTold_iff.mpr ⟨hstatic, ⟨t, ht⟩, text, htext⟩)
      rw [if_neg htold]
      cases hstatic : f.static with
      | true => rfl
      | false =>
        cases ht : u.describeField? f with
        | none => rfl
        | some t =>
          cases htext : cell f with
          | ok text => exact absurd htext (hnone t text hstatic ht)
          | error e => rfl

/-- **The walk of a type is in preorder.** -/
theorem preordered_trails (hd : Throughout u Named d)
    (htold : ∀ f, told f = true → f.static = false) (n : Nat) :
    Preordered (trails u told n d) := by
  induction n generalizing d with
  | zero => exact .nil
  | succ n ih =>
    refine .flatMap (hd.nodup_names htold) fun f hf => ?_
    obtain ⟨hf, hshown⟩ := List.mem_filter.mp hf
    cases ht : u.describeField? f with
    | none => exact .nil
    | some t => exact ih (hd.field hf (htold f hshown) ht)

end Rows

end Walk

/-! ### What stands right below a path -/

/-- The names of fields lead from a type to that of the last of them, over fields of a kind. -/
inductive Leads (u : Universe) (told : Field → Bool) : Descriptor → List String → Descriptor → Prop
  | here (d : Descriptor) : Leads u told d [] d
  | field {d t e : Descriptor} {f : Field} {trail : List String} : f ∈ d.recordFields →
    told f = true → u.describeField? f = some t → Leads u told t trail e →
    Leads u told d (f.name :: trail) e

/-- **Right below a path** stand the fields of the record that it leads to, as they are declared. -/
theorem filter_trails {u : Universe} {told : Field → Bool} {d e : Descriptor} {trail : List String}
    (hd : Throughout u Named d) (htold : ∀ f, told f = true → f.static = false)
    (hlead : Leads u told d trail e) {n : Nat} (hn : trail.length < n) :
    (Rows.trails u told n d).filter (·.dropLast = trail) =
      (e.recordFields.filter told).map fun f => trail ++ [f.name] := by
  have hsub : ∀ {d : Descriptor} (_ : Throughout u Named d) {m : Nat} {f : Field},
      f ∈ d.recordFields.filter told → ∀ q ∈ (u.describeField? f).elim [] (Rows.trails u told m),
        q ≠ [] := by
    intro d hd m f hf
    obtain ⟨hf, hshown⟩ := List.mem_filter.mp hf
    cases ht : u.describeField? f with
    | none => simp
    | some t =>
      exact (Rows.preordered_trails (hd.field hf (htold f hshown) ht) htold m).nonempty
  obtain ⟨n, rfl⟩ : ∃ k, n = k + 1 := ⟨n - 1, by omega⟩
  induction hlead generalizing n with
  | here d =>
    have hown : ∀ f ∈ d.recordFields.filter told,
        (sprout f.name ((u.describeField? f).elim [] (Rows.trails u told n))).filter
          (·.dropLast = []) = [[f.name]] := fun f hf => filter_sprout_nil (hsub hd hf)
    rw [Rows.trails, List.filter_flatMap, List.flatMap_congr hown, ← List.map_eq_flatMap]
    rfl
  | @field d t e f trail hf hshown ht hlead ih =>
    obtain ⟨n, rfl⟩ : ∃ k, n = k + 1 := ⟨n - 1, by rw [List.length_cons] at hn; omega⟩
    have hmem : f ∈ d.recordFields.filter told := List.mem_filter.mpr ⟨hf, hshown⟩
    have hother : ∀ g ∈ d.recordFields.filter told, f.name ≠ g.name →
        (sprout g.name ((u.describeField? g).elim [] (Rows.trails u told (n + 1)))).filter
          (·.dropLast = f.name :: trail) = [] :=
      fun g hg hne => filter_sprout_of_ne (Ne.symm hne) (hsub hd hg) trail
    have hbelow := ih (hd.field hf (htold f hshown) ht) n (by simpa using hn)
    rw [Rows.trails, List.filter_flatMap, flatMap_eq_of_key hmem (hd.nodup_names htold) hother,
      filter_sprout_cons (hsub hd hmem), ht, Option.elim_some, hbelow, List.map_map]
    rfl

/--
**The rows that a store gives are in preorder.** Let the fields of each record of a type have names
of their own, none of them empty or with a dot. Then no path comes twice, the path without its last
name comes earlier, and all that extend a path stand in one block right behind it. The rows right
below a path, and those of the type itself, are the fields of the record that the path leads to:
those that have rows, in the order of their declaration, down to the limit. Collections are passed
without a name of their own.
-/
theorem rows_preordered (u : Universe) (style : Option Comment.Style) (s : Source.Store)
    (d : Descriptor) (limit : Int) (hd : Throughout u Named d) :
    let rows := ((Rows.ofType u (style.map Source.Store.docs) d "" 0 limit).run s).1.toList
    let told := Rows.isTold u fun f =>
      ((Rows.fieldCell (style.map Source.Store.docs) f).run.run s).1
    (rows.map (·.path)).Nodup ∧ Preordered (rows.map Row.trail) ∧
      ∀ trail e, Leads u told d trail e → trail.length ≤ limit →
        (rows.map Row.trail).filter (·.dropLast = trail) =
          (e.recordFields.filter told).map fun f => trail ++ [f.name] := by
  have hview : (fun f => ((Rows.fieldCell (style.map Source.Store.docs) f).run.run s).1) =
      Rows.viewCell style s.view := by
    funext f
    exact (Rows.fieldCell_tells style s.view f s rfl).1
  have htold : ∀ f, Rows.isTold u (Rows.viewCell style s.view) f = true → f.static = false :=
    fun f hf => (Rows.isTold_iff.mp hf).1
  have htrails : (Rows.below u (Rows.viewCell style s.view) (Example.room 0 limit) "" d).map
      Row.trail = _ := Rows.trails_below hd (Example.room 0 limit) ""
  have hroot : ∀ ps : List (List String), ps.map (Rows.segments "" ++ ·) = ps := by
    intro ps
    simp [Rows.segments]
  rw [hroot] at htrails
  have hpre := Rows.preordered_trails hd htold (Example.room 0 limit)
  simp only [Rows.run_ofType, hview, htrails]
  refine ⟨?_, hpre, fun trail e hlead hlen => ?_⟩
  · refine List.Nodup.of_map (Text.splitOn '.') ?_
    rw [List.map_map]
    exact htrails ▸ hpre.nodup
  · exact filter_trails hd htold hlead (by unfold Example.room; omega)

theorem rows_preordered_node :
    let rows := ((Rows.ofType nodeClasses ((some Comment.Style.hash).map Source.Store.docs)
      nodeSample "" 0 1).run nodeStore).1.toList
    Throughout nodeClasses Named nodeSample ∧
      rows.map Row.trail = [["id"], ["next"], ["next", "id"], ["next", "next"],
        ["next", "children"], ["children"], ["children", "id"], ["children", "next"],
        ["children", "children"]] ∧
      Preordered (rows.map Row.trail) ∧
      (rows.map Row.trail).filter (·.dropLast = ["children"]) =
        [["children", "id"], ["children", "next"], ["children", "children"]] := by
  intro rows
  have hnames : ∀ f ∈ nodeSample.shown, f.name ≠ "" ∧ '.' ∉ f.name.toList := by decide +kernel
  have hnamed : Throughout nodeClasses Named nodeSample :=
    nodeSample_closed ⟨by decide, fun f hf => (hnames f hf).1, fun f hf => (hnames f hf).2⟩
      ⟨by decide, nofun, nofun⟩ ⟨by decide, nofun, nofun⟩
  obtain ⟨-, hpre, hchildren⟩ := rows_preordered nodeClasses (some .hash) nodeStore nodeSample 1
    hnamed
  have htrails : rows.map Row.trail = [["id"], ["next"], ["next", "id"], ["next", "next"],
      ["next", "children"], ["children"], ["children", "id"], ["children", "next"],
      ["children", "children"]] := by decide +kernel
  let told := Rows.isTold nodeClasses fun f =>
    ((Rows.fieldCell ((some Comment.Style.hash).map Source.Store.docs) f).run.run nodeStore).1
  let nodes : TypeExpr := .generic (.standard .list) [.cls (.declared "Node")]
  have hlead : Leads nodeClasses told nodeSample ["children"]
      (nodeClasses.describe nodes) :=
    .field (f := nodeField "children" nodes) (.tail _ (.tail _ (.head _))) (by decide +kernel) rfl
      (.here _)
  have hdeclared : ((nodeClasses.describe nodes).recordFields.filter told).map
      (fun f => ["children"] ++ [f.name]) =
        [["children", "id"], ["children", "next"], ["children", "children"]] := by decide +kernel
  exact ⟨hnamed, htrails, hpre, (hchildren _ _ hlead (by decide)).trans hdeclared⟩

end EndpointDocs
