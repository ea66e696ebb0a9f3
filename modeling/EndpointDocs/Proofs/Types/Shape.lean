import EndpointDocs.Descriptor.Describe
import Mathlib.Data.List.Basic
import Mathlib.Logic.Relation

/-!
# The shape of descriptions

Whoever reads a description relies on its kind to tell which of its parts are there. The types of
fields are described on demand, so a description has parts to any depth, and circles among classes
make it go on without end.

* `Descriptor.Shaped`: the parts of a description fit its kind.
* `Component`: what a description holds, and what its fields turn out to be.
* `Universe.Formed`: a fitting description whose parts are descriptions of types as well.
* `formed_describeRecord`, `formed_reflectAs?`, `formed_reflectGeneric?`: kinds of classes.
* `formed_reflect?`, `formed_describe`: all types.
* **`describe_shaped`**: the parts of a description fit its kind at any depth.
-/

namespace EndpointDocs

/-- The parts of a description fit its kind: fields make a record, elements are in collections, and
the elements of a mapping have keys. -/
structure Descriptor.Shaped (d : Descriptor) : Prop where
  fields : d.fields ≠ [] ↔ d.kind = .record
  element : d.element.isSome = true → d.kind = .sequence ∨ d.kind = .mapping
  key : d.key.isSome = true ↔ d.kind = .mapping ∧ d.element.isSome = true

/-- What a description holds: a key, an element, or what the type of a field is described as. -/
inductive Component (u : Universe) (d : Descriptor) : Descriptor → Prop
  | key {e : Descriptor} : d.key = some e → Component u d e
  | element {e : Descriptor} : d.element = some e → Component u d e
  | field {f : Field} {e : Descriptor} : f ∈ d.fields → u.describeField? f = some e →
    Component u d e

namespace Universe

variable (u : Universe)

/-- A fitting description whose parts are descriptions of types as well. -/
structure Formed (d : Descriptor) : Prop where
  shaped : d.Shaped
  key : ∀ e, d.key = some e → ∃ t, e = u.describe t
  element : ∀ e, d.element = some e → ∃ t, e = u.describe t
  fields : ∀ f ∈ d.fields, u.describeField? f = some (u.describe f.type)

variable {u} {c : ClassRef} {d e : Descriptor} {name fullName : String} {fs : List Field}

/-! ## Records -/

theorem formed_leaf {kind : Kind} (h : kind ≠ .record) : u.Formed (.leaf kind name fullName) where
  shaped := ⟨iff_of_false (fun hne => hne rfl) h, nofun, iff_of_false nofun fun h => nomatch h.2⟩
  key := nofun
  element := nofun
  fields := nofun

theorem describeField?_of_mem_modelFields {fields : List (String × TypeExpr)} {f : Field}
    (h : f ∈ u.modelFields c fields) : u.describeField? f = some (u.describe f.type) := by
  obtain ⟨⟨n, t⟩, -, rfl⟩ := List.mem_map.mp h
  rfl

theorem describeField?_of_recordFields? (h : u.recordFields? c = some fs) :
    ∀ f ∈ fs, u.describeField? f = some (u.describe f.type) := by
  intro f hf
  unfold recordFields? at h
  split_ifs at h
  · obtain rfl := Option.some.inj h
    exact describeField?_of_mem_modelFields hf
  · obtain rfl := Option.some.inj h
    obtain ⟨⟨n, t⟩, -, rfl⟩ := List.mem_map.mp hf
    rfl
  · obtain rfl := Option.some.inj h
    obtain ⟨⟨n, t⟩, -, rfl⟩ := List.mem_map.mp hf
    dsimp only
    split_ifs <;> rfl

theorem formed_describeRecord (h : ∀ f ∈ fs, u.describeField? f = some (u.describe f.type)) :
    u.Formed (describeRecord name fullName fs) := by
  cases fs with
  | nil => exact formed_leaf nofun
  | cons f fs =>
    exact ⟨⟨iff_of_true nofun rfl, nofun, iff_of_false nofun fun h => nomatch h.2⟩, nofun, nofun, h⟩

theorem formed_of_unknown (h : some (Descriptor.unknown name) = some d) : u.Formed d := by
  obtain rfl := Option.some.inj h
  exact formed_leaf nofun

/-! ## Classes -/

/-- A class whose values have no parts has one of four kinds. -/
theorem scalarKind?_eq_some {kind : Kind} (h : u.scalarKind? c = some kind) :
    kind = .boolean ∨ kind = .scalar ∨ kind = .string ∨ kind = .numeric := by
  unfold scalarKind? at h
  split_ifs at h
  all_goals
    obtain rfl := Option.some.inj h
    simp

theorem formed_reflectAs? {fields : Option (List Field)}
    (hfields : ∀ fs, fields = some fs →
      ∀ f ∈ fs, u.describeField? f = some (u.describe f.type))
    (h : u.reflectAs? c name fullName fields = some d) : u.Formed d := by
  unfold reflectAs? at h
  split at h
  next kind hkind =>
    obtain rfl := Option.some.inj h
    refine formed_leaf ?_
    obtain rfl | rfl | rfl | rfl := scalarKind?_eq_some hkind <;> exact nofun
  next =>
    split_ifs at h
    · obtain rfl := Option.some.inj h
      exact formed_leaf nofun
    · obtain rfl := Option.some.inj h
      exact formed_leaf nofun
    · obtain ⟨fs, hfs, rfl⟩ := Option.map_eq_some_iff.mp h
      exact formed_describeRecord (hfields fs hfs)

theorem formed_reflectClass? (h : u.reflectClass? c = some d) : u.Formed d :=
  formed_reflectAs? (fun _ hfs => describeField?_of_recordFields? hfs) h

theorem formed_reflectModel? {args : List TypeExpr} (h : u.reflectModel? c args = some d) :
    u.Formed d := by
  refine formed_reflectAs? (fun fs hfs f hf => ?_) h
  obtain rfl := Option.some.inj hfs
  exact describeField?_of_mem_modelFields hf

theorem formed_sequence {element : Option Descriptor}
    (h : ∀ e, element = some e → ∃ t, e = u.describe t) :
    u.Formed (.mk .sequence name fullName none element []) where
  shaped := ⟨iff_of_false (· rfl) nofun, fun _ => .inl rfl, iff_of_false nofun nofun⟩
  key := nofun
  element := h
  fields := nofun

theorem formed_mapping {k : Descriptor} (hk : ∃ t, k = u.describe t) (he : ∃ t, e = u.describe t) :
    u.Formed (.mk .mapping name fullName (some k) (some e) []) where
  shaped := ⟨iff_of_false (· rfl) nofun, fun _ => .inr rfl, iff_of_true rfl ⟨rfl, rfl⟩⟩
  key := fun _ h => Option.some.inj h ▸ hk
  element := fun _ h => Option.some.inj h ▸ he
  fields := nofun

theorem formed_reflectGeneric? {silent : Bool} {args : List Descriptor}
    (hargs : ∀ a ∈ args, ∃ t, a = u.describe t)
    (h : u.reflectGeneric? c name silent args = some d) : u.Formed d := by
  unfold reflectGeneric? at h
  split_ifs at h
  · split at h
    next k e =>
      obtain rfl := Option.some.inj h
      exact formed_mapping (hargs k (by simp)) (hargs e (by simp))
    next =>
      obtain rfl := Option.some.inj h
      exact formed_leaf nofun
  · obtain rfl := Option.some.inj h
    exact formed_sequence nofun
  · obtain rfl := Option.some.inj h
    exact formed_sequence fun e he => hargs e (List.mem_of_head? he)
  · obtain ⟨fs, hfs, rfl⟩ := Option.map_eq_some_iff.mp h
    exact formed_describeRecord (describeField?_of_recordFields? hfs)

/-! ## Types -/

theorem describeAll_eq (ts : List TypeExpr) : u.describeAll ts = ts.map u.describe := by
  induction ts with
  | nil => rfl
  | cons t ts ih => rw [describeAll, ih]; rfl

theorem exists_describe_of_mem_describeAll {a : Descriptor} {ts : List TypeExpr}
    (h : a ∈ u.describeAll ts) : ∃ t, a = u.describe t := by
  rw [describeAll_eq] at h
  obtain ⟨t, -, rfl⟩ := List.mem_map.mp h
  exact ⟨t, rfl⟩

mutual

theorem formed_reflect? (t : TypeExpr) (h : u.reflect? t = some d) : u.Formed d := by
  cases t with
  | annotated t ms =>
    rw [reflect?] at h
    exact formed_reflect? t h
  | union piped ts =>
    rw [reflect?] at h
    exact formed_reflectFirst? ts h
  | literal vs =>
    cases vs with
    | nil => exact formed_of_unknown h
    | cons v vs =>
      rw [reflect?] at h
      exact formed_reflectClass? h
  | cls c =>
    rw [reflect?] at h
    exact formed_reflectClass? h
  | generic c ts =>
    rw [reflect?] at h
    split_ifs at h
    · exact formed_reflectModel? h
    · exact formed_reflectGeneric? (fun _ => exists_describe_of_mem_describeAll) h
  | aliased a ts =>
    rw [reflect?] at h
    exact formed_reflectGeneric? (fun _ => exists_describe_of_mem_describeAll) h
  | «alias» a =>
    rw [reflect?] at h
    exact formed_reflectGeneric? (by simp) h
  | _ => exact formed_of_unknown h

theorem formed_reflectFirst? (ts : List TypeExpr) (h : u.reflectFirst? ts = some d) :
    u.Formed d := by
  cases ts with
  | nil =>
    rw [reflectFirst?] at h
    exact formed_reflectClass? h
  | cons t ts =>
    rw [reflectFirst?] at h
    split_ifs at h
    · exact formed_reflectFirst? ts h
    · exact formed_reflect? t h

end

theorem formed_describe (t : TypeExpr) : u.Formed (u.describe t) := by
  unfold describe
  cases h : u.reflect? t with
  | none => exact formed_leaf nofun
  | some d => exact formed_reflect? t h

/-- What a described type holds is the description of a type. -/
theorem exists_describe_of_component {t : TypeExpr} (h : Component u (u.describe t) e) :
    ∃ t', e = u.describe t' := by
  obtain ⟨-, hkey, helement, hfields⟩ := formed_describe (u := u) t
  cases h with
  | key h => exact hkey e h
  | element h => exact helement e h
  | @field f _ hf he => exact ⟨f.type, Option.some.inj (he.symm.trans (hfields f hf))⟩

end Universe

/--
**The parts of a description fit its kind at any depth**: in the description of a type, in its keys,
elements and described fields, in theirs, and so on, fields are there just for records, elements for
collections only, and keys just for mappings with elements; and every field can be described.
-/
theorem describe_shaped (u : Universe) (t : TypeExpr) (d : Descriptor)
    (h : Relation.ReflTransGen (Component u) (u.describe t) d) :
    d.Shaped ∧ ∀ f ∈ d.fields, u.describeField? f = some (u.describe f.type) := by
  obtain ⟨t', rfl⟩ : ∃ t', d = u.describe t' := by
    induction h with
    | refl => exact ⟨t, rfl⟩
    | tail _ hcomponent ih =>
      obtain ⟨t', rfl⟩ := ih
      exact Universe.exists_describe_of_component hcomponent
  exact ⟨(Universe.formed_describe t').shaped, (Universe.formed_describe t').fields⟩

/-- A class with annotations of its own and no ancestors. -/
def rootClass (name : String) (form : ClassForm) (own : List (String × TypeExpr)) : ClassInfo where
  key := name
  name
  module := "app"
  qualname := name
  form
  params := []
  lineage := [.declared name, .standard .object]
  own
  settled := []

/-- Orders and their lines, which know their order, with a note that cannot be read. -/
def orders : Universe where
  classes := [
    rootClass "Order" .plain
      [("lines", .generic (.standard .dict) [.cls (.standard .str), .cls (.declared "Line")])],
    rootClass "Line" .plain
      [("order", .cls (.declared "Order")), ("note", .cls (.declared "Note"))],
    rootClass "Note" .broken []]

theorem describe_shaped_orders :
    let list := TypeExpr.generic (.standard .list) [.cls (.declared "Order")]
    let line := orders.describe (.cls (.declared "Line"))
    Relation.ReflTransGen (Component orders) (orders.describe list) line ∧ line.Shaped ∧
      ∀ f ∈ line.fields, orders.describeField? f = some (orders.describe f.type) := by
  intro list line
  have hline : Relation.ReflTransGen (Component orders) (orders.describe list) line :=
    .head (.element rfl) (.head (.field (.head _) rfl) (.single (.element rfl)))
  exact ⟨hline, describe_shaped orders list line hline⟩

end EndpointDocs
