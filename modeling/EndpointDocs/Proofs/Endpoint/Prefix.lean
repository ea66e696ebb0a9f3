import EndpointDocs.Proofs.Endpoint.Preorder

/-!
# Rows below a path

Rows are collected into a list, below a path. Neither has a say in what is collected.

* `foldlM_hom`: a loop commutes with a map of its results that commutes with each step.
* `Carries`: a change of paths that the name of a field carries on.
* `collect_map`: such a change of the path that rows are collected below changes the paths of the
  rows and nothing else; the memory of the descriptions stays the same.
* `underneath`, `Row.under`: a path put in front of the path of a row.
* **`collect_under`**: rows below a path are the rows below none, with the path put in front.
-/

namespace EndpointDocs

variable {u : Universe} {σ : Type}

namespace Rows

/-- A loop commutes with a map of its results if each step does. -/
theorem foldlM_hom {m : Type → Type} [Monad m] [LawfulMonad m] {α β γ : Type} (f : β → γ)
    {step : β → α → m β} {step' : γ → α → m γ} (xs : List α) (b : β)
    (h : ∀ b, ∀ x ∈ xs, step' (f b) x = f <$> step b x) :
    xs.foldlM step' (f b) = f <$> xs.foldlM step b := by
  induction xs generalizing b with
  | nil => simp
  | cons x xs ih =>
    have hx := h b x List.mem_cons_self
    have hxs := fun b => ih b fun b y hy => h b y (List.mem_cons_of_mem x hy)
    rw [List.foldlM_cons, List.foldlM_cons, hx, map_bind, bind_map_left]
    exact congrArg _ (funext hxs)

/--
A change of the path that rows are collected below and one of the paths of rows agree on a field:
its path comes out the same whether the path above it is changed or its own.
-/
structure Carries (above below : String → String) (f : Field) : Prop where
  extend_above : ∀ path, extend (above path) f.name = below (extend path f.name)
  above_extend : ∀ path, above (extend path f.name) = below (extend path f.name)

/-- Rows whose paths are changed, put behind other rows. -/
def carried (out : Array Row) (below : String → String) (rows : Array Row) : Array Row :=
  out ++ rows.map fun r => { r with path := below r.path }

theorem carried_empty (out : Array Row) (below : String → String) :
    carried out below #[] = out := by
  simp [carried]

theorem carried_same (out rows : Array Row) : carried out id rows = out ++ rows := by
  simp [carried]

theorem carried_push (out : Array Row) (below : String → String) (rows : Array Row) (r : Row) :
    carried out below (rows.push r) =
      (carried out below rows).push { r with path := below r.path } := by
  simp [carried]

/-- **A change of paths** changes the paths of rows and nothing else. -/
theorem collect_map (docs : Option (Docs σ)) {above below : String → String} {d : Descriptor}
    (hd : Throughout u (fun r => ∀ f ∈ r.shown, Carries above below f) d) (out : Array Row) (n : Nat)
    (path : String) (rows : Array Row) :
    collect u docs n (above path) d (carried out below rows) =
      carried out below <$> collect u docs n path d rows := by
  unfold collect
  induction n generalizing path d rows with
  | zero => simp [gather]
  | succ n ih =>
    unfold gather
    -- field by field, with any rows collected so far
    refine foldlM_hom _ _ _ fun rows f hf => ?_
    by_cases hstatic : f.static = true
    · simp [hstatic]
    rw [Bool.not_eq_true] at hstatic
    obtain ⟨r, hr, hmem⟩ := hd.exists_mem_shown hf hstatic
    obtain ⟨hextend, hpath⟩ := hr.here f hmem
    simp only [hstatic, Bool.false_eq_true, if_false]
    cases ht : u.describeField? f with
    | none => simp
    | some t =>
      simp only [map_bind]
      refine congrArg _ (funext fun cell => ?_)
      cases cell with
      | error e => simp
      | ok text =>
        have hrest := ih (hd.field hf hstatic ht) (extend path f.name)
          (rows.push ⟨extend path f.name, t.name, text⟩)
        rw [carried_push, hpath] at hrest
        simpa only [hextend] using hrest

/-! ## Paths in front -/

/-- A path below another one; the empty path is that one itself. -/
def underneath (top path : String) : String := if path = "" then top else top ++ "." ++ path

theorem carries_underneath {top : String} {f : Field} (htop : top ≠ "") (hname : f.name ≠ "") :
    Carries (underneath top) (top ++ "." ++ ·) f where
  extend_above path := by
    by_cases hpath : path = ""
    · simp [underneath, extend, hpath, htop]
    · simp [underneath, extend, hpath, String.append_assoc]
  above_extend _ := if_neg (extend_ne_empty hname)

end Rows

/-- A row with a path in front of its own. -/
def Row.under (top : String) (r : Row) : Row := { r with path := top ++ "." ++ r.path }

namespace Rows

/--
**Rows below a path are the rows below none with the path put in front.** Let no field of a record
in a type have an empty name. Rows of the type that are collected behind others, below a path, are
these others and then the rows of the type, each with the path and a dot in front of its own; the
descriptions are looked up in the same way. Below any path, the others stay as they are in front.
-/
theorem collect_under (docs : Option (Docs σ)) {d : Descriptor}
    (hd : Throughout u (fun r => ∀ f ∈ r.shown, f.name ≠ "") d) {top : String} (htop : top ≠ "")
    (depth limit : Int) (out : Array Row) (s : σ) :
    let collected (path : String) :=
      (collect u docs (Example.room depth limit) path d out).run s
    let rows (path : String) := (ofType u docs d path depth limit).run s
    collected top = (out ++ (rows "").1.map (Row.under top), (rows "").2) ∧
      ∀ path, collected path = (out ++ (rows path).1, (rows path).2) := by
  dsimp only
  constructor
  · have hcarries : Throughout u
        (fun r => ∀ f ∈ r.shown, Carries (underneath top) (top ++ "." ++ ·) f) d :=
      fun r hr f hf => carries_underneath htop (hd r hr f hf)
    have h := collect_map docs hcarries out (Example.room depth limit) "" #[]
    rw [carried_empty, underneath, if_pos rfl] at h
    rw [h, StateT.run_map]
    rfl
  · intro path
    have hsame : Throughout u (fun r => ∀ f ∈ r.shown, Carries id id f) d :=
      fun r _ f _ => ⟨fun _ => rfl, fun _ => rfl⟩
    have h := collect_map docs hsame out (Example.room depth limit) path #[]
    rw [carried_empty, id] at h
    rw [h, StateT.run_map]
    show (carried out id _, _) = _
    rw [carried_same]
    rfl

theorem collect_under_node :
    let collected :=
      (collect nodeClasses ((some Comment.Style.hash).map Source.Store.docs)
        (Example.room 1 2) "data" nodeSample #[⟨"total", "int", "All of them."⟩]).run nodeStore
    Throughout nodeClasses (fun r => ∀ f ∈ r.shown, f.name ≠ "") nodeSample ∧ "data" ≠ "" ∧
      collected.1.toList.map (·.path) = ["total", "data.id", "data.next", "data.next.id",
        "data.next.next", "data.next.children", "data.children", "data.children.id",
        "data.children.next", "data.children.children"] := by
  have hnames : ∀ f ∈ nodeSample.shown, f.name ≠ "" := by decide
  have hthroughout : Throughout nodeClasses (fun r => ∀ f ∈ r.shown, f.name ≠ "") nodeSample :=
    nodeSample_closed hnames nofun nofun
  have htop : "data" ≠ "" := by decide
  have hunder := (collect_under ((some Comment.Style.hash).map Source.Store.docs) hthroughout htop 1
    2 #[⟨"total", "int", "All of them."⟩] nodeStore).1
  dsimp only at hunder ⊢
  rw [hunder]
  exact ⟨hthroughout, htop, by decide +kernel⟩

end Rows

end EndpointDocs
