import EndpointDocs.Text.Blank
import EndpointDocs.Text.Scan
import Mathlib.Data.List.DropRight
import Mathlib.Tactic.Common

/-!
# Blanks and scans, without the walk

* `Blank`: a text of blanks only; `Solid`: a text without any.
* `trim_blank_append`, `trim_append_blank`, `trim_eq_self_iff`: what is lost at the ends of a text.
* `append_eq_append_of_scan`: a text is cut in one way only where a class of characters ends.
* `after?_eq_some_iff`, `afterBlanks_iff`, `somewhere_iff`: what a scan finds, as a cut of the text.
* `afterBlanks?_append`, `firstAt?_append`: blanks that a reader passes, and a text it finds nothing
  in.
* `afterSomeBlanks?_eq_some`, `firstAt?_eq_some`: an answer is that behind the most blanks, or that
  at the first place.
-/

namespace EndpointDocs.Text

/-- All characters of a text are blanks. -/
def Blank (cs : List Char) : Prop := ∀ c ∈ cs, isBlank c = true

instance (cs : List Char) : Decidable (Blank cs) := List.decidableBAll _ cs

/-- A text of some characters, none of them a blank. -/
structure Solid (cs : List Char) : Prop where
  ne_nil : cs ≠ []
  unblank : ∀ c ∈ cs, isBlank c = false

variable {c : Char} {cs ds ms : List Char}

theorem solid_iff (cs : List Char) : Solid cs ↔ cs ≠ [] ∧ cs.all (!isBlank ·) = true := by
  simp only [List.all_eq_true, Bool.not_eq_true']
  exact ⟨fun h => ⟨h.ne_nil, h.unblank⟩, fun h => ⟨h.1, h.2⟩⟩

instance (cs : List Char) : Decidable (Solid cs) := decidable_of_iff _ (solid_iff cs).symm

theorem Solid.head_append (h : Solid cs) (ds : List Char) :
    ∀ c ∈ (cs ++ ds).head?, isBlank c = false := by
  intro c hc
  rw [List.head?_append_of_ne_nil _ h.ne_nil] at hc
  exact h.unblank c (List.mem_of_mem_head? hc)

/-! ## Trimming -/

theorem trim_blank_append (h : Blank ms) (cs : List Char) : trim (ms ++ cs) = trim cs := by
  rw [trim, trimStart, List.dropWhile_append_of_pos h]
  rfl

theorem trimEnd_append_blank (h : Blank ms) (cs : List Char) : trimEnd (cs ++ ms) = trimEnd cs := by
  have hms : ∀ c ∈ ms.reverse, isBlank c = true := fun c hc => h c (List.mem_reverse.mp hc)
  rw [trimEnd, List.reverse_append, List.dropWhile_append_of_pos hms]
  rfl

theorem trim_append_blank (h : Blank ms) (cs : List Char) : trim (cs ++ ms) = trim cs := by
  rw [trim, trim, trimStart, trimStart, List.dropWhile_append]
  split_ifs with hcs
  · have hms : ms.dropWhile isBlank = [] := List.dropWhile_eq_nil_iff.mpr h
    rw [hms, List.isEmpty_iff.mp hcs]
  · exact trimEnd_append_blank h _

theorem trimEnd_isPrefix (cs : List Char) : trimEnd cs <+: cs := List.rdropWhile_prefix isBlank cs

theorem trim_sublist (cs : List Char) : (trim cs).Sublist cs :=
  (trimEnd_isPrefix _).sublist.trans (List.dropWhile_suffix isBlank).sublist

/-- What is lost at the end of a text does not matter to what is left in the middle. -/
theorem trim_trimEnd (cs : List Char) : trim (trimEnd cs) = trim cs := by
  have hblank : Blank (cs.rtakeWhile isBlank) := fun c hc => List.mem_rtakeWhile_imp hc
  have hcut : trimEnd cs ++ cs.rtakeWhile isBlank = cs := List.rdropWhile_append_rtakeWhile ..
  conv_rhs => rw [← hcut, trim_append_blank hblank]

theorem trimEnd_cons (h : isBlank c = false) (cs : List Char) :
    trimEnd (c :: cs) = c :: trimEnd cs := by
  rw [trimEnd, trimEnd, List.reverse_cons, List.dropWhile_append]
  split_ifs with hcs
  · rw [List.isEmpty_iff.mp hcs, List.dropWhile_cons_of_neg (by simp [h])]
    rfl
  · rw [List.reverse_append]
    rfl

theorem trim_cons (h : isBlank c = false) (cs : List Char) : trim (c :: cs) = c :: trimEnd cs := by
  rw [trim, trimStart, List.dropWhile_cons_of_neg (by simp [h]), trimEnd_cons h]

theorem trim_trim (cs : List Char) : trim (trim cs) = trim cs := by
  have hstart : trimStart (trimStart cs) = trimStart cs := List.dropWhile_idempotent _ _
  calc trim (trim cs) = trim (trimStart cs) := trim_trimEnd (trimStart cs)
    _ = trim cs := by rw [trim, hstart, trim]

/-- **A text loses nothing** if it has no blank at its ends. -/
theorem trim_eq_self_iff (hne : cs ≠ []) :
    trim cs = cs ↔ isBlank (cs.head hne) = false ∧ isBlank (cs.getLast hne) = false := by
  have hend : trim cs = (trimStart cs).rdropWhile isBlank := rfl
  constructor
  · intro h
    -- neither half may shorten the text
    have hstart : trimStart cs = cs := by
      refine (List.dropWhile_suffix isBlank).eq_of_length_le ?_
      have hlen := (List.rdropWhile_prefix isBlank (trimStart cs)).length_le
      rwa [← hend, h] at hlen
    rw [hend, hstart, List.rdropWhile_eq_self_iff] at h
    have hhead := List.dropWhile_eq_self_iff.mp hstart (List.length_pos_of_ne_nil hne)
    rw [← List.head_eq_getElem hne] at hhead
    exact ⟨by simpa using hhead, by simpa using h hne⟩
  · rintro ⟨hhead, hlast⟩
    have hstart : trimStart cs = cs := by
      refine List.dropWhile_eq_self_iff.mpr fun hpos => ?_
      rw [← List.head_eq_getElem hne, hhead]
      decide
    rw [hend, hstart, List.rdropWhile_eq_self_iff]
    intro _
    simp [hlast]

/-! ## Cuts -/

/-- **A text is cut in one way** where the characters of a class end. -/
theorem append_eq_append_of_scan {p : Char → Bool} {as bs cs ds : List Char}
    (ha : ∀ c ∈ as, p c = true) (hb : ∀ c ∈ bs.head?, p c = false) (hc : ∀ c ∈ cs, p c = true)
    (hd : ∀ c ∈ ds.head?, p c = false) (h : as ++ bs = cs ++ ds) : as = cs ∧ bs = ds := by
  have hscan : ∀ {xs ys : List Char}, (∀ c ∈ xs, p c = true) → (∀ c ∈ ys.head?, p c = false) →
      (xs ++ ys).takeWhile p = xs := by
    intro xs ys hx hy
    rw [List.takeWhile_append_of_pos hx]
    cases ys with
    | nil => simp
    | cons y ys => rw [List.takeWhile_cons_of_neg (by simp [hy y rfl]), List.append_nil]
  have heq : as = cs := by rw [← hscan ha hb, h, hscan hc hd]
  subst heq
  exact ⟨rfl, List.append_cancel_left h⟩

theorem after?_eq_some_iff {start text rest : List Char} :
    after? start text = some rest ↔ text = start ++ rest := by
  induction start generalizing text with
  | nil => simp [after?]
  | cons a start ih =>
    cases text with
    | nil => simp [after?]
    | cons b text =>
      rw [after?]
      split_ifs with h
      · subst h
        simp [ih]
      · simp [Ne.symm h]

theorem after?_any_iff {start text : List Char} {test : List Char → Bool} :
    (after? start text).any test = true ↔ ∃ rest, text = start ++ rest ∧ test rest = true := by
  simp only [Option.any_eq_true, after?_eq_some_iff]

theorem afterBlanks_iff {test : List Char → Bool} :
    afterBlanks test cs = true ↔ ∃ ms ds, cs = ms ++ ds ∧ Blank ms ∧ test ds = true := by
  induction cs with
  | nil =>
    rw [afterBlanks]
    constructor
    · intro h
      exact ⟨[], [], rfl, by simp [Blank], h⟩
    · rintro ⟨ms, ds, h, -, ht⟩
      obtain ⟨rfl, rfl⟩ := List.append_eq_nil_iff.mp h.symm
      exact ht
  | cons c cs ih =>
    rw [afterBlanks, Bool.or_eq_true, Bool.and_eq_true, ih]
    constructor
    · rintro (h | ⟨hc, ms, ds, rfl, hm, ht⟩)
      · exact ⟨[], c :: cs, rfl, by simp [Blank], h⟩
      · exact ⟨c :: ms, ds, rfl, List.forall_mem_cons.mpr ⟨hc, hm⟩, ht⟩
    · rintro ⟨ms, ds, h, hm, ht⟩
      cases ms with
      | nil => exact .inl (by rwa [h])
      | cons m ms =>
        obtain ⟨rfl, rfl⟩ := List.cons.inj h
        obtain ⟨hc, hm⟩ := List.forall_mem_cons.mp hm
        exact .inr ⟨hc, ms, ds, rfl, hm, ht⟩

theorem afterSomeBlanks_iff {test : List Char → Bool} :
    afterSomeBlanks test cs = true ↔
      ∃ ms ds, cs = ms ++ ds ∧ ms ≠ [] ∧ Blank ms ∧ test ds = true := by
  cases cs with
  | nil => simp [afterSomeBlanks]
  | cons c cs =>
    rw [afterSomeBlanks, Bool.and_eq_true, afterBlanks_iff]
    constructor
    · rintro ⟨hc, ms, ds, rfl, hm, ht⟩
      exact ⟨c :: ms, ds, rfl, by simp, List.forall_mem_cons.mpr ⟨hc, hm⟩, ht⟩
    · rintro ⟨ms, ds, h, hne, hm, ht⟩
      cases ms with
      | nil => exact absurd rfl hne
      | cons m ms =>
        obtain ⟨rfl, rfl⟩ := List.cons.inj h
        obtain ⟨hc, hm⟩ := List.forall_mem_cons.mp hm
        exact ⟨hc, ms, ds, rfl, hm, ht⟩

theorem somewhere_iff {test : Option Char → List Char → Bool} {before : Option Char} :
    somewhere test before cs = true ↔
      ∃ ms ds, cs = ms ++ ds ∧ test (ms.getLast?.or before) ds = true := by
  induction cs generalizing before with
  | nil =>
    rw [somewhere]
    constructor
    · intro h
      exact ⟨[], [], rfl, h⟩
    · rintro ⟨ms, ds, h, ht⟩
      obtain ⟨rfl, rfl⟩ := List.append_eq_nil_iff.mp h.symm
      exact ht
  | cons c cs ih =>
    rw [somewhere, Bool.or_eq_true, ih]
    constructor
    · rintro (h | ⟨ms, ds, rfl, ht⟩)
      · exact ⟨[], c :: cs, rfl, h⟩
      · exact ⟨c :: ms, ds, rfl, by simpa [List.getLast?_cons] using ht⟩
    · rintro ⟨ms, ds, h, ht⟩
      cases ms with
      | nil => exact .inl (by rwa [h])
      | cons m ms =>
        obtain ⟨rfl, rfl⟩ := List.cons.inj h
        exact .inr ⟨ms, ds, rfl, by simpa [List.getLast?_cons] using ht⟩

/-! ## Readers -/

variable {α : Type} {read : List Char → Option α}

/-- **A reader behind blanks** reads where they end, unless it could read at an earlier blank. -/
theorem afterBlanks?_append (hms : Blank ms) (hcs : ∀ c ∈ cs.head?, isBlank c = false)
    (hread : (read cs).isSome = true ∨ ∀ c ds, isBlank c = true → read (c :: ds) = none) :
    afterBlanks? read (ms ++ cs) = read cs := by
  induction ms with
  | nil =>
    cases cs with
    | nil => rfl
    | cons c cs =>
      have hc : isBlank c = false := hcs c rfl
      rw [List.nil_append, afterBlanks?, hc, if_neg Bool.false_ne_true]
  | cons m ms ih =>
    obtain ⟨hm, hms⟩ := List.forall_mem_cons.mp hms
    rw [List.cons_append, afterBlanks?, if_pos hm, ih hms]
    rcases hread with hsome | hnone
    · obtain ⟨a, ha⟩ := Option.isSome_iff_exists.mp hsome
      rw [ha, Option.some_or]
    · rw [hnone m _ hm, Option.or_none]

theorem afterSomeBlanks?_append (hne : ms ≠ []) (hms : Blank ms)
    (hcs : ∀ c ∈ cs.head?, isBlank c = false)
    (hread : (read cs).isSome = true ∨ ∀ c ds, isBlank c = true → read (c :: ds) = none) :
    afterSomeBlanks? read (ms ++ cs) = read cs := by
  obtain ⟨m, ms, rfl⟩ := List.exists_cons_of_ne_nil hne
  obtain ⟨hm, hms⟩ := List.forall_mem_cons.mp hms
  rw [List.cons_append, afterSomeBlanks?, if_pos hm, afterBlanks?_append hms hcs hread]

theorem afterSomeBlanks?_eq_none (h : ∀ c ∈ cs.head?, isBlank c = false) :
    afterSomeBlanks? read cs = none := by
  cases cs with
  | nil => rfl
  | cons c cs =>
    have hc : isBlank c = false := h c rfl
    rw [afterSomeBlanks?, hc, if_neg Bool.false_ne_true]

/-- **A search passes a text** that it finds nothing in. -/
theorem firstAt?_append (h : ∀ vs, vs ≠ [] → vs <:+ cs → read (vs ++ ds) = none) :
    firstAt? read (cs ++ ds) = firstAt? read ds := by
  induction cs with
  | nil => rfl
  | cons c cs ih =>
    have hc : read (c :: (cs ++ ds)) = none := h (c :: cs) (by simp) List.suffix_rfl
    rw [List.cons_append, firstAt?, hc, Option.none_or]
    exact ih fun vs hne hvs => h vs hne (hvs.trans (List.suffix_cons c cs))

theorem afterBlanks?_ne_none (hms : Blank ms) (h : read ds ≠ none) :
    afterBlanks? read (ms ++ ds) ≠ none := by
  induction ms with
  | nil =>
    cases ds with
    | nil => exact h
    | cons d ds =>
      rw [List.nil_append, afterBlanks?]
      split_ifs
      · simp [h]
      · exact h
  | cons m ms ih =>
    obtain ⟨hm, hms⟩ := List.forall_mem_cons.mp hms
    rw [List.cons_append, afterBlanks?, if_pos hm]
    simp [ih hms]

theorem afterSomeBlanks?_ne_none (hne : ms ≠ []) (hms : Blank ms) (h : read ds ≠ none) :
    afterSomeBlanks? read (ms ++ ds) ≠ none := by
  obtain ⟨m, ms, rfl⟩ := List.exists_cons_of_ne_nil hne
  obtain ⟨hm, hms⟩ := List.forall_mem_cons.mp hms
  rw [List.cons_append, afterSomeBlanks?, if_pos hm]
  exact afterBlanks?_ne_none hms h

/-- **A reader behind blanks** answers behind the longest run of them that it can. -/
theorem afterBlanks?_eq_some {a : α} (h : afterBlanks? read cs = some a) :
    ∃ ms ds, cs = ms ++ ds ∧ Blank ms ∧ read ds = some a ∧
      ∀ ms' ds', cs = ms' ++ ds' → Blank ms' → read ds' ≠ none → ms'.length ≤ ms.length := by
  have hnil : Blank [] := by simp [Blank]
  induction cs with
  | nil =>
    refine ⟨[], [], rfl, hnil, h, fun ms' ds' hcut _ _ => ?_⟩
    rw [(List.append_eq_nil_iff.mp hcut.symm).1]
  | cons c cs ih =>
    rw [afterBlanks?] at h
    split_ifs at h with hc
    · obtain hrest | ⟨hrest, hhere⟩ := Option.or_eq_some_iff.mp h
      · obtain ⟨ms, ds, rfl, hms, hread, hlongest⟩ := ih hrest
        refine ⟨c :: ms, ds, rfl, List.forall_mem_cons.mpr ⟨hc, hms⟩, hread, ?_⟩
        intro ms' ds' hcut hms' hread'
        cases ms' with
        | nil => simp
        | cons m ms' =>
          have := hlongest ms' ds' (List.cons.inj hcut).2 (List.forall_mem_cons.mp hms').2 hread'
          simpa using this
      · refine ⟨[], c :: cs, rfl, hnil, hhere, fun ms' ds' hcut hms' hread' => ?_⟩
        -- a longer run would have given the answer before
        cases ms' with
        | nil => exact le_rfl
        | cons m ms' =>
          rw [(List.cons.inj hcut).2] at hrest
          exact absurd hrest (afterBlanks?_ne_none (List.forall_mem_cons.mp hms').2 hread')
    · refine ⟨[], c :: cs, rfl, hnil, h, fun ms' ds' hcut hms' _ => ?_⟩
      cases ms' with
      | nil => exact le_rfl
      | cons m ms' =>
        rw [(List.cons.inj hcut).1] at hc
        exact absurd (List.forall_mem_cons.mp hms').1 hc

theorem afterSomeBlanks?_eq_some {a : α} (h : afterSomeBlanks? read cs = some a) :
    ∃ ms ds, cs = ms ++ ds ∧ (ms ≠ [] ∧ Blank ms) ∧ read ds = some a ∧
      ∀ ms' ds', cs = ms' ++ ds' → ms' ≠ [] → Blank ms' → read ds' ≠ none →
        ms'.length ≤ ms.length := by
  cases cs with
  | nil => cases h
  | cons c cs =>
    rw [afterSomeBlanks?, Option.ite_none_right_eq_some] at h
    obtain ⟨ms, ds, rfl, hms, hread, hlongest⟩ := afterBlanks?_eq_some h.2
    refine ⟨c :: ms, ds, rfl, ⟨by simp, List.forall_mem_cons.mpr ⟨h.1, hms⟩⟩, hread, ?_⟩
    intro ms' ds' hcut hne hms' hread'
    obtain ⟨m, ms', rfl⟩ := List.exists_cons_of_ne_nil hne
    have := hlongest ms' ds' (List.cons.inj hcut).2 (List.forall_mem_cons.mp hms').2 hread'
    simpa using this

theorem firstAt?_ne_none (h : read ds ≠ none) : firstAt? read (cs ++ ds) ≠ none := by
  induction cs with
  | nil =>
    cases ds with
    | nil => exact h
    | cons d ds => simp [firstAt?, h]
  | cons c cs ih => simp [firstAt?, ih]

/-- **A search** gives the answer at the first place that has one. -/
theorem firstAt?_eq_some {a : α} (h : firstAt? read cs = some a) :
    ∃ ms ds, cs = ms ++ ds ∧ read ds = some a ∧
      ∀ ms' ds', cs = ms' ++ ds' → read ds' ≠ none → ms.length ≤ ms'.length := by
  induction cs with
  | nil => exact ⟨[], [], rfl, h, fun ms' ds' _ _ => Nat.zero_le _⟩
  | cons c cs ih =>
    obtain hhere | ⟨hhere, hrest⟩ := Option.or_eq_some_iff.mp h
    · exact ⟨[], c :: cs, rfl, hhere, fun ms' ds' _ _ => Nat.zero_le _⟩
    · obtain ⟨ms, ds, rfl, hread, hfirst⟩ := ih hrest
      refine ⟨c :: ms, ds, rfl, hread, fun ms' ds' hcut hread' => ?_⟩
      cases ms' with
      | nil =>
        rw [← show c :: (ms ++ ds) = ds' from hcut] at hread'
        exact absurd hhere hread'
      | cons m ms' =>
        have := hfirst ms' ds' (List.cons.inj hcut).2 hread'
        simpa using this

/-- A start of a text lies in its first part if it holds no character that the second starts with. -/
theorem prefix_of_prefix_append (h : ms <+: cs ++ ds) (hstop : ∀ c ∈ ds.head?, c ∉ ms) :
    ms <+: cs := by
  obtain h' | ⟨vs, rfl⟩ := List.prefix_or_prefix_of_prefix h (List.prefix_append cs ds)
  · exact h'
  · have hvs : vs <+: ds := (List.prefix_append_right_inj cs).mp h
    cases vs with
    | nil => simp
    | cons v vs =>
      obtain ⟨es, rfl⟩ := hvs
      exact absurd (by simp) (hstop v rfl)

end EndpointDocs.Text
