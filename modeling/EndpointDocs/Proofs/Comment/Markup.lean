import EndpointDocs.Proofs.Comment.Written

/-!
# Markup in lines

Markup is dropped from a line after the blanks at its ends, so a blank next to it can come to stand
at an end.

* `Markups`: markup tags, one right behind the other; `dropTags_eq_nil_iff`: nothing is left of
  them.
* `Closed`: a text in which every `<` has a `>` behind it; `dropTags_append`: what follows does not
  change what is dropped from it.
* `exists_head_of_dropTags`, `exists_last_of_dropTags`: where the ends of what is left come from.
* `Bares`: a blank that comes to stand at an end.
* **`trim_dropTags_iff`**: a trimmed text is still trimmed without its markup unless it bares a
  blank.
* `clean_sublist`: a cleaned line has no characters that the line does not have.
-/

namespace EndpointDocs.Comment

open Text

variable {c : Char} {cs inner rest ms : List Char}

/-! ## One step -/

theorem afterTag?_append (hin : '>' ∉ inner) (found : Bool) (hne : found = false → inner ≠ [])
    (rest : List Char) : afterTag? found (inner ++ '>' :: rest) = some rest := by
  induction inner generalizing found with
  | nil =>
    cases found with
    | false => exact absurd rfl (hne rfl)
    | true => rfl
  | cons c inner ih =>
    rw [List.mem_cons, not_or] at hin
    rw [List.cons_append, afterTag?]
    · exact ih hin.2 true (by simp)
    · rintro - rfl
      exact hin.1 rfl
    · rintro - rfl
      exact hin.1 rfl

/-- A `<` that starts no markup has no `>` behind it, or the `>` stands right behind it. -/
theorem head?_of_afterTag?_eq_none (h : afterTag? false cs = none) (hmem : '>' ∈ cs) :
    cs.head? = some '>' := by
  obtain ⟨inner, rest, rfl, hin⟩ := List.eq_append_cons_of_mem hmem
  by_cases hne : inner = []
  · rw [hne]
    rfl
  · rw [afterTag?_append hin false fun _ => hne] at h
    cases h

theorem dropTags_tag (hne : inner ≠ []) (hin : '>' ∉ inner) (rest : List Char) :
    dropTags ('<' :: (inner ++ '>' :: rest)) = dropTags rest := by
  rw [dropTags, if_pos rfl]
  split
  · next rest' h =>
    rw [afterTag?_append hin false fun _ => hne] at h
    rw [Option.some_inj.mp h]
  · next h =>
    rw [afterTag?_append hin false fun _ => hne] at h
    cases h

theorem dropTags_open (h : afterTag? false cs = none) :
    dropTags ('<' :: cs) = '<' :: dropTags cs := by
  rw [dropTags, if_pos rfl]
  split
  · next rest h' =>
    rw [h] at h'
    cases h'
  · rfl

theorem dropTags_plain (h : c ≠ '<') (cs : List Char) : dropTags (c :: cs) = c :: dropTags cs := by
  rw [dropTags, if_neg h]

/-! ## Markup only -/

/-- Markup tags, one right behind the other. -/
inductive Markups : List Char → Prop
  | nil : Markups []
  | cons {inner rest : List Char} : inner ≠ [] → '>' ∉ inner → Markups rest →
      Markups ('<' :: (inner ++ '>' :: rest))

theorem Markups.dropTags_append (h : Markups ms) (cs : List Char) :
    dropTags (ms ++ cs) = dropTags cs := by
  induction h with
  | nil => rfl
  | @cons inner rest hne hin _ ih =>
    rw [List.cons_append, List.append_assoc, List.cons_append, dropTags_tag hne hin, ih]

theorem Markups.close_mem (h : Markups ms) (hne : ms ≠ []) : '>' ∈ ms := by
  cases h with
  | nil => exact absurd rfl hne
  | cons => simp

/-- **Nothing is left** of markup, and of markup only. -/
theorem dropTags_eq_nil_iff : dropTags cs = [] ↔ Markups cs := by
  constructor
  · intro h
    fun_induction dropTags cs with
    | case1 => exact .nil
    | case2 cs rest hrest ih =>
      obtain ⟨inner, hne, hin, rfl⟩ := afterTag?_eq_some hrest
      exact .cons (hne rfl) hin (ih h)
    | case3 => cases h
    | case4 => cases h
  · intro h
    simpa [dropTags] using h.dropTags_append []

/-! ## Both ends -/

/-- Every `<` of a text has a `>` behind it. -/
def Closed (cs : List Char) : Prop := ∀ as bs, cs = as ++ '<' :: bs → '>' ∈ bs

theorem Closed.nil : Closed [] := by
  intro as bs h
  simp at h

theorem Closed.of_append (as : List Char) {bs : List Char} (h : Closed (as ++ bs)) :
    Closed bs := by
  intro xs ys hcut
  exact h (as ++ xs) ys (by rw [hcut, List.append_assoc])

theorem Closed.cons_iff : Closed (c :: cs) ↔ (c = '<' → '>' ∈ cs) ∧ Closed cs := by
  constructor
  · intro h
    exact ⟨fun hc => h [] cs (by rw [hc]; rfl), h.of_append [c]⟩
  · rintro ⟨hc, hcs⟩ as bs hcut
    cases as with
    | nil =>
      obtain ⟨rfl, rfl⟩ := List.cons.inj hcut
      exact hc rfl
    | cons a as => exact hcs as bs (List.cons.inj hcut).2

theorem Closed.append_close (h : Closed cs) (as : List Char) : Closed (as ++ '>' :: cs) := by
  induction as with
  | nil => exact cons_iff.mpr ⟨by simp, h⟩
  | cons a as ih => exact cons_iff.mpr ⟨fun _ => by simp, ih⟩

/-- **What follows a closed text** does not change what is dropped from it. -/
theorem dropTags_append (h : Closed cs) (ds : List Char) :
    dropTags (cs ++ ds) = dropTags cs ++ dropTags ds := by
  fun_induction dropTags cs with
  | case1 => rfl
  | case2 cs rest hrest ih =>
    obtain ⟨inner, hne, hin, rfl⟩ := afterTag?_eq_some hrest
    have hclosed : Closed rest := by
      refine Closed.of_append ('<' :: (inner ++ ['>'])) ?_
      simpa using h
    rw [List.cons_append, List.append_assoc, List.cons_append, dropTags_tag (hne rfl) hin,
      ih hclosed]
  | case3 cs hnone ih =>
    obtain ⟨hopen, hclosed⟩ := Closed.cons_iff.mp h
    -- the `>` behind the `<` stands right behind it, whatever follows
    have hhead := head?_of_afterTag?_eq_none hnone (hopen rfl)
    obtain ⟨cs, rfl⟩ : ∃ cs', cs = '>' :: cs' := by
      cases cs with
      | nil => cases hhead
      | cons c cs => exact ⟨cs, by rw [Option.some_inj.mp hhead]⟩
    rw [List.cons_append, dropTags_open rfl, ih hclosed, List.cons_append]
  | case4 c cs hc ih =>
    rw [List.cons_append, dropTags_plain hc, ih (Closed.cons_iff.mp h).2, List.cons_append]

/-- **The first character left** stands behind markup only. -/
theorem exists_head_of_dropTags {ds : List Char} (h : dropTags cs = c :: ds) :
    ∃ ms rest, Markups ms ∧ cs = ms ++ c :: rest ∧ (c ≠ '<' → ds = dropTags rest) := by
  fun_induction dropTags cs with
  | case1 => cases h
  | case2 cs rest hrest ih =>
    obtain ⟨inner, hne, hin, rfl⟩ := afterTag?_eq_some hrest
    obtain ⟨ms, rest, hms, rfl, hds⟩ := ih h
    exact ⟨_, rest, .cons (hne rfl) hin hms, by simp, hds⟩
  | case3 cs _ =>
    obtain ⟨rfl, rfl⟩ := List.cons.inj h
    exact ⟨[], cs, .nil, rfl, fun _ => rfl⟩
  | case4 d cs _ =>
    obtain ⟨rfl, rfl⟩ := List.cons.inj h
    exact ⟨[], cs, .nil, rfl, fun _ => rfl⟩

/-- **The last character left** stands before markup only, and no markup reaches over it. -/
theorem exists_last_of_dropTags {ds : List Char} (hc : c ≠ '>') (h : dropTags cs = ds ++ [c]) :
    ∃ first ms, Markups ms ∧ cs = first ++ c :: ms ∧ (ms = [] ∨ Closed first) := by
  fun_induction dropTags cs generalizing ds with
  | case1 => simp at h
  | case2 cs rest hrest ih =>
    obtain ⟨inner, hne, hin, rfl⟩ := afterTag?_eq_some hrest
    obtain ⟨first, ms, hms, rfl, hclosed⟩ := ih h
    refine ⟨('<' :: inner) ++ '>' :: first, ms, hms, by simp, hclosed.imp_right fun hfirst => ?_⟩
    exact hfirst.append_close _
  | case3 cs hnone ih =>
    cases ds with
    | nil =>
      obtain ⟨rfl, hrest⟩ := List.cons.inj h
      exact ⟨[], cs, dropTags_eq_nil_iff.mp hrest, rfl, .inr .nil⟩
    | cons d ds =>
      obtain ⟨first, ms, hms, rfl, hclosed⟩ := ih (List.cons.inj h).2
      refine ⟨'<' :: first, ms, hms, rfl, ?_⟩
      by_cases hnil : ms = []
      · exact .inl hnil
      -- the markup has a `>`, so one stands right behind the `<`
      have hmem : '>' ∈ first ++ c :: ms :=
        List.mem_append_right _ (List.mem_cons_of_mem _ (hms.close_mem hnil))
      have hhead := head?_of_afterTag?_eq_none hnone hmem
      refine .inr (Closed.cons_iff.mpr ⟨fun _ => ?_, hclosed.resolve_left hnil⟩)
      cases first with
      | nil => exact absurd (Option.some_inj.mp hhead) hc
      | cons e first => exact List.mem_cons.mpr (.inl (Option.some_inj.mp hhead).symm)
  | case4 d cs hd ih =>
    cases ds with
    | nil =>
      obtain ⟨rfl, hrest⟩ := List.cons.inj h
      exact ⟨[], cs, dropTags_eq_nil_iff.mp hrest, rfl, .inr .nil⟩
    | cons e ds =>
      obtain ⟨first, ms, hms, rfl, hclosed⟩ := ih (List.cons.inj h).2
      refine ⟨d :: first, ms, hms, rfl, hclosed.imp_right fun hfirst => ?_⟩
      exact Closed.cons_iff.mpr ⟨fun hopen => absurd hopen hd, hfirst⟩

/-! ## Blanks next to markup -/

/-- A blank of a text that comes to stand at an end of it once the markup is gone. -/
inductive Bares : List Char → Prop
  | front {c : Char} {ms rest : List Char} : Markups ms → ms ≠ [] → isBlank c = true →
      Bares (ms ++ c :: rest)
  | back {c : Char} {first ms : List Char} : Closed first → Markups ms → ms ≠ [] →
      isBlank c = true → Bares (first ++ c :: ms)

theorem ne_of_isBlank {c d : Char} (hc : isBlank c = true) (hd : isBlank d = false) : c ≠ d := by
  rintro rfl
  rw [hc] at hd
  cases hd

theorem Markups.dropTags_cons_blank (h : Markups ms) (hc : isBlank c = true) (rest : List Char) :
    dropTags (ms ++ c :: rest) = c :: dropTags rest := by
  rw [h.dropTags_append, dropTags_plain (ne_of_isBlank hc (by decide))]

theorem ne_nil_of_trim_blank (htrim : trim (ms ++ c :: rest) = ms ++ c :: rest)
    (hc : isBlank c = true) : ms ≠ [] := by
  rintro rfl
  have hhead := ((trim_eq_self_iff (by simp)).mp htrim).1
  simp [hc] at hhead

theorem Bares.of_head {ds : List Char} (htrim : trim cs = cs) (h : dropTags cs = c :: ds)
    (hc : isBlank c = true) : Bares cs := by
  obtain ⟨ms, rest, hms, rfl, -⟩ := exists_head_of_dropTags h
  exact .front hms (ne_nil_of_trim_blank htrim hc) hc

theorem Bares.of_last {ds : List Char} (htrim : trim cs = cs) (h : dropTags cs = ds ++ [c])
    (hc : isBlank c = true) : Bares cs := by
  obtain ⟨first, ms, hms, rfl, hclosed⟩ :=
    exists_last_of_dropTags (ne_of_isBlank hc (by decide)) h
  have hne : ms ≠ [] := by
    rintro rfl
    have hlast := ((trim_eq_self_iff (by simp)).mp htrim).2
    simp [hc] at hlast
  exact .back (hclosed.resolve_left hne) hms hne hc

/-- **Without its markup a trimmed text is still trimmed** unless it bares a blank. -/
theorem trim_dropTags_iff (htrim : trim cs = cs) (hne : dropTags cs ≠ []) :
    trim (dropTags cs) = dropTags cs ↔ ¬ Bares cs := by
  rw [trim_eq_self_iff hne]
  constructor
  · rintro ⟨hhead, hlast⟩ hbares
    cases hbares with
    | @front c ms rest hms _ hc =>
      simp [hms.dropTags_cons_blank hc, hc] at hhead
    | @back c first ms hfirst hms _ hc =>
      have hcut : dropTags (first ++ c :: ms) = dropTags first ++ [c] := by
        rw [dropTags_append hfirst, dropTags_plain (ne_of_isBlank hc (by decide)),
          dropTags_eq_nil_iff.mpr hms]
      simp [hcut, hc] at hlast
  · intro hbares
    constructor
    · by_contra hhead
      exact hbares (.of_head htrim (List.cons_head_tail hne).symm (by simpa using hhead))
    · by_contra hlast
      exact hbares (.of_last htrim (List.dropLast_append_getLast hne).symm (by simpa using hlast))

/-! ## Cleaned lines -/

theorem afterTag?_sublist {found : Bool} (h : afterTag? found cs = some rest) :
    rest.Sublist cs := by
  obtain ⟨inner, -, -, rfl⟩ := afterTag?_eq_some h
  exact (List.sublist_cons_self '>' rest).trans (List.sublist_append_right inner _)

theorem dropTags_sublist (cs : List Char) : (dropTags cs).Sublist cs := by
  fun_induction dropTags cs with
  | case1 => exact List.Sublist.refl []
  | case2 cs rest hrest ih =>
    exact (ih.trans (afterTag?_sublist hrest)).trans (cs.sublist_cons_self _)
  | case3 cs _ ih => exact ih.cons_cons _
  | case4 c cs _ ih => exact ih.cons_cons _

theorem dropOpener_sublist (l : Line) : (Style.dropOpener l).Sublist l := by
  unfold Style.dropOpener
  split
  · next cs =>
    exact ((List.dropWhile_suffix _).sublist.trans (cs.sublist_cons_self _)).trans
      (List.sublist_cons_self _ _)
  · exact List.Sublist.refl _

theorem unmark_sublist (s : Style) (l : Line) : (s.unmark l).Sublist l := by
  cases s with
  | hash => exact (List.dropWhile_suffix _).sublist
  | javadoc =>
    simp only [Style.unmark]
    refine List.filter_sublist.trans ?_
    split_ifs
    · exact (List.dropLast_sublist _).trans (dropOpener_sublist l)
    · exact dropOpener_sublist l

/-- **A cleaned line** has no characters that the line does not have. -/
theorem clean_sublist (s : Style) (l : Line) : (s.clean (trim l)).Sublist l :=
  (((dropTags_sublist _).trans (trim_sublist _)).trans (unmark_sublist s _)).trans (trim_sublist l)

theorem exists_of_mem_blockText {s : Style} {keepTags : Bool} {block : List Line} {w : Line}
    (h : w ∈ blockText s keepTags block) :
    ∃ l ∈ block, w = s.clean (trim l) ∧ isKept keepTags w = true := by
  obtain ⟨hw, hkept⟩ := List.mem_filter.mp h
  obtain ⟨l, hl, rfl⟩ := List.mem_map.mp hw
  exact ⟨l, hl, rfl, hkept⟩

end EndpointDocs.Comment
