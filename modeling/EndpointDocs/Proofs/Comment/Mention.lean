import EndpointDocs.Proofs.Comment.Param

/-!
# Where the description of a parameter is found

The search for `@param` and a name takes line ends for blanks, so what it finds may stand on
another line than the tag.

* `Mention`: a place of a text where `@param`, a name and what is told stand behind one another.
* `Mention.IsFirst`, `paramText?_eq_some_iff`: the description is that of the first such place.
* `exists_cut_of_joinLines`, `isSuffix_line_iff`, `eq_of_last_newline`: a place in a text by lines.
* `Mention.exists_line`: what is told ends a line.
* **`paramText?_line`**: which line that is, and when it is the one of the tag.
-/

namespace EndpointDocs.Comment

open Text

/-- **A text is cut in one way** where its first line ends. -/
theorem append_eq_append_of_newline {as bs cs ds : List Char} (ha : '\n' ∉ as)
    (hb : ∀ c ∈ bs.head?, c = '\n') (hc : '\n' ∉ cs) (hd : ∀ c ∈ ds.head?, c = '\n')
    (h : as ++ bs = cs ++ ds) : as = cs ∧ bs = ds := by
  have hline : ∀ {cs : List Char}, '\n' ∉ cs → ∀ c ∈ cs, (c != '\n') = true := by
    intro cs hcs c hc
    have : c ≠ '\n' := fun h => hcs (h ▸ hc)
    simpa using this
  exact append_eq_append_of_scan (hline ha) (fun c hc => by simp [hb c hc]) (hline hc)
    (fun c hc => by simp [hd c hc]) h

/-! ## Places that tell about a parameter -/

/-- A place of a text where `@param` and a name stand, and what is told behind them. -/
structure Mention (name text : List Char) where
  before : List Char
  /-- The blanks in front of the name, and those behind it. -/
  gap : List Char
  gap' : List Char
  told : List Char
  rest : List Char
  spelled : text = before ++ (paramTag ++ (gap ++ (name ++ (gap' ++ (told ++ rest)))))
  gap_blank : gap ≠ [] ∧ Blank gap
  gap'_blank : gap' ≠ [] ∧ Blank gap'
  gap'_ends : ∀ c ∈ (told ++ rest).head?, isBlank c = false
  told_unbroken : '\n' ∉ told
  told_ends : ∀ c ∈ rest.head?, c = '\n'

namespace Mention

variable {name text : List Char}

/-- The tag with its name and all blanks. -/
def tag (p : Mention name text) : List Char := paramTag ++ (p.gap ++ (name ++ p.gap'))

theorem eq_append (p : Mention name text) : text = (p.before ++ p.tag) ++ (p.told ++ p.rest) := by
  simpa [tag] using p.spelled

theorem paramTag_prefix (p : Mention name text) : paramTag <+: text.drop p.before.length := by
  have h := congrArg (List.drop p.before.length) p.spelled
  rw [List.drop_left] at h
  rw [h]
  exact List.prefix_append ..

/-- No place is further to the front, and none there has more blanks in front of the name. -/
def IsFirst (p : Mention name text) : Prop :=
  ∀ q : Mention name text, p.before.length ≤ q.before.length ∧
    (p.before.length = q.before.length → q.gap.length ≤ p.gap.length)

/-- Behind `@param`, the blanks end where a name without blanks starts. -/
theorem gap_eq (hname : Solid name) (p q : Mention name text)
    (h : p.before.length = q.before.length) : p.gap = q.gap := by
  have hrest := (List.append_inj (p.spelled.symm.trans q.spelled) h).2
  exact (append_eq_append_of_scan p.gap_blank.2 (hname.head_append _) q.gap_blank.2
    (hname.head_append _) (List.append_cancel_left hrest)).1

theorem isFirst_iff_of_solid (hname : Solid name) (p : Mention name text) :
    p.IsFirst ↔ ∀ q : Mention name text, p.before.length ≤ q.before.length := by
  constructor
  · intro h q
    exact (h q).1
  · intro h q
    exact ⟨h q, fun hq => by rw [gap_eq hname p q hq]⟩

theorem IsFirst.told_eq {p q : Mention name text} (hp : p.IsFirst) (hq : q.IsFirst) :
    p.told = q.told := by
  have hbefore : p.before.length = q.before.length := le_antisymm (hp q).1 (hq p).1
  have hgap : p.gap.length = q.gap.length :=
    le_antisymm ((hq p).2 hbefore.symm) ((hp q).2 hbefore)
  have htag := (List.append_inj (p.spelled.symm.trans q.spelled) hbefore).2
  have hname := (List.append_inj (List.append_cancel_left htag) hgap).2
  have hblank := append_eq_append_of_scan p.gap'_blank.2 p.gap'_ends q.gap'_blank.2 q.gap'_ends
    (List.append_cancel_left hname)
  exact (append_eq_append_of_newline p.told_unbroken p.told_ends q.told_unbroken q.told_ends
    hblank.2).1

end Mention

section Search

variable {name cs : List Char}

/-- What `paramTail?` reads behind the name. -/
theorem afterName_eq_some {told : List Char}
    (h : afterSomeBlanks? (fun cs => some (cs.takeWhile (· != '\n'))) cs = some told) :
    ∃ gap rest, cs = gap ++ (told ++ rest) ∧ (gap ≠ [] ∧ Blank gap) ∧
      (∀ c ∈ (told ++ rest).head?, isBlank c = false) ∧ '\n' ∉ told ∧
      ∀ c ∈ rest.head?, c = '\n' := by
  obtain ⟨gap, ds, rfl, hgap, hread, hlongest⟩ := afterSomeBlanks?_eq_some h
  have hcut : told ++ ds.dropWhile (· != '\n') = ds := by
    rw [← Option.some_inj.mp hread]
    exact List.takeWhile_append_dropWhile
  refine ⟨gap, ds.dropWhile (· != '\n'), by rw [hcut], hgap, ?_, ?_, ?_⟩
  · -- one more blank would make the run longer
    rw [hcut]
    intro c hc
    obtain ⟨ds', rfl⟩ : ∃ ds', ds = c :: ds' := List.head?_eq_some_iff.mp hc
    by_contra hblank
    have hlonger : Blank (gap ++ [c]) := by
      simpa [Blank, or_imp, forall_and] using And.intro hgap.2 hblank
    have := hlongest (gap ++ [c]) ds' (by simp) (by simp) hlonger (by simp)
    rw [List.length_append, List.length_singleton] at this
    omega
  · rw [← Option.some_inj.mp hread]
    intro hmem
    simpa using List.mem_takeWhile_imp hmem
  · intro c hc
    have := List.head?_dropWhile_not (· != '\n') ds
    rw [Option.mem_def.mp hc] at this
    simpa using this

theorem paramTail?_ne_none {gap gap' ds : List Char} (hgap : gap ≠ [] ∧ Blank gap)
    (hgap' : gap' ≠ [] ∧ Blank gap') :
    paramTail? name (paramTag ++ (gap ++ (name ++ (gap' ++ ds)))) ≠ none := by
  have hstart : ∀ cs ds : List Char, after? cs (cs ++ ds) = some ds :=
    fun cs ds => after?_eq_some_iff.mpr rfl
  rw [paramTail?, ← paramTag, hstart, Option.bind_eq_bind, Option.bind_some]
  refine afterSomeBlanks?_ne_none hgap.1 hgap.2 ?_
  rw [hstart, Option.bind_some]
  exact afterSomeBlanks?_ne_none hgap'.1 hgap'.2 (by simp)

/-- **`paramTail?` reads a place** at the start of a text, with the most blanks before the name. -/
theorem paramTail?_eq_some {told : List Char} (h : paramTail? name cs = some told) :
    ∃ p : Mention name cs, p.before = [] ∧ p.told = told ∧
      ∀ q : Mention name cs, q.before = [] → q.gap.length ≤ p.gap.length := by
  rw [paramTail?, Option.bind_eq_bind, Option.bind_eq_some_iff] at h
  obtain ⟨ds, hds, h⟩ := h
  obtain ⟨gap, es, rfl, hgap, hread, hlongest⟩ := afterSomeBlanks?_eq_some h
  rw [Option.bind_eq_some_iff] at hread
  obtain ⟨fs, hfs, hread⟩ := hread
  obtain ⟨gap', rest, rfl, hgap', hends, hunbroken, hrest⟩ := afterName_eq_some hread
  obtain rfl := after?_eq_some_iff.mp hfs
  obtain rfl := after?_eq_some_iff.mp hds
  refine ⟨⟨[], gap, gap', told, rest, rfl, hgap, hgap', hends, hunbroken, hrest⟩, rfl, rfl, ?_⟩
  intro q hq
  have hcut := q.spelled
  rw [hq, List.nil_append, paramTag, List.append_cancel_left_eq] at hcut
  refine hlongest q.gap _ hcut q.gap_blank.1 q.gap_blank.2 ?_
  rw [after?_eq_some_iff.mpr rfl, Option.bind_some]
  exact afterSomeBlanks?_ne_none q.gap'_blank.1 q.gap'_blank.2 (by simp)

theorem Mention.firstAt?_ne_none (p : Mention name cs) :
    firstAt? (paramTail? name) cs ≠ none := by
  rw [p.spelled]
  exact Text.firstAt?_ne_none (paramTail?_ne_none p.gap_blank p.gap'_blank)

/-- **The search finds the first place.** -/
theorem firstAt?_paramTail?_eq_some {told : List Char}
    (h : firstAt? (paramTail? name) cs = some told) :
    ∃ p : Mention name cs, p.IsFirst ∧ p.told = told := by
  obtain ⟨before, ds, rfl, hread, hfirst⟩ := firstAt?_eq_some h
  obtain ⟨p, hbefore, rfl, hlongest⟩ := paramTail?_eq_some hread
  have hspelled := p.spelled
  rw [hbefore, List.nil_append] at hspelled
  refine ⟨{ p with before := before, spelled := by rw [← hspelled] }, fun q => ?_, rfl⟩
  refine ⟨hfirst _ _ q.spelled (paramTail?_ne_none q.gap_blank q.gap'_blank), fun hq => ?_⟩
  have hcut := (List.append_inj q.spelled hq).2
  exact hlongest { q with before := [], spelled := hcut } rfl

theorem firstAt?_paramTail?_iff {told : List Char} :
    firstAt? (paramTail? name) cs = some told ↔
      ∃ p : Mention name cs, p.IsFirst ∧ p.told = told := by
  constructor
  · exact firstAt?_paramTail?_eq_some
  · rintro ⟨p, hp, rfl⟩
    obtain ⟨told, htold⟩ := Option.ne_none_iff_exists'.mp p.firstAt?_ne_none
    obtain ⟨q, hq, rfl⟩ := firstAt?_paramTail?_eq_some htold
    rw [htold, hq.told_eq hp]

end Search

theorem paramText?_eq_some_iff (text name d : String) :
    paramText? text name = some d ↔
      ∃ p : Mention name.toList text.toList, p.IsFirst ∧ d = String.ofList (trim p.told) := by
  rw [paramText?, Option.map_eq_some_iff]
  constructor
  · rintro ⟨told, htold, rfl⟩
    obtain ⟨p, hp, rfl⟩ := firstAt?_paramTail?_iff.mp htold
    exact ⟨p, hp, rfl⟩
  · rintro ⟨p, hp, rfl⟩
    exact ⟨p.told, firstAt?_paramTail?_iff.mpr ⟨p, hp, rfl⟩, rfl⟩

theorem paramText?_eq_none_iff (text name : String) :
    paramText? text name = none ↔ IsEmpty (Mention name.toList text.toList) := by
  constructor
  · intro h
    rw [paramText?, Option.map_eq_none_iff] at h
    exact ⟨fun p => p.firstAt?_ne_none h⟩
  · intro h
    rw [Option.eq_none_iff_forall_ne_some]
    intro d hd
    obtain ⟨p, -, -⟩ := (paramText?_eq_some_iff text name d).mp hd
    exact h.false p

/-! ## Places by lines -/

section Lines

variable {ws above : List Line} {u cs ds : List Char}

/-- **A cut of a text** goes through one of its lines. -/
theorem exists_cut_of_joinLines (hws : ws ≠ []) (h : joinLines ws = cs ++ ds) :
    ∃ above u v below, ws = above ++ (u ++ v) :: below ∧ joinLines (above ++ [u]) = cs ∧
      joinLines (v :: below) = ds := by
  induction ws generalizing cs with
  | nil => exact absurd rfl hws
  | cons w ws ih =>
    by_cases hlast : ws = []
    · subst hlast
      exact ⟨[], cs, ds, [], by rw [← h]; rfl, rfl, rfl⟩
    rw [joinLines_cons w hlast] at h
    obtain ⟨as, rfl, has⟩ | ⟨bs, rfl, rfl⟩ := List.append_eq_append_iff.mp h
    · cases as with
      | nil => exact ⟨[], w, [], ws, by simp, by simp [joinLines, joinWith],
          (joinLines_cons [] hlast).trans has⟩
      | cons a as =>
        obtain ⟨rfl, hjoin⟩ := List.cons.inj has
        obtain ⟨above, u, v, below, rfl, habove, hbelow⟩ := ih hlast hjoin
        exact ⟨w :: above, u, v, below, rfl, by rw [List.cons_append, joinLines_cons w (by simp),
          habove], hbelow⟩
    · exact ⟨[], cs, bs, ws, rfl, rfl, joinLines_cons bs hlast⟩

theorem exists_tail_of_joinLines (v : Line) (below : List Line) :
    ∃ tail, joinLines (v :: below) = v ++ tail ∧ ∀ c ∈ tail.head?, c = '\n' := by
  by_cases hbelow : below = []
  · subst hbelow
    exact ⟨[], by simp [joinLines, joinWith], by simp⟩
  · exact ⟨_, joinLines_cons v hbelow, by simp⟩

theorem joinLines_concat (habove : above ≠ []) (u : Line) :
    joinLines (above ++ [u]) = joinLines above ++ '\n' :: u := by
  induction above with
  | nil => exact absurd rfl habove
  | cons w ws ih =>
    rw [List.cons_append, joinLines_cons w (by simp)]
    by_cases hws : ws = []
    · subst hws
      rfl
    · rw [ih hws, joinLines_cons w hws, List.append_assoc, List.cons_append]

theorem exists_head_of_joinLines (above : List Line) (u : Line) :
    ∃ head, joinLines (above ++ [u]) = head ++ u ∧ ∀ c ∈ head.getLast?, c = '\n' := by
  by_cases habove : above = []
  · subst habove
    exact ⟨[], rfl, by simp⟩
  · exact ⟨joinLines above ++ ['\n'], by simp [joinLines_concat habove], by simp⟩

/-- **The end of a text** lies in its last line if there is no newline in it. -/
theorem isSuffix_line_iff (hu : '\n' ∉ u) (h : joinLines (above ++ [u]) = cs ++ ds) :
    ds <:+ u ↔ '\n' ∉ ds := by
  constructor
  · rintro hds hmem
    exact hu (hds.subset hmem)
  · intro hds
    obtain ⟨head, hhead, hends⟩ := exists_head_of_joinLines above u
    rw [hhead] at h
    obtain hsuffix | ⟨xs, rfl⟩ := List.suffix_or_suffix_of_suffix
      (List.suffix_append cs ds) (h ▸ List.suffix_append head u)
    · exact hsuffix
    · -- the rest of the end would hold the newline in front of the line
      rw [← List.append_assoc] at h
      have hcut : head = cs ++ xs := List.append_cancel_right h
      cases hxs : xs.getLast? with
      | none => simp [List.getLast?_eq_none_iff.mp hxs]
      | some c =>
        have hc : c = '\n' := hends c (by simp [hcut, List.getLast?_append, hxs])
        rw [hc] at hxs
        exact absurd (List.mem_append_left u (List.mem_of_getLast? hxs)) hds

/-- **The last line** is what stands behind the last newline. -/
theorem eq_of_last_newline (hu : '\n' ∉ u) (hds : '\n' ∉ ds)
    (h : joinLines (above ++ [u]) = cs ++ '\n' :: ds) : u = ds := by
  have hcut : joinLines (above ++ [u]) = (cs ++ ['\n']) ++ ds := by simp [h]
  obtain ⟨xs, rfl⟩ := (isSuffix_line_iff hu hcut).mpr hds
  obtain ⟨head, hhead, -⟩ := exists_head_of_joinLines above (xs ++ ds)
  rw [hhead, ← List.append_assoc] at hcut
  have hend := congrArg List.getLast? (List.append_cancel_right hcut)
  cases hxs : xs.getLast? with
  | none => simp [List.getLast?_eq_none_iff.mp hxs]
  | some c =>
    rw [List.getLast?_append, hxs, List.getLast?_concat, Option.some_or, Option.some_inj] at hend
    rw [hend] at hxs
    exact absurd (List.mem_append_left ds (List.mem_of_getLast? hxs)) hu

theorem exists_last_newline (h : '\n' ∈ cs) :
    ∃ as bs, cs = as ++ '\n' :: bs ∧ '\n' ∉ bs := by
  obtain ⟨as, bs, hcut, hnot⟩ := List.eq_append_cons_of_mem (List.mem_reverse.mpr h)
  refine ⟨bs.reverse, as.reverse, ?_, by simpa using hnot⟩
  rw [← List.reverse_reverse cs, hcut]
  simp

end Lines

namespace Mention

variable {name : List Char} {ws : List Line}

/-- **What is told ends a line.** -/
theorem exists_line (p : Mention name (joinLines ws)) (hws : ∀ w ∈ ws, '\n' ∉ w) :
    ∃ above u below, ws = above ++ (u ++ p.told) :: below ∧
      joinLines (above ++ [u]) = p.before ++ p.tag := by
  have hne : ws ≠ [] := by
    rintro rfl
    simpa [joinLines, joinWith, paramTag] using p.spelled
  obtain ⟨above, u, v, below, rfl, habove, hbelow⟩ := exists_cut_of_joinLines hne p.eq_append
  obtain ⟨tail, htail, hends⟩ := exists_tail_of_joinLines v below
  have hv : '\n' ∉ v := fun h => hws (u ++ v) (by simp) (List.mem_append_right u h)
  obtain ⟨htold, -⟩ := append_eq_append_of_newline hv hends p.told_unbroken p.told_ends
    (htail.symm.trans hbelow)
  exact ⟨above, u, below, by rw [← htold], habove⟩

end Mention

/--
**The line of a description.** What is found for a parameter is told at the first place where
`@param` and its name stand, and always ends a line. It is the line of the tag just when no newline
stands between the two. With a newline behind the name, it is a whole line below the tag, blanks in
front of it left out; with one only before the name, it is the line that starts with the name.
-/
theorem paramText?_line (ws : List Line) (name : String) (hws : ∀ w ∈ ws, '\n' ∉ w) :
    (∀ d, paramText? (String.ofList (joinLines ws)) name = some d ↔
      ∃ p : Mention name.toList (joinLines ws), p.IsFirst ∧ d = String.ofList (trim p.told)) ∧
    (paramText? (String.ofList (joinLines ws)) name = none ↔
      IsEmpty (Mention name.toList (joinLines ws))) ∧
    ∀ p : Mention name.toList (joinLines ws), ∃ above u below,
      ws = above ++ (u ++ p.told) :: below ∧ joinLines (above ++ [u]) = p.before ++ p.tag ∧
      (p.tag <:+ u ↔ '\n' ∉ p.tag) ∧ ('\n' ∈ p.gap' → Blank u) ∧
      ('\n' ∈ p.gap → '\n' ∉ name.toList ++ p.gap' →
        ∃ blanks, Blank blanks ∧ u = blanks ++ (name.toList ++ p.gap')) := by
  have hsome := paramText?_eq_some_iff (String.ofList (joinLines ws)) name
  have hnone := paramText?_eq_none_iff (String.ofList (joinLines ws)) name
  rw [String.toList_ofList] at hsome hnone
  refine ⟨hsome, hnone, fun p => ?_⟩
  obtain ⟨above, u, below, hcut, habove⟩ := p.exists_line hws
  have hu : '\n' ∉ u := fun h =>
    hws (u ++ p.told) (by simp [hcut]) (List.mem_append_left p.told h)
  refine ⟨above, u, below, hcut, habove, isSuffix_line_iff hu habove, fun hgap' => ?_,
    fun hgap hname => ?_⟩
  · obtain ⟨as, bs, has, hbs⟩ := exists_last_newline hgap'
    have hlast : joinLines (above ++ [u]) =
        (p.before ++ (paramTag ++ (p.gap ++ (name.toList ++ as)))) ++ '\n' :: bs := by
      simp [habove, Mention.tag, has]
    rw [eq_of_last_newline hu hbs hlast]
    intro c hc
    exact p.gap'_blank.2 c (by simp [has, hc])
  · obtain ⟨as, bs, has, hbs⟩ := exists_last_newline hgap
    have hlast : joinLines (above ++ [u]) =
        (p.before ++ (paramTag ++ as)) ++ '\n' :: (bs ++ (name.toList ++ p.gap')) := by
      simp [habove, Mention.tag, has]
    have hend : '\n' ∉ bs ++ (name.toList ++ p.gap') := by
      rw [List.mem_append]
      exact not_or.mpr ⟨hbs, hname⟩
    refine ⟨bs, fun c hc => p.gap_blank.2 c (by simp [has, hc]), ?_⟩
    exact eq_of_last_newline hu hend hlast

/-! ## A tag without a description -/

/-- The text of a block whose first parameter is named, but not described. -/
def untoldLines : List Line := ["Adds.", "@param a", "@param b the second"].map String.toList

/-- The tag of the first parameter, with the line below for its description. -/
def untoldMention : Mention "a".toList (joinLines untoldLines) where
  before := "Adds.\n".toList
  gap := [' ']
  gap' := ['\n']
  told := "@param b the second".toList
  rest := []
  spelled := by decide
  gap_blank := by decide
  gap'_blank := by decide
  gap'_ends := by
    intro c hc
    cases hc
    decide
  told_unbroken := by decide
  told_ends := by simp

theorem isFirst_untoldMention : untoldMention.IsFirst := by
  have hsolid : Solid "a".toList := by decide
  rw [Mention.isFirst_iff_of_solid hsolid]
  intro q
  have hnone : ∀ n < 6, ¬ paramTag <+: (joinLines untoldLines).drop n := by decide
  by_contra hlt
  exact hnone _ (Nat.lt_of_not_le hlt) q.paramTag_prefix

theorem paramText?_line_untold : (∀ w ∈ untoldLines, '\n' ∉ w) ∧
    paramText? (String.ofList (joinLines untoldLines)) "a" = some "@param b the second" ∧
    ∃ above u below, untoldLines = above ++ (u ++ untoldMention.told) :: below ∧ Blank u ∧
      ¬ untoldMention.tag <:+ u := by
  have hlines : ∀ w ∈ untoldLines, '\n' ∉ w := by decide
  obtain ⟨hsome, -, hplace⟩ := paramText?_line untoldLines "a" hlines
  obtain ⟨above, u, below, hcut, -, hown, hbelow, -⟩ := hplace untoldMention
  refine ⟨hlines, ?_, above, u, below, hcut, hbelow (by decide), ?_⟩
  · rw [hsome]
    exact ⟨untoldMention, isFirst_untoldMention, by decide⟩
  · rw [hown]
    decide

/-- A line carries the tag of a parameter, with or without a text. -/
def CarriesTag (name w : List Char) : Prop :=
  ∃ u gap v, w = u ++ (paramTag ++ (gap ++ (name ++ v))) ∧ (gap ≠ [] ∧ Blank gap) ∧
    ∀ c ∈ v.head?, isBlank c = true

/-- The source of the block, above the function that it documents. -/
def untoldSource : List Line :=
  ["## Adds.", "#  @param a", "#  @param b the second", "def add(a, b):"].map String.toList

theorem extract_untoldSource :
    extract .hash true untoldSource 3 = .ok (some (String.ofList (joinLines untoldLines))) := by
  have habove : linesAbove untoldSource 3 = .ok (upTo untoldSource 3) := rfl
  have hopener : Style.opens .hash (trim "## Adds.".toList) = true ∧
      Style.continues .hash (trim "## Adds.".toList) = true := by decide
  have hothers : ∀ l ∈ ["#  @param a", "#  @param b the second"].map String.toList,
      Style.opens .hash (trim l) = false ∧ Style.continues .hash (trim l) = true := by decide
  have hblock : blockLines .hash (upTo untoldSource 3) = some (untoldSource.take 3) :=
    blockLines_marked hopener hothers []
  have htext : blockText .hash true (untoldSource.take 3) = untoldLines := by cbv
  rw [extract, habove, Except.map, descriptionAbove, textAbove, hblock, Option.map_some, htext,
    Option.map_some]

/-- **A description need not stand on the line of its tag.** -/
theorem not_paramText?_own_line_all : ¬ ∀ (s : Style) (lines : List Line) (index : Int)
    (text name d : String), extract s true lines index = .ok (some text) →
      paramText? text name = some d →
        ∃ w ∈ splitLines text.toList, CarriesTag name.toList w ∧ d.toList <:+ w := by
  intro h
  have hfound : paramText? (String.ofList (joinLines untoldLines)) "a" =
      some "@param b the second" :=
    (paramText?_eq_some_iff ..).mpr ⟨untoldMention, isFirst_untoldMention, by decide⟩
  obtain ⟨w, hw, ⟨u, gap, v, hcut, hgap, -⟩, hsuffix⟩ :=
    h .hash untoldSource 3 _ "a" _ extract_untoldSource hfound
  rw [String.toList_ofList] at hw
  have hlines : splitLines (joinLines untoldLines) = untoldLines := by cbv
  -- only the last line is long enough
  have hlast : ∀ w ∈ untoldLines, "@param b the second".toList.length ≤ w.length →
      w = paramTag ++ ([' '] ++ "b the second".toList) := by decide
  rw [hlast w (hlines ▸ hw) hsuffix.length_le] at hcut
  cases u with
  | nil =>
    rw [List.nil_append, List.append_cancel_left_eq] at hcut
    have hspace : Blank [' '] := by decide
    have hsolid : Solid "a".toList := by decide
    have hword : ∀ c ∈ "b the second".toList.head?, isBlank c = false := by
      intro c hc
      cases hc
      decide
    have hname := append_eq_append_of_scan hspace hword hgap.2 (hsolid.head_append v) hcut
    simp at hname
  | cons c u =>
    have hat : '@' ∈ (paramTag ++ ([' '] ++ "b the second".toList)).tail := by
      rw [hcut]
      exact List.mem_append_right u (List.mem_append_left _ (by decide))
    exact absurd hat (by decide)

end EndpointDocs.Comment
