import EndpointDocs.Comment.Tag
import EndpointDocs.Proofs.Comment.Written
import Mathlib.Data.List.Nodup

/-!
# Descriptions of parameters in a block

* `LineBound`, `firstAt?_joinLines`: a search that looks beyond no line goes line by line.
* `Describes`: a line `@param`, the name of a parameter and its text.
* `firstAt?_describes`: the search for a name stops at a line that describes it and passes others.
* `Tells`: lines in which `@param` only introduces descriptions, one for each parameter.
* **`Tells.paramText?_eq_some`**, `Tells.paramText?_eq_none`: what is found are these descriptions.
* `MarkedLine`, `ParamBlock`: a block of `#` lines of any kind; `ParamBlock.descriptionAbove_lines`.
-/

namespace EndpointDocs.Comment

open Text

/-! ## A search line by line -/

section Search

variable {α : Type} {read : List Char → Option α} {w : Line} {ws : List Line}

/-- A search in a line does not look beyond its end. -/
def LineBound (read : List Char → Option α) (w : Line) : Prop :=
  ∀ rest : List Char, (∀ c ∈ rest.head?, c = '\n') →
    firstAt? read (w ++ rest) = (firstAt? read w).or (firstAt? read rest)

theorem lineBound_of_passed (hnil : read [] = none)
    (h : ∀ rest : List Char, (∀ c ∈ rest.head?, c = '\n') →
      firstAt? read (w ++ rest) = firstAt? read rest) :
    firstAt? read w = none ∧ LineBound read w := by
  have hself : firstAt? read w = none := by simpa [firstAt?, hnil] using h [] (by simp)
  refine ⟨hself, fun rest hrest => ?_⟩
  rw [h rest hrest, hself, Option.none_or]

theorem lineBound_of_found {a : α}
    (h : ∀ rest : List Char, (∀ c ∈ rest.head?, c = '\n') → firstAt? read (w ++ rest) = some a) :
    firstAt? read w = some a ∧ LineBound read w := by
  have hself : firstAt? read w = some a := by simpa using h [] (by simp)
  refine ⟨hself, fun rest hrest => ?_⟩
  rw [h rest hrest, hself, Option.some_or]

theorem joinLines_cons (w : Line) (hws : ws ≠ []) :
    joinLines (w :: ws) = w ++ '\n' :: joinLines ws := by
  obtain ⟨v, vs, rfl⟩ := List.exists_cons_of_ne_nil hws
  rw [joinLines, joinWith, List.append_assoc]
  rfl

/-- **A search goes line by line** if it looks beyond none of them. -/
theorem firstAt?_joinLines (hnil : read [] = none) (hbreak : ∀ cs, read ('\n' :: cs) = none)
    (hlines : ∀ w ∈ ws, LineBound read w) :
    firstAt? read (joinLines ws) = ws.findSome? (firstAt? read) := by
  induction ws with
  | nil => exact hnil
  | cons w ws ih =>
    obtain ⟨hw, hrest⟩ := List.forall_mem_cons.mp hlines
    by_cases hws : ws = []
    · subst hws
      have hone : joinLines [w] = w := rfl
      rw [hone, List.findSome?_singleton]
    · rw [joinLines_cons w hws, hw _ (by simp), firstAt?, hbreak, Option.none_or, ih hrest,
        List.findSome?_cons]
      cases firstAt? read w <;> rfl

end Search

/-! ## Lines that describe parameters -/

/-- What a description of a parameter starts with. -/
def paramTag : List Char := "@param".toList

/-- A line describes a parameter: `@param`, its name and a text; `@param` does not come again. -/
structure Describes (name text w : List Char) : Prop where
  spelled : ∃ gap gap', (gap ≠ [] ∧ Blank gap) ∧ (gap' ≠ [] ∧ Blank gap') ∧
    w = paramTag ++ (gap ++ (name ++ (gap' ++ text)))
  once : ¬ paramTag <:+: w.tail

theorem newline_not_mem_paramTag : '\n' ∉ paramTag := by decide

section Describing

variable {name other text w rest : List Char}

theorem paramTail?_eq_none {cs : List Char} (h : ¬ paramTag <+: cs) : paramTail? name cs = none := by
  have hafter : after? paramTag cs = none := by
    rw [Option.eq_none_iff_forall_ne_some]
    intro ds hds
    exact h ⟨ds, (after?_eq_some_iff.mp hds).symm⟩
  rw [paramTail?, ← paramTag, hafter]
  rfl

/-- **The search passes a text** without `@param`, up to the end of its line. -/
theorem firstAt?_of_not_infix (h : ¬ paramTag <:+: w) (hrest : ∀ c ∈ rest.head?, c = '\n') :
    firstAt? (paramTail? name) (w ++ rest) = firstAt? (paramTail? name) rest := by
  refine firstAt?_append fun vs _ hvs => paramTail?_eq_none fun hprefix => h ?_
  have hstop : ∀ c ∈ rest.head?, c ∉ paramTag := by
    intro c hc
    rw [hrest c hc]
    exact newline_not_mem_paramTag
  exact (prefix_of_prefix_append hprefix hstop).isInfix.trans hvs.isInfix

/-- What may stand as the text of a description. -/
structure IsDescription (text : List Char) : Prop where
  ne_nil : text ≠ []
  trimmed : trim text = text
  unbroken : '\n' ∉ text

theorem isDescription_iff (text : List Char) :
    IsDescription text ↔ text ≠ [] ∧ trim text = text ∧ '\n' ∉ text :=
  ⟨fun h => ⟨h.ne_nil, h.trimmed, h.unbroken⟩, fun h => ⟨h.1, h.2.1, h.2.2⟩⟩

instance (text : List Char) : Decidable (IsDescription text) :=
  decidable_of_iff _ (isDescription_iff text).symm

theorem IsDescription.head_append (h : IsDescription text) (rest : List Char) :
    ∀ c ∈ (text ++ rest).head?, isBlank c = false := by
  intro c hc
  rw [List.head?_append_of_ne_nil _ h.ne_nil, List.head?_eq_some_head h.ne_nil] at hc
  cases hc
  exact ((trim_eq_self_iff h.ne_nil).mp h.trimmed).1

theorem IsDescription.takeWhile_append (h : IsDescription text) (hrest : ∀ c ∈ rest.head?, c = '\n') :
    (text ++ rest).takeWhile (· != '\n') = text := by
  have hall : ∀ c ∈ text, (c != '\n') = true := by
    intro c hc
    have : c ≠ '\n' := fun he => h.unbroken (he ▸ hc)
    simpa using this
  rw [List.takeWhile_append_of_pos hall]
  cases rest with
  | nil => simp
  | cons c cs => simp [hrest c rfl]

/-- Behind `@param` and blanks, the name has to come, whatever stands there. -/
theorem paramTail?_paramTag {gap cs : List Char} (hne : gap ≠ []) (hgap : Blank gap)
    (hother : Solid other) (hcs : ∀ c ∈ cs.head?, isBlank c = false) :
    paramTail? other (paramTag ++ (gap ++ cs)) = (after? other cs).bind
      (afterSomeBlanks? fun ds => some (ds.takeWhile (· != '\n'))) := by
  have hstart : after? "@param".toList (paramTag ++ (gap ++ cs)) = some (gap ++ cs) :=
    after?_eq_some_iff.mpr rfl
  have hblank : ∀ c ds, isBlank c = true → after? other (c :: ds) = none := by
    intro c ds hc
    rw [Option.eq_none_iff_forall_ne_some]
    intro es hes
    have hhead := hother.head_append es c (by rw [← after?_eq_some_iff.mp hes]; rfl)
    simp [hc] at hhead
  rw [paramTail?, hstart]
  exact afterSomeBlanks?_append hne hgap hcs (.inr fun c ds hc => by rw [hblank c ds hc]; rfl)

/-- **A line describes its own parameter** and no other, not even one whose name starts alike. -/
theorem paramTail?_describes (h : Describes name text w) (hname : Solid name) (hother : Solid other)
    (htext : IsDescription text) (hrest : ∀ c ∈ rest.head?, c = '\n') :
    paramTail? other (w ++ rest) = if other = name then some text else none := by
  obtain ⟨gap, gap', ⟨hne, hgap⟩, ⟨hne', hgap'⟩, rfl⟩ := h.spelled
  have hcut : paramTag ++ (gap ++ (name ++ (gap' ++ text))) ++ rest =
      paramTag ++ (gap ++ (name ++ (gap' ++ (text ++ rest)))) := by simp
  rw [hcut, paramTail?_paramTag hne hgap hother (hname.head_append _)]
  split_ifs with heq
  · subst heq
    have hafter : after? other (other ++ (gap' ++ (text ++ rest))) = some (gap' ++ (text ++ rest)) :=
      after?_eq_some_iff.mpr rfl
    rw [hafter, Option.bind_some,
      afterSomeBlanks?_append hne' hgap' (htext.head_append _) (.inl rfl),
      htext.takeWhile_append hrest]
  · rw [Option.bind_eq_none_iff]
    intro ds hds
    -- a blank behind the one name would have to end the other name as well
    refine afterSomeBlanks?_eq_none fun c hc => ?_
    by_contra hblank
    have hsolid : ∀ {cs : List Char}, Solid cs → ∀ c ∈ cs, (!isBlank c) = true := by
      intro cs hcs c hc
      simp [hcs.unblank c hc]
    have hstop : ∀ c ∈ (gap' ++ (text ++ rest)).head?, (!isBlank c) = false := by
      intro c hc
      rw [List.head?_append_of_ne_nil _ hne'] at hc
      simp [hgap' c (List.mem_of_mem_head? hc)]
    have hstop' : ∀ c ∈ ds.head?, (!isBlank c) = false := by
      intro c' hc'
      rw [Option.mem_unique hc' hc]
      simpa using hblank
    exact heq (append_eq_append_of_scan (hsolid hname) hstop (hsolid hother) hstop'
      (after?_eq_some_iff.mp hds)).1.symm

/-- **The search stops at the line** that describes its parameter, and passes any other. -/
theorem firstAt?_describes (h : Describes name text w) (hname : Solid name) (hother : Solid other)
    (htext : IsDescription text) (hrest : ∀ c ∈ rest.head?, c = '\n') :
    firstAt? (paramTail? other) (w ++ rest) =
      if other = name then some text else firstAt? (paramTail? other) rest := by
  have hread := paramTail?_describes h hname hother htext hrest
  obtain ⟨gap, gap', -, -, hw⟩ := h.spelled
  obtain ⟨v, vs, rfl⟩ : ∃ v vs, w = v :: vs := ⟨'@', _, hw⟩
  have honce : ¬ paramTag <:+: vs := h.once
  rw [List.cons_append] at hread ⊢
  rw [firstAt?, hread, firstAt?_of_not_infix honce hrest]
  split_ifs <;> rfl

end Describing

/-! ## All descriptions -/

/-- Lines in which `@param` only introduces descriptions, one for each of some parameters. -/
structure Tells (ws : List Line) (params : List (String × String)) : Prop where
  only : ∀ w ∈ ws, paramTag <:+: w → ∃ p ∈ params, Describes p.1.toList p.2.toList w
  told : ∀ p ∈ params, ∃ w ∈ ws, Describes p.1.toList p.2.toList w
  distinct : (params.map (·.1)).Nodup
  named : ∀ p ∈ params, Solid p.1.toList
  worded : ∀ p ∈ params, IsDescription p.2.toList

/-- A description with single blanks between its parts. -/
def paramLine (p : String × String) : List Char :=
  paramTag ++ ([' '] ++ (p.1.toList ++ ([' '] ++ p.2.toList)))

theorem tells_of_paramLine {ws : List Line} {params : List (String × String)}
    (only : ∀ w ∈ ws, paramTag <:+: w → w ∈ params.map paramLine)
    (told : ∀ p ∈ params, paramLine p ∈ ws)
    (once : ∀ p ∈ params, ¬ paramTag <:+: (paramLine p).tail)
    (distinct : (params.map (·.1)).Nodup)
    (words : ∀ p ∈ params, Solid p.1.toList ∧ IsDescription p.2.toList) : Tells ws params := by
  have hdescribes : ∀ p ∈ params, Describes p.1.toList p.2.toList (paramLine p) := by
    intro p hp
    have hspace : [' '] ≠ [] ∧ Blank [' '] := by decide
    exact ⟨⟨[' '], [' '], hspace, hspace, rfl⟩, once p hp⟩
  refine ⟨fun w hw htag => ?_, fun p hp => ⟨_, told p hp, hdescribes p hp⟩, distinct,
    fun p hp => (words p hp).1, fun p hp => (words p hp).2⟩
  obtain ⟨p, hp, rfl⟩ := List.mem_map.mp (only w hw htag)
  exact ⟨p, hp, hdescribes p hp⟩

namespace Tells

variable {ws : List Line} {w : Line} {params : List (String × String)} {wanted : String}

/-- **The search for a name does not look beyond a line**, and what it finds is its description. -/
theorem firstAt?_line (h : Tells ws params) (hwanted : Solid wanted.toList) (hw : w ∈ ws) :
    (firstAt? (paramTail? wanted.toList) w = none ∨
        ∃ p ∈ params, p.1 = wanted ∧ firstAt? (paramTail? wanted.toList) w = some p.2.toList) ∧
      LineBound (paramTail? wanted.toList) w := by
  by_cases htag : paramTag <:+: w
  · obtain ⟨p, hp, hdescribes⟩ := h.only w hw htag
    have hline : ∀ rest : List Char, (∀ c ∈ rest.head?, c = '\n') →
        firstAt? (paramTail? wanted.toList) (w ++ rest) =
          if wanted.toList = p.1.toList then some p.2.toList
          else firstAt? (paramTail? wanted.toList) rest := fun _ =>
      firstAt?_describes hdescribes (h.named p hp) hwanted (h.worded p hp)
    by_cases hname : wanted.toList = p.1.toList
    · simp only [hname, if_true] at hline ⊢
      obtain ⟨hself, hbound⟩ := lineBound_of_found hline
      exact ⟨.inr ⟨p, hp, (String.toList_inj.mp hname).symm, hself⟩, hbound⟩
    · simp only [hname, if_false] at hline
      obtain ⟨hself, hbound⟩ := lineBound_of_passed rfl hline
      exact ⟨.inl hself, hbound⟩
  · obtain ⟨hself, hbound⟩ := lineBound_of_passed rfl
      fun rest hrest => firstAt?_of_not_infix htag hrest
    exact ⟨.inl hself, hbound⟩

theorem firstAt?_text (h : Tells ws params) (hwanted : Solid wanted.toList) :
    firstAt? (paramTail? wanted.toList) (joinLines ws) =
      ws.findSome? (firstAt? (paramTail? wanted.toList)) := by
  have hbreak : ∀ cs, paramTail? wanted.toList ('\n' :: cs) = none := by
    intro cs
    refine paramTail?_eq_none fun hprefix => ?_
    obtain ⟨ds, hds⟩ := hprefix
    cases hds
  exact firstAt?_joinLines rfl hbreak fun w hw => (h.firstAt?_line hwanted hw).2

theorem paramText?_eq_some (h : Tells ws params) {p : String × String} (hp : p ∈ params) :
    paramText? (String.ofList (joinLines ws)) p.1 = some p.2 := by
  have hfound : ws.findSome? (firstAt? (paramTail? p.1.toList)) = some p.2.toList := by
    obtain ⟨w, hw, hdescribes⟩ := h.told p hp
    have hself : firstAt? (paramTail? p.1.toList) w = some p.2.toList := by
      have hend : ∀ c ∈ ([] : List Char).head?, c = '\n' := by simp
      have hread := firstAt?_describes hdescribes (h.named p hp) (h.named p hp) (h.worded p hp) hend
      simpa using hread
    have hsome : (ws.findSome? (firstAt? (paramTail? p.1.toList))).isSome = true := by
      rw [List.findSome?_isSome_iff]
      exact ⟨w, hw, by rw [hself]; rfl⟩
    obtain ⟨text, htext⟩ := Option.isSome_iff_exists.mp hsome
    obtain ⟨w', hw', hread⟩ := List.exists_of_findSome?_eq_some htext
    obtain hnone | ⟨p', hp', hname, hread'⟩ := (h.firstAt?_line (h.named p hp) hw').1
    · rw [hnone] at hread
      cases hread
    · obtain rfl : p' = p := List.inj_on_of_nodup_map h.distinct hp' hp hname
      rw [htext, ← hread, hread']
  rw [paramText?, String.toList_ofList, h.firstAt?_text (h.named p hp), hfound, Option.map_some,
    (h.worded p hp).trimmed, String.ofList_toList]

theorem paramText?_eq_none (h : Tells ws params) (hwanted : Solid wanted.toList)
    (hnone : wanted ∉ params.map (·.1)) :
    paramText? (String.ofList (joinLines ws)) wanted = none := by
  have hlines : ws.findSome? (firstAt? (paramTail? wanted.toList)) = none := by
    rw [List.findSome?_eq_none_iff]
    intro w hw
    obtain hread | ⟨p, hp, hname, -⟩ := (h.firstAt?_line hwanted hw).1
    · exact hread
    · exact absurd (hname ▸ List.mem_map_of_mem hp) hnone
  rw [paramText?, String.toList_ofList, h.firstAt?_text hwanted, hlines, Option.map_none]

end Tells

/-! ## Blocks of any lines -/

/-- A line of a block: any text behind marks. -/
structure MarkedLine where
  margin : List Char
  body : List Char
  margin_blank : Blank margin
  unmarked : ¬ ['#'] <+: body
  untagged : ¬ HasTag (trim body)

namespace MarkedLine

def text (d : MarkedLine) : Line := trim d.body

/-- The line behind a number of marks. -/
def written (d : MarkedLine) (marks : Nat) : Line := marked d.margin marks d.body

end MarkedLine

/-- A block that describes parameters, among any other lines. -/
structure ParamBlock where
  opener : MarkedLine
  /-- How many marks the first line has above two. -/
  further : Nat
  others : List MarkedLine
  params : List (String × String)
  tells : Tells ((opener :: others).map MarkedLine.text) params

namespace ParamBlock

/-- The lines of the block, as they stand in a source. -/
def lines (d : ParamBlock) : List Line :=
  d.opener.written (d.further + 2) :: d.others.map (·.written 1)

/-- The texts of its lines, the empty ones left out. -/
def texts (d : ParamBlock) : List Line :=
  ((d.opener :: d.others).map MarkedLine.text).filter (· ≠ [])

theorem tells_texts (d : ParamBlock) : Tells d.texts d.params := by
  obtain ⟨only, told, distinct, named, worded⟩ := d.tells
  refine ⟨fun w hw => only w (List.mem_of_mem_filter hw), fun p hp => ?_, distinct, named, worded⟩
  obtain ⟨w, hw, hdescribes⟩ := told p hp
  have hne : w ≠ [] := by
    obtain ⟨gap, gap', -, -, rfl⟩ := hdescribes.spelled
    simp [paramTag]
  exact ⟨w, List.mem_filter.mpr ⟨hw, by simpa using hne⟩, hdescribes⟩

theorem isComment_of_mem {d : ParamBlock} {l : Line} (h : l ∈ d.lines) :
    isComment .hash l = true := by
  have hmark : Style.continues .hash (trim l) = true := by
    rcases List.mem_cons.mp h with rfl | h
    · exact continues_marked d.opener.margin_blank _ _
    · obtain ⟨w, -, rfl⟩ := List.mem_map.mp h
      exact continues_marked w.margin_blank _ _
  rw [continues_hash_iff] at hmark
  simpa [isComment, Style.marks] using hmark

theorem descriptionAbove_lines (d : ParamBlock) (above : List Line) :
    descriptionAbove .hash true (d.lines.reverse ++ above) =
      some (String.ofList (joinLines d.texts)) := by
  have hblock : blockLines .hash (d.lines.reverse ++ above) = some d.lines := by
    refine blockLines_marked ⟨opens_marked d.opener.margin_blank _ _,
      continues_marked d.opener.margin_blank _ _⟩ (fun l hl => ?_) above
    obtain ⟨w, -, rfl⟩ := List.mem_map.mp hl
    exact ⟨not_opens_marked w.margin_blank w.unmarked, continues_marked w.margin_blank _ _⟩
  have hclean : ∀ (w : MarkedLine) (n : Nat),
      Style.clean .hash (trim (w.written (n + 1))) = w.text :=
    fun w n => clean_marked w.margin_blank w.unmarked w.untagged n
  have hlines : d.lines.map (fun l => Style.clean .hash (trim l)) =
      (d.opener :: d.others).map MarkedLine.text := by
    simp [lines, hclean]
  rw [descriptionAbove, textAbove, hblock, Option.map_some, Option.map_some, blockText_hash_eq,
    cleanedLines, hlines, texts]
  simp

end ParamBlock

end EndpointDocs.Comment
