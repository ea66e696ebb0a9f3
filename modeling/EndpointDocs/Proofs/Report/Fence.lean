import EndpointDocs.Proofs.Endpoint.Parameters
import EndpointDocs.Report.Markdown
import Mathlib.Data.List.TakeWhile

/-!
# Examples between fences

A report puts an example between two lines of backticks. A text could end its block early with a
line that starts with a backtick; an example cannot, whatever names it is made of.

* `rawLines`, `closesFence`: the lines of a text; a line that can end a block.
* `Guarded`: each backtick has a double quote before it on its line; `Guarded.rawLines`.
* `guarded_layout`: so it is in the JSON document of every value.
* `HasBlock`, `hasBlock_render`: a section of a report with all lines of an example in its block.
* `Yields`: what holds of a lookup that has an answer; `yields_build`.
* **`build_fenced`**: the examples in metadata stay between their fences.
-/

namespace EndpointDocs

namespace Report

/-! ## Lines that end a block -/

def isBreak (c : Char) : Bool := c == '\n' || c == '\r'

/-- A text without a break. -/
def OneLine (cs : List Char) : Prop := ∀ c ∈ cs, isBreak c = false

instance (cs : List Char) : Decidable (OneLine cs) := List.decidableBAll _ cs

/-- The lines of a text, a newline or a carriage return between neighbours. -/
def rawLines (cs : List Char) : List (List Char) := cs.splitOnP isBreak

theorem modifyHead_nil_append (ls : List (List Char)) : ls.modifyHead ([] ++ ·) = ls :=
  congrFun List.modifyHead_id ls

/-- Whether a line starts with a backtick, behind any number of blanks. -/
def closesFence (l : List Char) : Bool := (l.dropWhile (· == ' ')).head? == some '`'

/-- Each backtick has a double quote before it on its line. -/
def Guarded (cs : List Char) : Prop :=
  ∀ before after, cs = before ++ '`' :: after →
    ∃ ds es, before = ds ++ '"' :: es ∧ OneLine es

variable {cs ds : List Char} {c : Char}

theorem OneLine.append (hc : OneLine cs) (hd : OneLine ds) : OneLine (cs ++ ds) :=
  List.forall_mem_append.mpr ⟨hc, hd⟩

namespace Guarded

theorem of_notMem (h : '`' ∉ cs) : Guarded cs := by
  rintro before after rfl
  simp at h

theorem quoted (h : OneLine cs) : Guarded ('"' :: cs) := by
  intro before after hcs
  cases before with
  | nil => simp at hcs
  | cons d before =>
    obtain ⟨rfl, rfl⟩ := List.cons.inj hcs
    exact ⟨[], before, rfl, fun c hc => h c (List.mem_append_left _ hc)⟩

theorem append (hc : Guarded cs) (hd : Guarded ds) : Guarded (cs ++ ds) := by
  intro before after h
  rcases List.append_eq_append_iff.mp h with ⟨before, rfl, hds⟩ | ⟨after', hcs, hafter⟩
  · obtain ⟨es, fs, rfl, hfs⟩ := hd before after hds
    exact ⟨cs ++ es, fs, by rw [List.append_assoc], hfs⟩
  · cases after' with
    | nil =>
      obtain ⟨es, fs, hbefore, -⟩ := hd [] after hafter.symm
      simp at hbefore
    | cons d after' =>
      obtain ⟨rfl, -⟩ := List.cons.inj hafter
      exact hc before after' hcs

theorem left (h : Guarded (cs ++ ds)) : Guarded cs := by
  rintro before after rfl
  exact h before (after ++ ds) (by simp)

/-- A quote does not guard what stands behind a break. -/
theorem behind_break (hc : isBreak c = true) (h : Guarded (cs ++ c :: ds)) : Guarded ds := by
  rintro before after rfl
  obtain ⟨es, fs, hes, hfs⟩ := h (cs ++ c :: before) after (by simp)
  rcases List.append_eq_append_iff.mp hes with ⟨es', rfl, hbefore⟩ | ⟨fs', -, hquote⟩
  · cases es' with
    | nil =>
      obtain ⟨rfl, -⟩ := List.cons.inj hbefore
      exact absurd hc (by decide)
    | cons d es' =>
      obtain ⟨-, rfl⟩ := List.cons.inj hbefore
      exact ⟨es', fs, rfl, hfs⟩
  · -- the break would stand between the quote and the backtick
    have hmem : c ∈ '"' :: fs := hquote ▸ List.mem_append_right _ List.mem_cons_self
    rcases List.mem_cons.mp hmem with rfl | hmem
    · exact absurd hc (by decide)
    · exact absurd hc (by simp [hfs c hmem])

theorem joinWith {sep : List Char} {ls : List (List Char)} (hsep : Guarded sep)
    (hls : ∀ l ∈ ls, Guarded l) : Guarded (Text.joinWith sep ls) := by
  fun_induction Text.joinWith sep ls with
  | case1 => exact of_notMem (by simp)
  | case2 l => exact hls l List.mem_cons_self
  | case3 l l' ls ih =>
    obtain ⟨hl, hls⟩ := List.forall_mem_cons.mp hls
    exact (hl.append hsep).append (ih hls)

theorem forall_modifyHead (cs : List Char) (h : Guarded (cs ++ ds)) :
    ∀ l ∈ (Report.rawLines ds).modifyHead (cs ++ ·), Guarded l := by
  -- the induction is on what is left to read, with any start of the line read so far
  induction ds generalizing cs with
  | nil => simpa [Report.rawLines] using h
  | cons d ds ih =>
    rw [Report.rawLines, List.splitOnP_cons_eq_if_modifyHead, ← Report.rawLines]
    split_ifs with hd
    · rw [List.modifyHead_cons, List.append_nil]
      exact List.forall_mem_cons.mpr
        ⟨h.left, modifyHead_nil_append (Report.rawLines ds) ▸ ih [] (h.behind_break hd)⟩
    · rw [List.append_cons] at h
      simpa [Function.comp_def] using ih (cs ++ [d]) h

/-- **The lines of a text** are guarded like the text. -/
theorem rawLines (h : Guarded cs) : ∀ l ∈ Report.rawLines cs, Guarded l :=
  modifyHead_nil_append (Report.rawLines cs) ▸ forall_modifyHead [] h

/-- **A guarded line closes no fence**: there is a double quote before its first backtick. -/
theorem closesFence_eq_false (h : Guarded cs) : closesFence cs = false := by
  by_contra hclose
  have hhead : (cs.dropWhile (· == ' ')).head? = some '`' := by simpa [closesFence] using hclose
  obtain ⟨after, hafter⟩ := List.head?_eq_some_iff.mp hhead
  obtain ⟨es, fs, hes, -⟩ := h (cs.takeWhile (· == ' ')) after (by
    rw [← hafter, List.takeWhile_append_dropWhile])
  have hblank := List.mem_takeWhile_imp (hes ▸ List.mem_append_right es List.mem_cons_self)
  exact absurd hblank (by decide)

end Guarded

/-! ## JSON documents -/

theorem oneLine_twoHex : ∀ n < 0x20, OneLine (Json.twoHex n) := by decide

theorem oneLine_escapeChar (c : Char) : OneLine (Json.escapeChar c) := by
  fun_cases Json.escapeChar c with
  | case8 c _ _ _ _ _ _ _ hcontrol =>
    exact OneLine.append (by decide) (oneLine_twoHex c.toNat hcontrol)
  | case9 c _ _ hnewline hreturn => simpa [OneLine, isBreak] using ⟨hnewline, hreturn⟩
  | _ => decide

theorem guarded_escape (s : String) : Guarded (Json.escape s) := by
  have hbody : OneLine (s.toList.flatMap Json.escapeChar) := by
    intro d hd
    obtain ⟨c, -, hc⟩ := List.mem_flatMap.mp hd
    exact oneLine_escapeChar c d hc
  have hquote : OneLine ['"'] := by decide
  exact .quoted (hbody.append hquote)

theorem isDigit_of_mem_toString (n : Int) : ∀ c ∈ (toString n).toList, c = '-' ∨ c.isDigit := by
  have hdigits (m : Nat) : ∀ c ∈ m.repr.toList, c.isDigit := by
    intro c hc
    rw [Nat.toList_repr] at hc
    exact Nat.isDigit_of_mem_toDigits (by omega) (by omega) hc
  cases n with
  | ofNat m => exact fun c hc => .inr (hdigits m c hc)
  | negSucc m =>
    have htext : (toString (Int.negSucc m)).toList = '-' :: (m + 1).repr.toList := by
      simp [toString, Int.repr]
    intro c hc
    rw [htext] at hc
    exact (List.mem_cons.mp hc).imp_right (hdigits (m + 1) c)

theorem guarded_toString (n : Int) : Guarded (toString n).toList :=
  .of_notMem fun h => absurd (isDigit_of_mem_toString n '`' h) (by decide)

theorem guarded_word {w : String} (hw : w ∈ ["null", "true", "false"]) : Guarded w.toList := by
  refine .of_notMem ?_
  revert w
  decide

theorem guarded_newLine (level : Nat) : Guarded (Json.newLine level) :=
  .of_notMem (by simp [Json.newLine])

theorem guarded_bracketed {opening closing : Char} (hopening : opening ≠ '`')
    (hclosing : closing ≠ '`') (level : Nat) {ms : List (List Char)} (h : ∀ l ∈ ms, Guarded l) :
    Guarded (Json.bracketed opening closing level ms) := by
  have hone {c : Char} (hc : c ≠ '`') : Guarded [c] := .of_notMem (by simpa using hc.symm)
  cases ms with
  | nil => exact (hone hopening).append (hone hclosing)
  | cons l ls =>
    have hline := guarded_newLine (level + 1)
    have hcomma : Guarded (',' :: Json.newLine (level + 1)) := (hone (by decide)).append hline
    exact ((((hone hopening).append hline).append (.joinWith hcomma h)).append
      (guarded_newLine level)).append (hone hclosing)

mutual

/-- **A JSON document is guarded**: a backtick stands in a quoted text, which is on one line. -/
theorem guarded_layout : (level : Nat) → (v : Value) → Guarded (v.layout level)
  | _, .null => guarded_word (by simp)
  | _, .bool b => guarded_word (w := if b then "true" else "false") (by cases b <;> simp)
  | _, .int n => guarded_toString n
  | _, .text s => guarded_escape s
  | level, .list items =>
    guarded_bracketed (by decide) (by decide) level (guarded_layoutItems (level + 1) items)
  | level, .object entries =>
    guarded_bracketed (by decide) (by decide) level (guarded_layoutEntries (level + 1) entries)

theorem guarded_layoutItems : (level : Nat) → (items : List Value) →
    ∀ l ∈ Value.layoutItems level items, Guarded l
  | _, [] => by simp [Value.layoutItems]
  | level, v :: vs =>
    List.forall_mem_cons.mpr ⟨guarded_layout level v, guarded_layoutItems level vs⟩

theorem guarded_layoutEntries : (level : Nat) → (entries : List (String × Value)) →
    ∀ l ∈ Value.layoutEntries level entries, Guarded l
  | _, [] => by simp [Value.layoutEntries]
  | level, (k, v) :: es =>
    List.forall_mem_cons.mpr ⟨((guarded_escape k).append (.of_notMem (by decide))).append
      (guarded_layout level v), guarded_layoutEntries level es⟩

end

theorem dropNewlines_eq_self {s : String} (h : s.toList.getLast? ≠ some '\n') :
    dropNewlines s = s := by
  have hkeep : s.toList.reverse.dropWhile (· == '\n') = s.toList.reverse := by
    rw [← List.head?_reverse] at h
    cases hs : s.toList.reverse with
    | nil => rfl
    | cons c cs => exact List.dropWhile_cons_of_neg (by simpa [hs] using h)
  rw [dropNewlines, hkeep, List.reverse_reverse, String.ofList_toList]

theorem getLast?_bracketed (opening closing : Char) (level : Nat) (ms : List (List Char)) :
    (Json.bracketed opening closing level ms).getLast? = some closing := by
  cases ms with
  | nil => rfl
  | cons l ls => exact List.getLast?_concat

/-- **A JSON document does not end with a newline.** -/
theorem getLast?_layout_ne (level : Nat) (v : Value) :
    (v.layout level).getLast? ≠ some '\n' := by
  cases v with
  | null => simp [Value.layout]
  | bool b => cases b <;> simp [Value.layout]
  | int n =>
    intro hlast
    exact absurd (isDigit_of_mem_toString n '\n' (List.mem_of_getLast? hlast)) (by decide)
  | text s =>
    have hlast : ((Value.text s).layout level).getLast? = some '"' := List.getLast?_concat
    simp [hlast]
  | list items => simp [Value.layout, getLast?_bracketed]
  | object entries => simp [Value.layout, getLast?_bracketed]

/-! ## Blocks of a report -/

theorem rawLines_intercalate {ls : List String} (h : ls ≠ []) :
    rawLines ("\n".intercalate ls).toList = ls.flatMap fun l => rawLines l.toList := by
  induction ls with
  | nil => exact absurd rfl h
  | cons l ls ih =>
    by_cases hls : ls = []
    · simp [hls]
    · rw [String.intercalate_cons_of_ne_nil hls, List.flatMap_cons, ← ih hls, rawLines, rawLines,
        rawLines, ← List.splitOnP_append_cons _ _ (by decide : isBreak '\n' = true)]
      simp

/-- A document has a section with a text between fences. -/
def HasBlock (document title body : String) : Prop :=
  ∃ before after, rawLines document.toList =
    before ++ rawLines ("## " ++ title).toList ++ [] :: "```json".toList ::
      rawLines body.toList ++ "```".toList :: after

end Report

/-! ## The examples in metadata -/

variable {σ α β : Type}

/-- If a lookup has an answer, then one with a property. -/
def Yields (P : α → Prop) (x : Lookup σ α) : Prop := Gives (fun r => ∀ a, r = .ok a → P a) x.run

theorem Yields.trivial (x : Lookup σ α) : Yields (fun _ => True) x := fun _ _ _ => True.intro

theorem Yields.pure {P : α → Prop} {a : α} (h : P a) : Yields P (Pure.pure a : Lookup σ α) := by
  rintro s _ ⟨⟩
  exact h

theorem Yields.lift {P : α → Prop} {x : StateM σ α} (h : Gives P x) :
    Yields P (liftM x : Lookup σ α) := by
  rintro s _ ⟨⟩
  exact h s

theorem Yields.bind {P : α → Prop} {Q : β → Prop} {x : Lookup σ α} {f : α → Lookup σ β}
    (h : Yields P x) (hf : ∀ a, P a → Yields Q (f a)) : Yields Q (x >>= f) := by
  unfold Yields
  rw [ExceptT.run_bind]
  refine Gives.bind h fun r hr => ?_
  cases r with
  | error err => rintro s _ ⟨⟩
  | ok a => exact hf a (hr a rfl)

namespace Builder

/-- The examples are those below a limit of nesting; they need not exist for all types. -/
def Renders (b : Builder σ) (u : Universe) (limit : Int) : Prop :=
  ∀ d text, b.example? d = some text → text = Example.render u limit d

theorem renders_standard (u : Universe) (docs : Docs σ) (limit : Int) (noDescription : String) :
    (standard u docs limit noDescription).Renders u limit :=
  fun _ _ h => (Option.some.inj h).symm

/-- No text, or a JSON document. -/
def IsExample (text : String) : Prop := text = "" ∨ ∃ v : Value, text = v.pretty

variable {b : Builder σ} {u : Universe} {limit : Int} (hb : b.Renders u limit)
include hb

theorem gives_isExample_addParameter {e : Endpoint} {s : ParameterSummary} (p : Parameter)
    (h : IsExample s.bodyExample) :
    Gives (fun s => IsExample s.bodyExample) (b.addParameter e s p) := by
  unfold addParameter
  split_ifs
  · exact .bind (P := fun _ => True) (fun _ => trivial) fun _ _ => .pure h
  · dsimp only
    cases hexample : b.example? p.type with
    | some text => exact .pure (.inr ⟨_, hb _ _ hexample⟩)
    | none => exact .pure (.inl rfl)
  · exact .bind (P := fun _ => True) (fun _ => trivial) fun _ _ => .pure h

/-- **The examples in metadata** are JSON documents; the one of a body may be missing. -/
theorem yields_build (e : Endpoint) :
    Yields (fun m => IsExample m.bodyExample ∧ IsExample m.responseExample) (b.build e) := by
  have hparameters : Gives (fun s => IsExample s.bodyExample) (b.parameters e) :=
    .foldlM (P := fun _ (s : ParameterSummary) => IsExample s.bodyExample) e.parameters (.inl rfl)
      fun _ p _ _ h => gives_isExample_addParameter hb p h
  have hresponse : IsExample ((b.example? e.response).getD "\x7b\x7d") := by
    cases hexample : b.example? e.response with
    | some text => exact .inr ⟨_, hb _ _ hexample⟩
    | none => exact .inr ⟨.object [], rfl⟩
  unfold build
  refine .bind (.lift hparameters) fun s hs => ?_
  refine .bind (.trivial _) fun _ _ => .bind (.trivial _) fun _ _ => ?_
  exact .bind (.trivial _) fun _ _ => .pure ⟨hs, hresponse⟩

end Builder

namespace Report

open Builder (IsExample)

theorem Guarded.isExample {text : String} (h : IsExample text) : Guarded text.toList := by
  rcases h with rfl | ⟨v, rfl⟩
  · exact .of_notMem (by decide)
  · rw [Value.pretty, String.toList_ofList]
    exact guarded_layout 0 v

theorem dropNewlines_of_isExample {text : String} (h : IsExample text) :
    dropNewlines text = text := by
  refine dropNewlines_eq_self ?_
  rcases h with rfl | ⟨v, rfl⟩
  · decide
  · simpa [Value.pretty] using getLast?_layout_ne 0 v

theorem hasBlock_render {m : Metadata} {actual : Option String} {title body : String}
    (hsection : codeSection title body <:+: lines m actual) (hexample : IsExample body)
    (hbody : body ≠ "") : HasBlock (render m actual) title body := by
  obtain ⟨ls, ls', hlines⟩ := hsection
  have hempty : rawLines [] = [[]] := rfl
  have hopening : rawLines "```json".toList = ["```json".toList] := rfl
  have hclosing : rawLines "```".toList = ["```".toList] := rfl
  refine ⟨ls.flatMap fun l => rawLines l.toList,
    [] :: ls'.flatMap fun l => rawLines l.toList, ?_⟩
  rw [render, ← hlines, codeSection, if_neg hbody, codeBlock, dropNewlines_of_isExample hexample,
    rawLines_intercalate (by simp)]
  simp only [List.flatMap_append, List.flatMap_cons, List.flatMap_nil]
  rw [hopening, hclosing]
  simp [hempty]

/--
**The examples in metadata stay between their fences**, whatever names the types are made of. For
every endpoint, limit of nesting and source, no line of an example closes a fence; the report shows
an example that is there in a section of its own, all of its lines between a line that opens a block
and one that closes it.
-/
theorem build_fenced (b : Builder σ) (u : Universe) (limit : Int) (hb : b.Renders u limit)
    (e : Endpoint) (s : σ) (m : Metadata) (hm : ((b.build e).run.run s).1 = .ok m)
    (actual : Option String) :
    ∀ p ∈ [("Request Example", m.bodyExample), ("Response Example", m.responseExample)],
      (∀ l ∈ rawLines p.2.toList, closesFence l = false) ∧
        (p.2 ≠ "" → HasBlock (render m actual) p.1 p.2) := by
  obtain ⟨hbody, hresponse⟩ := Builder.yields_build hb e s m hm
  have hmore {l ls ls' : List String} (h : l <:+: ls) : l <:+: ls ++ ls' :=
    h.trans (List.prefix_append ls ls').isInfix
  have hrequests : codeSection "Request Example" m.bodyExample <:+: lines m actual :=
    hmore (hmore (hmore (hmore (List.suffix_append _ _).isInfix)))
  have hresponses : codeSection "Response Example" m.responseExample <:+: lines m actual :=
    hmore (hmore (List.suffix_append _ _).isInfix)
  have hcloses {text : String} (h : IsExample text) :
      ∀ l ∈ rawLines text.toList, closesFence l = false := fun l hl =>
    ((Guarded.isExample h).rawLines l hl).closesFence_eq_false
  refine List.forall_mem_cons.mpr ⟨⟨hcloses hbody, hasBlock_render hrequests hbody⟩, ?_⟩
  exact List.forall_mem_singleton.mpr ⟨hcloses hresponse, hasBlock_render hresponses hresponse⟩

/-- A name with lines that close a fence. -/
def fencingName : String := "it\n```\r  ``` \"`"

example : (rawLines fencingName.toList).map closesFence = [false, true, true] := by decide

/-- An endpoint that takes a field of such a name and gives a type of such a name. -/
def fencingEndpoint : Endpoint where
  path := "/fences"
  methods := ["POST"]
  group := "fences"
  owner := none
  handler := "fence"
  parameters := [{
    name := "fence", role := .body, description := "", required := true, default := none
    type := .mk .record "Fence" "Fence" none none
      [{ name := fencingName, type := .any, owner := none, static := false }] }]
  response := .unknown fencingName

theorem build_fenced_fencingName :
    Builder.wordless.Renders .empty 3 ∧
      ∃ m, ((Builder.wordless.build fencingEndpoint).run.run ()).1 = .ok m ∧
        '`' ∈ m.bodyExample.toList ∧
        (∀ l ∈ rawLines m.bodyExample.toList, closesFence l = false) ∧
        HasBlock (render m none) "Request Example" m.bodyExample := by
  have hrenders : Builder.wordless.Renders .empty 3 := Builder.renders_standard .empty _ 3 _
  obtain ⟨m, hm, hname⟩ : ∃ m, ((Builder.wordless.build fencingEndpoint).run.run ()).1 = .ok m ∧
      '`' ∈ m.bodyExample.toList := ⟨_, rfl, by decide +kernel⟩
  have hne : m.bodyExample ≠ "" := by
    intro hempty
    simp [hempty] at hname
  obtain ⟨hlines, hblock⟩ := build_fenced Builder.wordless .empty 3 hrenders fencingEndpoint () m hm
    none ("Request Example", m.bodyExample) List.mem_cons_self
  exact ⟨hrenders, m, hm, hname, hlines, hblock hne⟩

end Report

end EndpointDocs
