import EndpointDocs.CommandLine.Run
import Mathlib.Tactic.Common

/-!
# What stops loading

* `SettingsFault.isTold`, `LoadFault.isTold`: the faults that a command tells in words.
* `Settings.Reader.Escapes`, `load?_escapes_iff`: the settings files on which loading stops
  otherwise, for any parser and any validation.
* `Registry.Escapes`, `load?_escapes_iff`: the same for the target that names a registry, for any
  modules.
* **`CommandLine.run_loading`**: a command loads both, or tells why not, or stops on one of these.
* `Settings.not_load?_told_all`: a file that is no text stops loading without a word.
-/

namespace EndpointDocs

/-- Whether a fault of the settings is one that a command tells in words. -/
def SettingsFault.isTold : SettingsFault → Bool
  | config _ => true
  | notText | noSuchValue | unnamed => false

/-- Whether a fault of a registry is one that a command tells in words. -/
def LoadFault.isTold : LoadFault → Bool
  | missing .. | notARegistry _ => true
  | emptyModule | relativeModule => false

/-! ## Settings -/

namespace Settings

/-- All settings of a map are named by texts. -/
def IsNamed {V : Type} (es : List (Option String × V)) : Prop := ∀ e ∈ es, ∃ name, e.1 = some name

namespace Reader

variable {V : Type} (rd : Reader V)

/-- What is read in a file with a text. -/
def reading (s : String) : Except Yaml.Fault (Loaded V) :=
  rd.parse (String.ofList (Text.unifyLineBreaks s.toList))

/-- The files on which loading stops, and with which fault, though the fault is not told. -/
inductive Escapes : Option (Option ByteArray) → SettingsFault → Prop
  | notText {bytes : ByteArray} : String.fromUTF8? bytes = none →
      Escapes (some (some bytes)) .notText
  | noSuchValue {bytes : ByteArray} {s : String} : String.fromUTF8? bytes = some s →
      rd.reading s = .error .noSuchValue → Escapes (some (some bytes)) .noSuchValue
  | unnamed {bytes : ByteArray} {s : String} {es : List (Option String × V)} :
      String.fromUTF8? bytes = some s → rd.reading s = .ok (.map es) → ¬ IsNamed es →
      Escapes (some (some bytes)) .unnamed

/-- The entries of a file, if one is given. -/
def entries? : Option (Option ByteArray) → Except SettingsFault (List (Option String × V))
  | none => .ok []
  | some none => .error (.config .cannotRead)
  | some (some bytes) => rd.entriesOf bytes

/-- The entries with the overrides of the environment. -/
def overridden (env : List (String × String)) (es : List (Option String × V)) :
    List (Option String × V) :=
  rd.override "cache_mode" (setIn env cacheModeVariable)
    (rd.override "base_url" (setIn env baseUrlVariable) es)

/-- The settings of the entries of a file. -/
def settle (env : List (String × String)) (es : List (Option String × V)) :
    Except SettingsFault Settings := do
  match rd.validate (Entries.ofPairs (← (rd.overridden env es).mapM named)) with
  | .ok s => return s
  | .error errors => throw (.config (.invalid errors))

variable {rd} {file : Option (Option ByteArray)} {env : List (String × String)}
  {bytes : ByteArray} {es : List (Option String × V)} {f : SettingsFault} {s : String}

theorem load?_eq (file : Option (Option ByteArray)) (env : List (String × String)) :
    rd.load? file env = rd.entries? file >>= rd.settle env := by
  rcases file with _ | _ | bytes <;> rfl

/-! ### Names -/

theorem isNamed_override (name : String) (text : Option String) :
    IsNamed (rd.override name text es) ↔ IsNamed es := by
  cases text with
  | none => rfl
  | some s => simp [override, IsNamed, or_imp, forall_and]

theorem isNamed_overridden : IsNamed (rd.overridden env es) ↔ IsNamed es := by
  rw [overridden, isNamed_override, isNamed_override]

theorem mapM_named (h : IsNamed es) : ∃ pairs, es.mapM named = .ok pairs := by
  induction es with
  | nil => exact ⟨[], rfl⟩
  | cons e es ih =>
    obtain ⟨⟨name, hname⟩, hes⟩ := List.forall_mem_cons.mp h
    obtain ⟨pairs, hpairs⟩ := ih hes
    obtain ⟨k, v⟩ := e
    obtain rfl : k = some name := hname
    exact ⟨(name, v) :: pairs, by rw [List.mapM_cons, hpairs]; rfl⟩

theorem mapM_named_of_not (h : ¬ IsNamed es) : es.mapM named = .error .unnamed := by
  induction es with
  | nil => exact absurd (fun _ => nofun) h
  | cons e es ih =>
    rw [List.mapM_cons]
    obtain ⟨k, v⟩ := e
    cases k with
    | none => rfl
    | some name =>
      have hes : ¬ IsNamed es := fun hes => h (List.forall_mem_cons.mpr ⟨⟨name, rfl⟩, hes⟩)
      rw [ih hes]
      rfl

/-- **Entries whose names are texts** give settings or a fault that is told. -/
theorem settle_of_isNamed (env : List (String × String)) (h : IsNamed es) :
    (∃ s, rd.settle env es = .ok s) ∨ ∃ e, rd.settle env es = .error (.config e) := by
  have hnamed : IsNamed (rd.overridden env es) := isNamed_overridden.mpr h
  obtain ⟨pairs, hpairs⟩ := mapM_named hnamed
  rw [settle, hpairs]
  cases hvalid : rd.validate (Entries.ofPairs pairs) with
  | ok s => exact .inl ⟨s, by simp [bind, Except.bind, hvalid]; rfl⟩
  | error errors => exact .inr ⟨.invalid errors, by simp [bind, Except.bind, hvalid]; rfl⟩

theorem settle_of_not_isNamed (env : List (String × String)) (h : ¬ IsNamed es) :
    rd.settle env es = .error .unnamed := by
  rw [settle, mapM_named_of_not (mt isNamed_overridden.mp h)]
  rfl

/-! ### Files -/

/-- The fault of a file whose text is not read. -/
def faultOf : Yaml.Fault → SettingsFault
  | .malformed => .config .notYaml
  | .noSuchValue => .noSuchValue

theorem loaded?_eq {bytes : ByteArray} {s : String} (hs : String.fromUTF8? bytes = some s) :
    rd.loaded? bytes = (rd.reading s).mapError faultOf := by
  rw [loaded?, hs, reading]
  dsimp only
  cases rd.parse (String.ofList (Text.unifyLineBreaks s.toList)) with
  | ok v => rfl
  | error e => cases e <;> rfl

/-- **What a file comes down to**: a fault that is not told, one that is, or entries. -/
theorem entries?_cases (file : Option (Option ByteArray)) :
    (∃ f, rd.entries? file = .error f ∧ f.isTold = false ∧ rd.Escapes file f) ∨
      (∃ e, rd.entries? file = .error (.config e)) ∨
      ∃ es, rd.entries? file = .ok es ∧ (¬ IsNamed es → rd.Escapes file .unnamed) := by
  rcases file with _ | _ | bytes
  · exact .inr (.inr ⟨[], rfl, fun h => absurd (fun _ => nofun) h⟩)
  · exact .inr (.inl ⟨_, rfl⟩)
  · rw [entries?]
    cases hs : String.fromUTF8? bytes with
    | none => exact .inl ⟨.notText, by rw [entriesOf, loaded?, hs]; rfl, rfl, .notText hs⟩
    | some s =>
      rw [entriesOf, loaded?_eq hs]
      cases hread : rd.reading s with
      | error e =>
        cases e with
        | malformed => exact .inr (.inl ⟨.notYaml, rfl⟩)
        | noSuchValue => exact .inl ⟨.noSuchValue, rfl, rfl, .noSuchValue hs hread⟩
      | ok v =>
        cases v with
        | nothing => exact .inr (.inr ⟨[], rfl, fun h => absurd (fun _ => nofun) h⟩)
        | map es => exact .inr (.inr ⟨es, rfl, .unnamed hs hread⟩)
        | other => exact .inr (.inl ⟨.notAMap, rfl⟩)

/-- **The files on which loading stops with a fault that is not told.** -/
theorem load?_escapes_iff :
    (rd.load? file env = .error f ∧ f.isTold = false) ↔ rd.Escapes file f := by
  rw [load?_eq]
  constructor
  · rintro ⟨hload, hf⟩
    obtain ⟨f', hentries, -, hescapes⟩ | ⟨e, hentries⟩ | ⟨es, hentries, hescapes⟩ :=
      entries?_cases file <;> rw [hentries] at hload
    · cases hload
      exact hescapes
    · cases hload
      cases hf
    · replace hload : rd.settle env es = .error f := hload
      by_cases hnamed : IsNamed es
      · obtain ⟨s, hs⟩ | ⟨e, he⟩ := settle_of_isNamed env hnamed
        · cases hs.symm.trans hload
        · cases he.symm.trans hload
          cases hf
      · cases (settle_of_not_isNamed env hnamed).symm.trans hload
        exact hescapes hnamed
  · rintro (@⟨bytes, hs⟩ | @⟨bytes, s, hs, hread⟩ | @⟨bytes, s, es, hs, hread, hnamed⟩)
    · exact ⟨by rw [entries?, entriesOf, loaded?, hs]; rfl, rfl⟩
    · exact ⟨by rw [entries?, entriesOf, loaded?_eq hs, hread]; rfl, rfl⟩
    · have hentries : rd.entries? (some (some bytes)) = .ok es := by
        rw [entries?, entriesOf, loaded?_eq hs, hread]
        rfl
      rw [hentries]
      exact ⟨settle_of_not_isNamed env hnamed, rfl⟩

end Reader

/-- **Not every fault of a file is told**: a file that is no text stops loading otherwise. -/
theorem not_load?_told_all : ¬ ∀ (V : Type) (rd : Reader V) (file : Option (Option ByteArray))
    (env : List (String × String)),
      (∃ s, rd.load? file env = .ok s) ∨ ∃ e, rd.load? file env = .error (.config e) := by
  intro h
  have hbroken : Reader.raw.Escapes (some (some ⟨#[0xff]⟩)) .notText := .notText (by decide +kernel)
  have hload : Reader.raw.load? (some (some ⟨#[0xff]⟩)) [] = .error .notText :=
    (Reader.load?_escapes_iff.mpr hbroken).1
  obtain ⟨s, hs⟩ | ⟨e, he⟩ := h Raw .raw (some (some ⟨#[0xff]⟩)) []
  · cases hs.symm.trans hload
  · cases he.symm.trans hload

end Settings

/-! ## Registries -/

namespace Registry

variable {modules : String → Except MissingModule LoadedModule} {target : String} {f : LoadFault}

/-- The targets on which loading stops, and with which fault, though the fault is not told. -/
inductive Escapes : String → LoadFault → Prop
  | emptyModule {target : String} : (∀ c ∈ target.toList.head?, c = ':') →
      Escapes target .emptyModule
  | relativeModule {target : String} : target.toList.head? = some '.' →
      Escapes target .relativeModule

theorem toList_module (target : String) :
    (splitTarget target).1.toList = target.toList.takeWhile (· != ':') := String.toList_ofList

theorem module_eq_empty_iff :
    (splitTarget target).1 = "" ↔ ∀ c ∈ target.toList.head?, c = ':' := by
  rw [← String.toList_inj, toList_module]
  cases target.toList with
  | nil => simp
  | cons c cs => by_cases hc : c = ':' <;> simp [hc]

theorem startsWith_module_iff :
    (splitTarget target).1.startsWith "." = true ↔ target.toList.head? = some '.' := by
  rw [String.startsWith_string_iff, toList_module]
  cases target.toList with
  | nil => simp
  | cons c cs =>
    by_cases hc : c = ':'
    · subst hc
      simp
    · have hkeep : (c :: cs).takeWhile (· != ':') = c :: cs.takeWhile (· != ':') :=
        List.takeWhile_cons_of_pos (by simpa using hc)
      simpa [hkeep, List.cons_prefix_cons] using eq_comm

/-- **The targets on which loading stops with a fault that is not told.** -/
theorem load?_escapes_iff :
    (load? modules target = .error f ∧ f.isTold = false) ↔ Escapes target f := by
  rw [load?]
  dsimp only
  constructor
  · rintro ⟨hload, hf⟩
    split at hload
    next hempty =>
      cases hload
      exact .emptyModule (module_eq_empty_iff.mp hempty)
    next =>
      split at hload
      next hrelative =>
        cases hload
        exact .relativeModule (startsWith_module_iff.mp hrelative)
      next =>
        split at hload
        next =>
          cases hload
          cases hf
        next =>
          split at hload <;> cases hload
          cases hf
  · rintro (⟨hempty⟩ | ⟨hrelative⟩)
    · rw [if_pos (module_eq_empty_iff.mpr hempty)]
      exact ⟨rfl, rfl⟩
    · have hname : (splitTarget target).1 ≠ "" := fun h =>
        absurd (module_eq_empty_iff.mp h '.' hrelative) (by decide)
      rw [if_neg hname, if_pos (startsWith_module_iff.mpr hrelative)]
      exact ⟨rfl, rfl⟩

end Registry

/-! ## Commands -/

namespace CommandLine

/-- The settings file of a command, if one is named. -/
def Command.file (place : String → Place) (c : Command) : Option (Option ByteArray) :=
  c.config.map fun path => (place path).bytes?

/-- The outcome of a command by what is loaded; the path of the settings file is told. -/
def outcomeOf (next : Settings → Registry → Outcome) (path : String) :
    Except SettingsFault Settings → Except LoadFault Registry → Outcome
  | .error (.config e), _ => .failure ("Error: " ++ e.message path)
  | .error e, _ => .crashed (.settings e)
  | _, .error .emptyModule => .crashed (.load .emptyModule)
  | _, .error .relativeModule => .crashed (.load .relativeModule)
  | _, .error e => .failure ("Error: " ++ e.message)
  | .ok s, .ok r => next s r

theorem start_eq {V : Type} (l : Loader V) (place : String → Place)
    (env : List (String × String)) (c : Command) (next : Settings → Registry → Outcome) :
    c.start (m := Id) place l env next = outcomeOf next (tidyPath (c.config.getD ""))
      (l.reader.load? (c.file place) env) (Registry.load? l.modules c.app) := by
  obtain ⟨action, app, config, baseUrl, output⟩ := c
  cases config with
  | none => rfl
  | some path => rfl

/--
**What stops a command while it loads.** Take any parser of settings files, any validation, any
modules that can be imported and anything that a command does next. For every settings file,
environment and target, settings and registry are both loaded and the command goes on, or it fails
with the words of a fault of the one or the other, or it stops without a word. Settings stop it so
just if the file is no text, has a value that does not exist, or has a setting whose name is no
text; a target just if it names no module or a relative one.
-/
theorem run_loading {V : Type} (l : Loader V) (place : String → Place)
    (env : List (String × String)) (c : Command) (next : Settings → Registry → Outcome) :
    let settings := l.reader.load? (c.file place) env
    let registry := Registry.load? l.modules c.app
    let outcome := c.start (m := Id) place l env next
    (∀ f, (settings = .error f ∧ f.isTold = false) ↔ l.reader.Escapes (c.file place) f) ∧
    (∀ f, (registry = .error f ∧ f.isTold = false) ↔ Registry.Escapes c.app f) ∧
    ((∃ s r, settings = .ok s ∧ registry = .ok r ∧ outcome = next s r) ∨
      (∃ e, settings = .error (.config e) ∧
        outcome = .failure ("Error: " ++ e.message (tidyPath (c.config.getD "")))) ∨
      (∃ s e, settings = .ok s ∧ registry = .error e ∧
        outcome = .failure ("Error: " ++ e.message)) ∨
      (∃ f, l.reader.Escapes (c.file place) f ∧ outcome = .crashed (.settings f)) ∨
      ∃ f, Registry.Escapes c.app f ∧ outcome = .crashed (.load f)) := by
  intro settings registry outcome
  refine ⟨fun f => Settings.Reader.load?_escapes_iff, fun f => Registry.load?_escapes_iff, ?_⟩
  have hrun : outcome = outcomeOf next (tidyPath (c.config.getD "")) settings registry :=
    start_eq l place env c next
  rw [hrun]
  cases hs : settings with
  | error f =>
    cases f with
    | config e => exact .inr (.inl ⟨e, rfl, rfl⟩)
    | _ =>
      exact .inr (.inr (.inr (.inl ⟨_, Settings.Reader.load?_escapes_iff.mp ⟨hs, rfl⟩, rfl⟩)))
  | ok s =>
    cases hr : registry with
    | ok r => exact .inl ⟨s, r, rfl, rfl, rfl⟩
    | error f =>
      cases f with
      | missing | notARegistry => exact .inr (.inr (.inl ⟨s, _, rfl, rfl, rfl⟩))
      | _ =>
        exact .inr (.inr (.inr (.inr ⟨_, Registry.load?_escapes_iff.mp ⟨hr, rfl⟩, rfl⟩)))

end CommandLine

end EndpointDocs
