import EndpointDocs.Proofs.Dashboard.Modes
import EndpointDocs.Proofs.Text.Blank
import Mathlib.Algebra.Order.BigOperators.Group.List

/-!
# Lookup by a key

A key is read as a URL, as a path, and as a method and a path, at each entry before the next one.

* `Reads`: a key is a method and a path; `Serves`: what an entry answers to.
* `isMeant_iff`: what a key means, reading by reading.
* `IsFirst`: the first entry of which something holds; an answer is the first entry that is meant.
* **`find_method_path`**: what is found by a method and a path, unless the key is a path or a URL.
* `Eclipsed`: an entry with another path stands before all entries with a path.
* **`find_path_url`**: what is found by the path, and by the URL, of an entry.
-/

namespace EndpointDocs

open Text (trim toCapitals Blank Solid)

variable {key method path : String} {m : Metadata}

/-! ## Methods and paths -/

/-- A key is a method and a path: the word before its first space, and what follows. -/
def Reads (key method path : String) : Prop :=
  ∃ rest, trim key.toList = method.toList ++ ' ' :: rest ∧ ' ' ∉ method.toList ∧
    trim rest = path.toList ∧ path ≠ ""

/-- Metadata is at a path, and takes a method in capitals or any method. -/
def Serves (method path : String) (m : Metadata) : Prop :=
  m.path = path ∧ (m.endpoint.methods = [] ∨
    String.ofList (toCapitals method.toList) ∈ m.endpoint.methods)

instance : Decidable (Serves method path m) := inferInstanceAs (Decidable (_ ∧ (_ ∨ _)))

/-- The case of the ASCII letters of a method does not matter. -/
theorem serves_congr {word : String}
    (h : word.toList.map Char.toUpper = method.toList.map Char.toUpper) :
    Serves word path m ↔ Serves method path m := by
  have hcapitals : toCapitals word.toList = toCapitals method.toList := by
    rw [← Text.toCapitals_map_toUpper, h, Text.toCapitals_map_toUpper]
  rw [Serves, Serves, hcapitals]

theorem splitKey_of_cut {cs rest : List Char} (h : trim key.toList = cs ++ ' ' :: rest)
    (hcs : ' ' ∉ cs) : splitKey key = (toCapitals cs, trim rest) := by
  have hword : ∀ c ∈ cs, (c != ' ') = true := fun c hc =>
    bne_iff_ne.mpr fun heq => hcs (heq ▸ hc)
  rw [splitKey, h, List.takeWhile_append_of_pos hword, List.dropWhile_append_of_pos hword]
  simp

theorem splitKey_of_not_mem (h : ' ' ∉ trim key.toList) :
    splitKey key = (toCapitals (trim key.toList), []) := by
  have hword : ∀ c ∈ trim key.toList, (c != ' ') = true := fun c hc =>
    bne_iff_ne.mpr fun heq => h (heq ▸ hc)
  rw [splitKey, List.takeWhile_eq_self_iff.mpr hword, List.dropWhile_eq_nil_iff.mpr hword]
  rfl

theorem Reads.splitKey_eq (h : Reads key method path) :
    splitKey key = (toCapitals method.toList, path.toList) := by
  obtain ⟨rest, hcut, hspace, hpath, -⟩ := h
  rw [splitKey_of_cut hcut hspace, hpath]

theorem Reads.mem (h : Reads key method path) : ' ' ∈ key.toList := by
  obtain ⟨rest, hcut, -⟩ := h
  refine (Text.trim_sublist _).subset (hcut ▸ ?_)
  exact List.mem_append_right _ List.mem_cons_self

theorem Reads.path_ne (h : Reads key method path) : path ≠ "" := by
  obtain ⟨rest, -, -, -, hne⟩ := h
  exact hne

/-- A key is a method and a path, or nothing follows its first space. -/
theorem reads_or_nil (key : String) : (∃ method path, Reads key method path) ∨
    (splitKey key).2 = [] ∧ ∀ method path, ¬ Reads key method path := by
  suffices h : (∃ method path, Reads key method path) ∨ (splitKey key).2 = [] by
    refine h.imp_right fun hnil => ⟨hnil, fun method path hreads => hreads.path_ne ?_⟩
    rwa [hreads.splitKey_eq, String.toList_eq_nil_iff] at hnil
  by_cases hmem : ' ' ∈ trim key.toList
  · obtain ⟨cs, rest, hcut, hcs⟩ := List.eq_append_cons_of_mem hmem
    by_cases hrest : trim rest = []
    · exact .inr (by rw [splitKey_of_cut hcut hcs, hrest])
    · refine .inl ⟨.ofList cs, .ofList (trim rest), rest, ?_, ?_, ?_, ?_⟩
      · rw [hcut, String.toList_ofList]
      · rwa [String.toList_ofList]
      · rw [String.toList_ofList]
      · rwa [Ne, ← String.toList_eq_nil_iff, String.toList_ofList]
  · exact .inr (by rw [splitKey_of_not_mem hmem])

/-- All ways to read a key as a method and a path are served by the same entries. -/
theorem Reads.serves_iff (h : Reads key method path) :
    (∃ method', Reads key method' m.path ∧ Serves method' m.path m) ↔ Serves method path m := by
  constructor
  · rintro ⟨method', h', -, hmethods⟩
    obtain ⟨hmethod, hpath⟩ := Prod.mk.inj (h.splitKey_eq.symm.trans h'.splitKey_eq)
    exact ⟨(String.toList_inj.mp hpath).symm, hmethod ▸ hmethods⟩
  · rintro ⟨rfl, hmethods⟩
    exact ⟨method, h, rfl, hmethods⟩

/-- A key is spelled as a method and a path, with spaces between them and blanks around them. -/
def Spells (key method path : String) : Prop :=
  ∃ front n back, Blank front ∧ Blank back ∧
    key.toList = front ++ method.toList ++ List.replicate (n + 1) ' ' ++ path.toList ++ back

theorem Spells.reads (h : Spells key method path) (hmethod : Solid method.toList)
    (hpath : path ≠ "") (htrim : trim path.toList = path.toList) : Reads key method path := by
  obtain ⟨front, n, back, hfront, hback, hkey⟩ := h
  have hne : path.toList ≠ [] := fun hnil => hpath (String.toList_eq_nil_iff.mp hnil)
  have hspaces : Blank (List.replicate n ' ') := fun c hc => List.eq_of_mem_replicate hc ▸ rfl
  refine ⟨List.replicate n ' ' ++ path.toList, ?_, fun hmem => ?_, ?_, hpath⟩
  · have hcut : key.toList =
        front ++ (method.toList ++ ' ' :: (List.replicate n ' ' ++ path.toList) ++ back) := by
      rw [hkey, List.replicate_succ]
      simp
    rw [hcut, Text.trim_blank_append hfront, Text.trim_append_blank hback,
      Text.trim_eq_self_iff (by simp)]
    constructor
    · rw [List.head_append_of_ne_nil hmethod.ne_nil]
      exact hmethod.unblank _ (List.head_mem _)
    · simpa [hne] using ((Text.trim_eq_self_iff hne).mp htrim).2
  · exact absurd (hmethod.unblank _ hmem) (by decide)
  · rw [Text.trim_blank_append hspaces, htrim]

/-! ## What a key means -/

/-- A key is the URL of metadata, its path, or a method and its path. -/
def Index.Means (i : Index) (key : String) (m : Metadata) : Prop :=
  key = i.urlOf m ∨ key = m.path ∨ ∃ method, Reads key method m.path ∧ Serves method m.path m

theorem accepts_iff (e : Endpoint) (method : String) :
    e.accepts method = true ↔ e.methods = [] ∨ method ∈ e.methods := by
  rw [Endpoint.accepts, Bool.or_eq_true, List.isEmpty_iff, List.contains_iff_mem]

/-- **What a key means**, reading by reading. -/
theorem isMeant_iff (i : Index) : i.isMeant key m = true ↔ i.Means key m := by
  have hreading : (!(splitKey key).2.isEmpty && String.ofList (splitKey key).2 == m.path &&
      m.endpoint.accepts (.ofList (splitKey key).1)) = true ↔
        ∃ method, Reads key method m.path ∧ Serves method m.path m := by
    rcases reads_or_nil key with ⟨method, path, h⟩ | ⟨hnil, hnone⟩
    · have hne : path.toList ≠ [] := fun hnil => h.path_ne (String.toList_eq_nil_iff.mp hnil)
      rw [h.serves_iff, h.splitKey_eq, Serves]
      simp only [Bool.and_eq_true, Bool.not_eq_true', List.isEmpty_eq_false_iff, beq_iff_eq,
        String.ofList_toList, accepts_iff]
      rw [and_iff_right hne, eq_comm]
    · simp [hnil, hnone]
  rw [Index.isMeant, Bool.or_eq_true, Bool.or_eq_true, hreading, beq_iff_eq, beq_iff_eq, or_assoc,
    Index.Means]

/-! ## The first entry -/

/-- The first of some metadata of which something holds. -/
def IsFirst (P : Metadata → Prop) (ms : List Metadata) (m : Metadata) : Prop :=
  P m ∧ ∃ before after, ms = before ++ m :: after ∧ ∀ n ∈ before, ¬ P n

variable {P Q : Metadata → Prop} {ms : List Metadata}

theorem IsFirst.mem (h : IsFirst P ms m) : m ∈ ms := by
  obtain ⟨-, before, after, rfl, -⟩ := h
  exact List.mem_append_right _ List.mem_cons_self

theorem IsFirst.imp (h : ∀ n ∈ ms, P n ↔ Q n) (hm : IsFirst P ms m) : IsFirst Q ms m := by
  obtain ⟨hp, before, after, rfl, hbefore⟩ := hm
  refine ⟨(h m (by simp)).mp hp, before, after, rfl, fun n hn hq => hbefore n hn ?_⟩
  exact (h n (List.mem_append_left _ hn)).mpr hq

/-- Metadata with another path that clashes stands before all metadata with a path. -/
def Eclipsed (path : String) (Clashes : Metadata → Prop) (ms : List Metadata) : Prop :=
  ∃ before m after, ms = before ++ m :: after ∧ Clashes m ∧ m.path ≠ path ∧
    ∀ n ∈ before, n.path ≠ path

/-- Of two entries of a list, one stands before the other. -/
theorem mem_or_mem_of_append_eq {n : Metadata} {before after before' after' : List Metadata}
    (h : before ++ m :: after = before' ++ n :: after') (hne : m ≠ n) :
    m ∈ before' ∨ n ∈ before := by
  rcases List.append_eq_append_iff.mp h with ⟨between, rfl, hcut⟩ | ⟨between, rfl, hcut⟩
  · rcases List.cons_eq_append_iff.mp hcut with ⟨-, hcut⟩ | ⟨between, rfl, -⟩
    · exact absurd (List.cons.inj hcut).1.symm hne
    · exact .inl (by simp)
  · rcases List.cons_eq_append_iff.mp hcut with ⟨-, hcut⟩ | ⟨between, rfl, -⟩
    · exact absurd (List.cons.inj hcut).1 hne
    · exact .inr (by simp)

/-- What comes first in a list where something holds of all entries at a path: such an entry, or one
that eclipses the path. -/
theorem IsFirst.path_eq_iff (h : ∀ n ∈ ms, n.path = path → P n) (hm : IsFirst P ms m) :
    m.path = path ↔ ¬ Eclipsed path P ms := by
  obtain ⟨hp, before, after, rfl, hbefore⟩ := hm
  constructor
  · rintro hpath ⟨before', n, after', heq, hn, hne, hbefore'⟩
    rcases mem_or_mem_of_append_eq heq (fun hmn => hne (hmn ▸ hpath)) with hmem | hmem
    · exact hbefore' m hmem hpath
    · exact hbefore n hmem hn
  · intro heclipsed
    by_contra hne
    refine heclipsed ⟨before, m, after, rfl, hp, hne, fun n hn hpath => hbefore n hn ?_⟩
    exact h n (List.mem_append_left _ hn) hpath

theorem Eclipsed.imp (h : ∀ n ∈ ms, n.path ≠ path → P n → Q n) (hp : Eclipsed path P ms) :
    Eclipsed path Q ms := by
  obtain ⟨before, m, after, rfl, hm, hne, hbefore⟩ := hp
  exact ⟨before, m, after, rfl, h m (by simp) hne hm, hne, hbefore⟩

/-! ## Answers -/

namespace Index

variable {i : Index}

/-- **An answer is the first entry that is meant.** -/
theorem find?_eq_some_iff : i.find? key = some m ↔ IsFirst (i.Means key) i.all m := by
  have hnot : ∀ n, (!i.isMeant key n) = true ↔ ¬ i.Means key n := fun n => by
    rw [Bool.not_eq_true', ← Bool.not_eq_true, isMeant_iff]
  simp only [find?, List.find?_eq_some_iff_append, isMeant_iff, hnot, IsFirst]

theorem find?_eq_none_iff : i.find? key = none ↔ ∀ m ∈ i.all, ¬ i.Means key m := by
  simp only [find?, List.find?_eq_none, isMeant_iff]

theorem exists_find?_of_means (hm : m ∈ i.all) (hmeans : i.Means key m) :
    ∃ n, i.find? key = some n := by
  refine Option.ne_none_iff_exists'.mp fun hnone => ?_
  exact find?_eq_none_iff.mp hnone m hm hmeans

/-! ## Keys of a method and a path -/

/-- No entry has a key as its path or as its URL. -/
def Unclaimed (i : Index) (key : String) : Prop := ∀ m ∈ i.all, m.path ≠ key ∧ i.urlOf m ≠ key

instance : Decidable (i.Unclaimed key) := List.decidableBAll _ i.all

/-- **There is always a key** for a method and a path that nobody has as a path or a URL: one with
more spaces than these are long. -/
theorem exists_unclaimed (i : Index) (method path : String) :
    ∃ key, Spells key method path ∧ i.Unclaimed key := by
  let longest := (i.all.map fun m => (i.urlOf m).length).sum
  have hbound : ∀ m ∈ i.all, (i.urlOf m).length ≤ longest := fun m hm =>
    List.single_le_sum (fun _ _ => Nat.zero_le _) _ (List.mem_map_of_mem hm)
  let key := method.toList ++ List.replicate (longest + 1) ' ' ++ path.toList
  have hlonger : ∀ s : String, s.length ≤ longest → s ≠ .ofList key := by
    rintro s hs rfl
    rw [String.length_ofList, List.length_append, List.length_append, List.length_replicate] at hs
    omega
  refine ⟨.ofList key, ⟨[], longest, [], nofun, nofun, by simp [key]⟩, fun m hm => ⟨?_, ?_⟩⟩
  · refine hlonger _ (le_trans ?_ (hbound m hm))
    rw [urlOf, String.length_append]
    exact Nat.le_add_left _ _
  · exact hlonger _ (hbound m hm)

/-- A dashboard answers from its index. -/
theorem run_find (key : String) (baseUrl : Option String) (d : Dashboard) :
    ((Dashboard.find key baseUrl).run.run d).1 =
      ((Dashboard.index baseUrl).run.run d).1.map (·.find? key) := by
  rw [Dashboard.find_eq, Dashboard.run_map]

theorem Unclaimed.means_iff (h : i.Unclaimed key) (hreads : Reads key method path)
    (hm : m ∈ i.all) : i.Means key m ↔ Serves method path m := by
  rw [Means, hreads.serves_iff, or_iff_right (h m hm).2.symm, or_iff_right (h m hm).1.symm]

/--
**A method and a path** in a key that is no path and no URL of an entry, with the method in any case
of its ASCII letters: the answer is the first entry at the path that takes the method in capitals,
or any method, and there is none if no entry does. So an entry that is alone in this is found; there
is always such a key.
-/
theorem find_method_path (i : Index) {word method path : String} (hword : Solid word.toList)
    (hcase : word.toList.map Char.toUpper = method.toList.map Char.toUpper) (hpath : path ≠ "")
    (htrim : trim path.toList = path.toList) :
    (∀ key, Spells key word path → i.Unclaimed key →
      (∀ m, i.find? key = some m ↔ IsFirst (Serves method path) i.all m) ∧
      (i.find? key = none ↔ ∀ m ∈ i.all, ¬ Serves method path m) ∧
      (∀ m ∈ i.all, Serves method path m → (∀ n ∈ i.all, Serves method path n → n = m) →
        i.find? key = some m) ∧
      ∀ d baseUrl, ((Dashboard.index baseUrl).run.run d).1 = .ok i →
        ((Dashboard.find key baseUrl).run.run d).1 = .ok (i.find? key)) ∧
    ∃ key, Spells key word path ∧ i.Unclaimed key := by
  refine ⟨fun key hspells hkey => ?_, exists_unclaimed i word path⟩
  have hmeans : ∀ m ∈ i.all, (i.Means key m ↔ Serves method path m) := fun m hm =>
    (hkey.means_iff (hspells.reads hword hpath htrim) hm).trans (serves_congr hcase)
  have hsome : ∀ m, i.find? key = some m ↔ IsFirst (Serves method path) i.all m := fun m =>
    find?_eq_some_iff.trans ⟨.imp hmeans, .imp fun n hn => (hmeans n hn).symm⟩
  refine ⟨hsome, ?_, fun m hm hserves halone => ?_, fun d baseUrl hi => ?_⟩
  · exact find?_eq_none_iff.trans (forall₂_congr fun m hm => not_congr (hmeans m hm))
  · obtain ⟨n, hn⟩ := exists_find?_of_means hm ((hmeans m hm).mpr hserves)
    have hfirst := (hsome n).mp hn
    rw [hn, halone n hfirst.mem hfirst.1]
  · rw [run_find, hi]
    rfl

/-- Metadata of an endpoint of which only the path and the methods matter. -/
def plainEntry (path : String) (methods : List String) : Metadata where
  endpoint := ⟨path, methods, "", none, "", [], .unknown ""⟩
  groupName := ""
  contentType := "FORM"
  bodyExample := ""
  parameters := []
  responseExample := ""
  responseFields := []
  description := ""

/-- Two endpoints at one path. -/
def filesIndex : Index :=
  ⟨"/api", [("files", [plainEntry "/my files" ["POST"], plainEntry "/my files" ["GET"]])]⟩

theorem find_method_path_filesIndex :
    Solid "Get".toList ∧ "Get".toList.map Char.toUpper = "GET".toList.map Char.toUpper ∧
      "/my files" ≠ "" ∧ trim "/my files".toList = "/my files".toList ∧
      Spells "\tGet  /my files\n" "Get" "/my files" ∧ filesIndex.Unclaimed "\tGet  /my files\n" ∧
      filesIndex.find? "\tGet  /my files\n" = some (plainEntry "/my files" ["GET"]) := by
  have hword : Solid "Get".toList := by decide
  have hcase : "Get".toList.map Char.toUpper = "GET".toList.map Char.toUpper := by decide
  have htrim : trim "/my files".toList = "/my files".toList := by decide
  have hspells : Spells "\tGet  /my files\n" "Get" "/my files" :=
    ⟨['\t'], 1, ['\n'], by decide, by decide, by decide⟩
  have hkey : filesIndex.Unclaimed "\tGet  /my files\n" := by decide
  have hfirst : IsFirst (Serves "GET" "/my files") filesIndex.all
      (plainEntry "/my files" ["GET"]) :=
    ⟨by decide, [plainEntry "/my files" ["POST"]], [], rfl, by decide⟩
  obtain ⟨hfind, -⟩ := find_method_path filesIndex hword hcase (by decide) htrim
  exact ⟨hword, hcase, by decide, htrim, hspells, hkey, ((hfind _ hspells hkey).1 _).mpr hfirst⟩

/-! ## Paths and URLs -/

/-- An answer to a key that means an entry and all others at its path. -/
theorem exists_find?_path_iff (key : String) (P : Metadata → Prop) (hm : m ∈ i.all)
    (hmeans : ∀ n, n.path = m.path → i.Means key n)
    (hclash : ∀ n, n.path ≠ m.path → (i.Means key n ↔ P n)) :
    ∃ n, i.find? key = some n ∧ (n.path = m.path ↔ ¬ Eclipsed m.path P i.all) := by
  obtain ⟨n, hn⟩ := exists_find?_of_means hm (hmeans m rfl)
  refine ⟨n, hn, ((find?_eq_some_iff.mp hn).path_eq_iff fun n _ => hmeans n).trans (not_congr ?_)⟩
  exact ⟨.imp fun n _ hne => (hclash n hne).mp, .imp fun n _ hne => (hclash n hne).mpr⟩

/-- URLs and paths are apart: the base URL is empty, or has no space and starts no path. -/
def Apart (i : Index) : Prop :=
  i.baseUrl = "" ∨ ' ' ∉ i.baseUrl.toList ∧ ∀ m ∈ i.all, ¬ i.baseUrl.toList <+: m.path.toList

theorem Apart.path_eq (h : i.Apart) {n : Metadata} (hn : n ∈ i.all) (heq : i.urlOf m = n.path) :
    m.path = n.path := by
  rcases h with hbase | ⟨-, hstart⟩
  · rw [← heq, urlOf, hbase, String.empty_append]
  · refine absurd ⟨m.path.toList, ?_⟩ (hstart n hn)
    rw [← heq, urlOf, String.toList_append]

theorem Apart.not_mem (h : i.Apart) : ' ' ∉ i.baseUrl.toList := by
  rcases h with hbase | ⟨hspace, -⟩
  · rw [hbase]
    exact List.not_mem_nil
  · exact hspace

/--
**The path and the URL of an entry** without a space in its path. Both find an entry. It is at the
path unless an entry at another path stands before all entries at it, and has the path as its URL,
or the URL as its path, or is meant by the URL as a method and a path. No such entry is there if
URLs and paths are apart.
-/
theorem find_path_url (i : Index) (hm : m ∈ i.all) (hspace : ' ' ∉ m.path.toList) :
    (∃ n, i.find? m.path = some n ∧
      (n.path = m.path ↔ ¬ Eclipsed m.path (fun n => i.urlOf n = m.path) i.all)) ∧
    (∃ n, i.find? (i.urlOf m) = some n ∧
      (n.path = m.path ↔ ¬ Eclipsed m.path (fun n => n.path = i.urlOf m ∨
        ∃ method, Reads (i.urlOf m) method n.path ∧ Serves method n.path n) i.all)) ∧
    (i.Apart → (∃ n, i.find? m.path = some n ∧ n.path = m.path) ∧
      ∃ n, i.find? (i.urlOf m) = some n ∧ n.path = m.path) := by
  have hreads : ∀ method path, ¬ Reads m.path method path := fun _ _ h => hspace h.mem
  have hurl : ∀ n, i.urlOf m = i.urlOf n ↔ m.path = n.path := fun n => String.append_right_inj _
  obtain ⟨n, hn, hpath⟩ := exists_find?_path_iff m.path (fun n => i.urlOf n = m.path) hm
    (fun n hpath => .inr (.inl hpath.symm)) fun n hne => by
      simp [Means, hreads, hne.symm, eq_comm]
  obtain ⟨n', hn', hpath'⟩ := exists_find?_path_iff (i.urlOf m) (fun n => n.path = i.urlOf m ∨
      ∃ method, Reads (i.urlOf m) method n.path ∧ Serves method n.path n) hm
    (fun n hpath => .inl ((hurl n).mpr hpath.symm)) fun n hne => by
      rw [Means, hurl, or_iff_right hne.symm, eq_comm]
  refine ⟨⟨n, hn, hpath⟩, ⟨n', hn', hpath'⟩, fun hapart => ⟨⟨n, hn, ?_⟩, ⟨n', hn', ?_⟩⟩⟩
  · refine hpath.mpr fun ⟨_, x, _, hall, hclash, hne, _⟩ => hne ?_
    exact hapart.path_eq hm hclash
  · refine hpath'.mpr fun ⟨_, x, _, hall, hclash, hne, _⟩ => hne ?_
    rcases hclash with hclash | ⟨method, hmethod, -⟩
    · exact (hapart.path_eq (hall ▸ by simp) hclash.symm).symm
    · have hmem := hmethod.mem
      rw [urlOf, String.toList_append, List.mem_append] at hmem
      exact absurd hmem (not_or.mpr ⟨hapart.not_mem, hspace⟩)

/-- Two endpoints, one of them at the URL of the other. -/
def crossedIndex : Index :=
  ⟨"/api", [("a", [plainEntry "/users" ["GET"]]), ("b", [plainEntry "/api/users" ["GET"]])]⟩

/-- Either endpoint is found by its URL; at the path of the second, the first is found. -/
theorem find_path_url_crossedIndex : plainEntry "/api/users" ["GET"] ∈ crossedIndex.all ∧
    ' ' ∉ "/api/users".toList ∧
    (∃ n, crossedIndex.find? "/api/users" = some n ∧ n.path ≠ "/api/users") ∧
    ∃ n, crossedIndex.find? "/api/api/users" = some n ∧ n.path = "/api/users" := by
  have hmem : plainEntry "/api/users" ["GET"] ∈ crossedIndex.all := .tail _ (.head _)
  have hspace : ' ' ∉ "/api/users".toList := by decide
  obtain ⟨⟨n, hn, hpath⟩, ⟨n', hn', hpath'⟩, -⟩ := find_path_url crossedIndex hmem hspace
  refine ⟨hmem, hspace, ⟨n, hn, fun heq => hpath.mp heq ?_⟩, n', hn', hpath'.mpr ?_⟩
  · exact ⟨[], plainEntry "/users" ["GET"], _, rfl, by decide, by decide, nofun⟩
  · rintro ⟨before, x, after, hall, hclash | ⟨method, hreads, -⟩, -⟩
    · have hnone : ∀ x ∈ crossedIndex.all, x.path ≠ "/api/api/users" := by decide
      exact hnone x (hall ▸ by simp) hclash
    · exact absurd hreads.mem (by decide)

/-- Where the URL of an entry is the path of another one, no lookup at all finds each of them by its
path and by its URL. -/
theorem not_lookup (lookup : String → Option Metadata) {n : Metadata} (heq : i.urlOf m = n.path)
    (hne : m.path ≠ n.path) :
    ¬ ((∃ x, lookup (i.urlOf m) = some x ∧ x.path = m.path) ∧
      ∃ x, lookup n.path = some x ∧ x.path = n.path) := by
  rintro ⟨⟨x, hx, hpath⟩, y, hy, hpath'⟩
  rw [heq, hy] at hx
  cases hx
  exact hne (hpath.symm.trans hpath')

theorem not_find_path_url_all :
    ¬ ∀ (i : Index) (m : Metadata), m ∈ i.all → m.path.toList.head? = some '/' →
      ' ' ∉ m.path.toList → (∃ n, i.find? m.path = some n ∧ n.path = m.path) ∧
        ∃ n, i.find? (i.urlOf m) = some n ∧ n.path = m.path := by
  intro h
  obtain ⟨-, hurl⟩ := h crossedIndex (plainEntry "/users" ["GET"]) (.head _) rfl (by decide)
  obtain ⟨hpath, -⟩ := h crossedIndex (plainEntry "/api/users" ["GET"]) (.tail _ (.head _)) rfl
    (by decide)
  exact not_lookup _ (by decide) (by decide) ⟨hurl, hpath⟩

end Index

end EndpointDocs
