import EndpointDocs.Proofs.Source.Layout

/-!
# The members of a class

What is told of a member stands above a line that is searched for: downwards from the first line
that mentions the class, to the line that ends its body.

* `Member`, `answer_member`: the questions about members, as one search and a reading of the lines
  above the line that is found.
* **`ask_member_local`**: an answer about a member depends on nothing behind the body.
* `Declared`, **`ask_declared`**: when the search stops at a declaration, and at what else it stops.
* `Declared.Direct`, `not_ask_direct_all`: it may stop above a declaration directly in the body.
-/

namespace EndpointDocs.Source

open Comment Text

/-! ## Questions about members -/

/-- What can be asked about a class but its own text. -/
inductive Member where
  | method (name : String)
  | field (name : String)
  | param (function name : String)

namespace Member

/-- Whether a line declares what is asked for. -/
def declares : Member → Line → Bool
  | .method name | .param name _ => declaresFunction name.toList
  | .field name => declaresField name.toList

/-- What the lines above a declaration tell. -/
def tell (s : Style) : Member → List Line → Option String
  | .method _ | .field _ => descriptionAbove s false
  | .param _ name => fun above => (descriptionAbove s true above).bind (paramText? · name)

/-- The question, put about an owner. -/
def question (owner : Option Owner) : Member → Question
  | .method name => .method owner name
  | .field name => .field owner name
  | .param function name => .param owner function name

theorem owner_question (m : Member) (owner : Option Owner) : (m.question owner).owner = owner := by
  cases m <;> rfl

theorem textIn_question (m : Member) (s : Style) (owner : Option Owner) (lines : List Line) :
    (m.question owner).textIn s lines =
      (aboveDeclaration? s owner m.declares lines).bind (m.tell s) := by
  cases m <;> rfl

end Member

variable {style : Style} {name : String} {head t : Line} {pre : List Line}

/-- **One search answers** each question about a member. -/
theorem answer_member {s : Store} {module qualname : String} {lines : List Line}
    (hview : s.view (some (.cls module name qualname)) = .ok lines) (style : Style) (m : Member) :
    (((m.question (some (.cls module name qualname))).ask style).run.run s).1 =
      .ok ((aboveMember? style name m.declares lines).bind (m.tell style)) := by
  have hview' : s.view (m.question (some (.cls module name qualname))).owner = .ok lines := by
    rw [m.owner_question, hview]
  rw [answer_of_view hview', m.textIn_question]
  rfl

/-! ## Locality -/

/--
**An answer about a member depends on nothing behind the body.** Let the first line that mentions a
class stand above a body, and a line below it end that body. A line that is found for a member is
the first line of the body that declares it, and the answer is the same whatever stands behind.
-/
theorem ask_member_local {body : List Line} (hfirst : ∀ l ∈ pre, ¬ Mentions style name l)
    (hhead : Mentions style name head) (hbody : ∀ l ∈ body, ¬ Ends style (indent head) l)
    (ht : Ends style (indent head) t) (m : Member) :
    (∀ rest above, aboveMember? style name m.declares (pre ++ head :: (body ++ t :: rest)) =
        some above ↔ ∃ inner l outer, body = inner ++ l :: outer ∧
          above = inner.reverse ++ head :: pre.reverse ∧ Hits style m.declares l ∧
            ∀ k ∈ inner, ¬ Hits style m.declares k) ∧
      ∀ (s s' : Store) (module qualname : String) (rest rest' : List Line),
        let owner : Option Owner := some (.cls module name qualname)
        s.view owner = .ok (pre ++ head :: (body ++ t :: rest)) →
        s'.view owner = .ok (pre ++ head :: (body ++ t :: rest')) →
        (((m.question owner).ask style).run.run s).1 =
          (((m.question owner).ask style).run.run s').1 := by
  have hsearch : ∀ rest, aboveMember? style name m.declares (pre ++ head :: (body ++ t :: rest)) =
      aboveInBody? style (indent head) m.declares (head :: pre.reverse) body := by
    intro rest
    rw [aboveMember?_of_first hhead hfirst, aboveInBody?_ended ht]
  refine ⟨fun rest above => ?_, ?_⟩
  · rw [hsearch, aboveInBody?_eq_some_iff]
    constructor
    · rintro ⟨inner, l, outer, hcut, rfl, hinner, -, hl⟩
      exact ⟨inner, l, outer, hcut, rfl, hl, fun k hk => (hinner k hk).2⟩
    · rintro ⟨inner, l, outer, hcut, rfl, hl, hinner⟩
      have hends : ∀ k ∈ inner ++ l :: outer, ¬ Ends style (indent head) k := hcut ▸ hbody
      exact ⟨inner, l, outer, hcut, rfl,
        fun k hk => ⟨hends k (List.mem_append_left _ hk), hinner k hk⟩, hends l (by simp), hl⟩
  · intro s s' module qualname rest rest' owner hs hs'
    rw [answer_member hs, answer_member hs', hsearch, hsearch]

/-- The body of a class. A comment and a closing bracket in it are not indented. -/
def userBody : List Line :=
  ["    ## The id.", "    id: int", "", "# Not a part of the docs.", "    ## Finds a user.",
    "    def find(", "        self, id: int", "):", "        return self"].map String.toList

/-- A module with the class, and another class with a field of its own below it. -/
def userLines (rest : List String) : List Line :=
  "import app".toList :: "class User:".toList ::
    (userBody ++ "class Other:".toList :: rest.map String.toList)

theorem ask_member_local_user :
    let owner : Option Owner := some (.cls "app" "User" "User")
    let answer (rest : List String) (m : Member) :=
      (((m.question owner).ask .hash).run.run (lineStore (userLines rest))).1
    (∀ l ∈ userBody, ¬ Ends .hash 0 l) ∧ Ends .hash 0 "class Other:".toList ∧
      aboveMember? .hash "User" (declaresField "nick".toList) (userLines ["    nick: str"]) = none ∧
      answer ["    nick: str"] (.field "nick") = answer [] (.field "nick") ∧
      answer ["    nick: str"] (.method "find") = answer [] (.method "find") ∧
      answer [] (.method "find") = .ok (some "Finds a user.") := by
  intro owner answer
  have hpre : ∀ l ∈ ["import app".toList], ¬ Mentions .hash "User" l := by decide +kernel
  have hhead : Mentions .hash "User" "class User:".toList := by decide +kernel
  have hbody : ∀ l ∈ userBody, ¬ Ends .hash (indent "class User:".toList) l := by decide +kernel
  have ht : Ends .hash (indent "class User:".toList) "class Other:".toList := by decide +kernel
  have hview : (lineStore (userLines ["    nick: str"])).view owner =
      .ok (userLines ["    nick: str"]) := view_lineStore (by decide) rfl
  have hview' : (lineStore (userLines [])).view owner = .ok (userLines []) :=
    view_lineStore (by decide) rfl
  have hlocal := ask_member_local hpre hhead hbody ht
  have hnick : ∀ l ∈ userBody, ¬ Hits .hash (declaresField "nick".toList) l := by decide +kernel
  refine ⟨hbody, ht, ?_, (hlocal (.field "nick")).2 _ _ "app" "User" _ _ hview hview',
    (hlocal (.method "find")).2 _ _ "app" "User" _ _ hview hview', ?_⟩
  · refine Option.eq_none_iff_forall_ne_some.mpr fun above habove => ?_
    obtain ⟨inner, l, outer, hcut, -, hl, -⟩ :=
      ((hlocal (.field "nick")).1 (["    nick: str"].map String.toList) above).mp habove
    have hmem : l ∈ userBody := by simp [hcut]
    exact hnick l hmem hl
  · refine (answer_member hview' .hash (.method "find")).trans ?_
    decide +kernel

/-! ## Declarations -/

/--
A module with a declaration of a member: lines that do not mention the class, the first line that
does, the lines from there down to the declaration, the declaration, and any further lines. The
statement of the class is the line that mentions it first, or stands below.
-/
structure Declared (s : Style) (name : String) (m : Member) where
  before : List Line
  head : Line
  inner : List Line
  declaration : Line
  after : List Line
  mentions : Mentions s name head
  first : ∀ l ∈ before, ¬ Mentions s name l
  declares : Hits s m.declares declaration

/-- The indentation of a body: that of its first line that is neither blank nor a comment. -/
def bodyIndent? (s : Style) (body : List Line) : Option Nat :=
  (body.find? fun l => !isEmptyLine l && !isComment s l).map indent

namespace Declared

variable {m : Member} (src : Declared style name m)

def lines : List Line := src.before ++ src.head :: (src.inner ++ src.declaration :: src.after)

/-- The lines above the declaration, nearest first. -/
def linesAbove : List Line := src.inner.reverse ++ src.head :: src.before.reverse

/-- The statement of the class comes first, and the declaration is as far indented as its body. -/
structure Direct : Prop where
  states : States style name src.head
  deeper : indent src.head < indent src.declaration
  body : bodyIndent? style (src.inner ++ [src.declaration]) = some (indent src.declaration)

end Declared

/--
**The search stops at a declaration just when no line above it stops it.** The first line that ends
the body hides the declaration, and the first line that passes the test, however far it is indented,
is taken in its place. A direct declaration does not end the body itself.
-/
theorem ask_declared {m : Member} (src : Declared style name m) {s : Store}
    {module qualname : String}
    (hview : s.view (some (.cls module name qualname)) = .ok src.lines) :
    let chosen := aboveMember? style name m.declares src.lines
    let ends := Ends style (indent src.head)
    let hits := Hits style m.declares
    (((m.question (some (.cls module name qualname))).ask style).run.run s).1 =
        .ok (chosen.bind (m.tell style)) ∧
      (chosen = some src.linesAbove ↔
        ¬ ends src.declaration ∧ ∀ l ∈ src.inner, ¬ ends l ∧ ¬ hits l) ∧
      (src.Direct → ¬ ends src.declaration) ∧
      ∀ passed l rest, src.inner = passed ++ l :: rest → (∀ k ∈ passed, ¬ ends k ∧ ¬ hits k) →
        (ends l → chosen = none) ∧
          (¬ ends l → hits l → chosen = some (passed.reverse ++ src.head :: src.before.reverse)) := by
  intro chosen ends hits
  have hchosen : chosen = aboveInBody? style (indent src.head) m.declares
      (src.head :: src.before.reverse) (src.inner ++ src.declaration :: src.after) :=
    aboveMember?_of_first src.mentions src.first m.declares _
  refine ⟨answer_member hview style m, ⟨fun h => ?_, fun ⟨hends, hinner⟩ => ?_⟩,
    fun hdirect => not_ends_of_lt hdirect.deeper, fun passed l rest hcut hpassed => ?_⟩
  · rw [hchosen, aboveInBody?_eq_some_iff] at h
    obtain ⟨inner, l, outer, hcut, habove, hinner, hends, -⟩ := h
    have hinner_eq : src.inner = inner :=
      List.reverse_injective (List.append_cancel_right habove)
    rw [hinner_eq] at hcut
    obtain ⟨rfl, -⟩ := List.cons.inj (List.append_cancel_left hcut)
    exact ⟨hends, hinner_eq ▸ hinner⟩
  · rw [hchosen, aboveInBody?_append hinner, aboveInBody?_cons, if_neg hends,
      if_pos src.declares]
    rfl
  · rw [hchosen, hcut, List.append_assoc, aboveInBody?_append hpassed, List.cons_append,
      aboveInBody?_cons]
    exact ⟨fun hends => if_pos hends, fun hends hhits => by rw [if_neg hends, if_pos hhits]⟩

/-- A class whose body holds another class with a field of the same name. -/
def shop : Declared .hash "Shop" (.field "id") where
  before := ["## A shop."].map String.toList
  head := "class Shop:".toList
  inner := ["    class Item:", "        ## An item's id.", "        id: int", "",
    "    ## The shop's id."].map String.toList
  declaration := "    id: int".toList
  after := []
  mentions := by decide +kernel
  first := by decide +kernel
  declares := by decide +kernel

theorem ask_declared_shop :
    let owner : Option Owner := some (.cls "app" "Shop" "Shop")
    (lineStore shop.lines).view owner = .ok shop.lines ∧
      aboveMember? .hash "Shop" (declaresField "id".toList) shop.lines ≠ some shop.linesAbove ∧
      (((Question.field owner "id").ask .hash).run.run (lineStore shop.lines)).1 =
        .ok (some "An item's id.") := by
  intro owner
  have hview : (lineStore shop.lines).view owner = .ok shop.lines :=
    view_lineStore (by decide) rfl
  obtain ⟨hanswer, hiff, -, hpassed⟩ := ask_declared shop hview
  have hends : ¬ Ends .hash (indent shop.head) "        id: int".toList := by decide +kernel
  have hhits : Hits .hash (declaresField "id".toList) "        id: int".toList := by decide +kernel
  have htaken := (hpassed (["    class Item:", "        ## An item's id."].map String.toList)
    "        id: int".toList (["", "    ## The shop's id."].map String.toList) rfl
    (by decide +kernel)).2 hends hhits
  refine ⟨hview, fun h => ?_, hanswer.trans ?_⟩
  · exact ((hiff.mp h).2 _ (.tail _ (.tail _ (.head _)))).2 hhits
  · rw [htaken]
    decide +kernel

/-- **Not every direct declaration is found**, though whatever else passes the test above it is
indented deeper. -/
theorem not_ask_direct_all : ¬ ∀ (s : Style) (name : String) (m : Member) (src : Declared s name m),
    src.Direct → (∀ l ∈ src.inner, ¬ Ends s (indent src.head) l ∧
      (Hits s m.declares l → indent src.declaration < indent l)) →
        aboveMember? s name m.declares src.lines = some src.linesAbove := by
  intro h
  have hdirect : shop.Direct := ⟨by decide +kernel, by decide +kernel, by decide +kernel⟩
  have hshop := h .hash "Shop" (.field "id") shop hdirect (by decide +kernel)
  have hitem : aboveMember? .hash "Shop" (declaresField "id".toList) shop.lines ≠
      some shop.linesAbove := by decide +kernel
  exact hitem hshop

end EndpointDocs.Source
