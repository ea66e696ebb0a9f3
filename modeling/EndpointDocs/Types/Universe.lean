import EndpointDocs.Entries
import EndpointDocs.Types.Resolve

/-!
# Classes

* `ClassInfo`: a declared class as it is once it exists.
* `Reading`: what texts in annotations stand for, and what arguments make of a model class.
* `Universe`: all declared classes, in order of declaration, and how they are read.
* `Universe.lineageOf`, `Universe.nameOf`, …: standard and declared classes in one view.
* `Owner`: what a documentation text can belong to.
-/

namespace EndpointDocs

/-- How a class is made. -/
inductive ClassForm where
  | plain
  | dataclass
  | model
  | typedDict
  | namedTuple
  | enum
  /-- A class whose field annotations cannot be read. -/
  | broken
  deriving DecidableEq, Repr

/-- A declared class. -/
structure ClassInfo where
  key : String
  name : String
  module : String
  qualname : String
  form : ClassForm
  params : List String
  /-- The class and its ancestors, nearest first. -/
  lineage : List ClassRef
  /-- The annotations of the class itself. -/
  own : List (String × TypeExpr)
  /-- The fields that a model or a dataclass was made with, inherited ones first. -/
  settled : List (String × TypeExpr)

/-- Where an annotation stands. -/
inductive Site where
  /-- In the body of a class. -/
  | inClass (module qualname : String)
  /-- At a function; its module may be loaded or not. -/
  | atFunction (module qualname : String) (loaded : Bool)
  deriving DecidableEq, Repr

def Site.module : Site → String
  | inClass m _ | atFunction m _ _ => m

/--
What a program and the library of model classes make of type expressions. A text in an annotation is
evaluated where it stands and can give any type; the fields of a model class with arguments are
those of the class, with other types.
-/
structure Reading where
  /-- What a text stands for among the classes declared so far, if it can be evaluated; `home` is the
  module that a reference was written in, where that is known. -/
  eval : List ClassInfo → Site → (home : Option String) → (text : String) → Option TypeExpr
  /-- The fields of a model class with arguments. -/
  specialize : ClassInfo → (args : List TypeExpr) → List (String × TypeExpr)
  names_specialize : ∀ i args, (specialize i args).map (·.1) = i.settled.map (·.1)

namespace Reading

/-- The class that a module holds under a name, the last declared one. -/
def named? (classes : List ClassInfo) (module name : String) : Option TypeExpr :=
  (classes.reverse.find? fun c => c.module == module && c.name == name).map
    fun c => .cls (.declared c.key)

/-- What a name means everywhere. -/
def builtin? (name : String) : Option TypeExpr :=
  if name = "None" then some .noneType
  else (StandardClass.builtinNamed? name).map fun c => .cls (.standard c)

/--
The reading of a program whose modules hold their classes under their names, and whose texts are
names: of a class in the module where they stand or were written, or of a built-in class. A function
whose module is not loaded knows the latter only. Arguments are put in place of parameters.
-/
def plain : Reading where
  eval classes site home text :=
    match site with
    | .atFunction _ _ false => builtin? text
    | site => (named? classes site.module text).or
      ((home.bind fun m => named? classes m text).or (builtin? text))
  specialize i args := i.settled.map fun (n, t) =>
    (n, (t.substitute fun v => Entries.find? v (i.params.zip args)).fieldType)
  names_specialize i args := by simp [Function.comp_def]

end Reading

/-- The declared classes, the first declared first, and how they are read. -/
structure Universe where
  classes : List ClassInfo
  reading : Reading := .plain

/-- A class, a module, or something else that lives in a module. -/
inductive Owner where
  | cls (module name qualname : String)
  | module (name : String)
  | other (module : String)
  deriving DecidableEq, Repr

namespace Universe

variable (u : Universe)

def empty : Universe where
  classes := []

def find? (key : String) : Option ClassInfo := u.classes.find? (·.key == key)

/-- The declared class behind a reference. -/
def info? : ClassRef → Option ClassInfo
  | .standard _ => none
  | .declared key => u.find? key

/-- The class and its ancestors, nearest first. -/
def lineageOf : ClassRef → List ClassRef
  | .standard c => c.lineage.map .standard
  | .declared key => (u.find? key).elim [.declared key] (·.lineage)

def nameOf : ClassRef → String
  | .standard c => c.name
  | .declared key => (u.find? key).elim key (·.name)

def moduleOf : ClassRef → String
  | .standard c => c.module
  | .declared key => (u.find? key).elim "" (·.module)

/-- The name of a class inside its module. -/
def qualnameOf : ClassRef → String
  | .standard c => c.name
  | .declared key => (u.find? key).elim key (·.qualname)

/-- The class as the owner of its fields. -/
def ownerOf (c : ClassRef) : Owner := .cls (u.moduleOf c) (u.nameOf c) (u.qualnameOf c)

/-- Whether some class of the lineage is a standard class of a kind. -/
def descends (c : ClassRef) (test : StandardClass → Bool) : Bool :=
  (u.lineageOf c).any fun
    | .standard s => test s
    | .declared _ => false

/-- Whether some declared class of the lineage has a form. -/
def hasForm (c : ClassRef) (form : ClassForm) : Bool :=
  (u.lineageOf c).any fun d => (u.info? d).any (·.form == form)

def isModel (c : ClassRef) : Bool := u.descends c (· == .model)

/-- Whether arguments make another class of a class: the nearest ancestor that reads arguments is the
root of all model classes. -/
def specializes (c : ClassRef) : Bool :=
  ((u.lineageOf c).find? fun
    | .standard s => s == .model || s.takesArguments
    | .declared _ => false) == some (.standard .model)

/-- Whether a class is a typed dictionary or a named tuple by its own declaration. -/
def isStructural (c : ClassRef) : Bool :=
  (u.info? c).any fun i => i.form == .typedDict || i.form == .namedTuple

/-- Whether a class takes its arguments between brackets as they are. -/
def isRawGeneric : ClassRef → Bool
  | .standard _ => true
  | .declared key =>
    u.isModel (.declared key) ||
      !u.isStructural (.declared key) && u.descends (.declared key) StandardClass.takesArguments

/-- A class with arguments. -/
def apply (c : ClassRef) (args : List TypeExpr) : TypeExpr :=
  .generic c (if u.isRawGeneric c then args else args.map TypeExpr.converted)

/-! ## Texts in annotations -/

/-- Where the annotations of a class stand. -/
def siteOf (c : ClassRef) : Site := .inClass (u.moduleOf c) (u.qualnameOf c)

/-- What texts stand for at a site. -/
def scope (site : Site) : Scope where
  eval := u.reading.eval u.classes site
  specializes := u.specializes

end Universe

end EndpointDocs
