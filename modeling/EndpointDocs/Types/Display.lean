import EndpointDocs.Types.Universe
import EndpointDocs.Value.Written

/-!
# Type expressions in writing

* `TypeExpr.display`: the short name of a type, such as `list[Address]`.
* `TypeExpr.spell`: a type in full, such as `typing.Optional[app.Address]`.
* `TypeExpr.modelName`: the name of a model class with arguments.
* `TypeExpr.fullName`: a type with its module.
-/

namespace EndpointDocs

/-- A text without every occurrence of a word. -/
def eraseWord (word : List Char) : Nat → List Char → List Char
  | _, [] => []
  | 0, cs => cs
  | n + 1, c :: cs =>
    if word.isPrefixOf (c :: cs) then eraseWord word n ((c :: cs).drop word.length)
    else c :: eraseWord word n cs

/-- A text without the name of the typing vocabulary. -/
def untyped (s : String) : String :=
  String.ofList (eraseWord "typing.".toList s.length s.toList)

/-- A list between brackets behind a name. -/
def bracket (name : String) (args : List String) : String :=
  name ++ "[" ++ ", ".intercalate args ++ "]"

/-- A name alone, or with its arguments between brackets if there are any. -/
def bracketSome (name : String) (args : List String) : String :=
  if args.isEmpty then name else bracket name args

/-- A union by its members other than the absent value. -/
def displayUnion : List String → String
  | [m] => bracket "Optional" [m]
  | ms => bracket "Union" ms

/-- The class of a plain value. -/
def Value.className : Value → String
  | .null => "NoneType"
  | .bool _ => "bool"
  | .int _ => "int"
  | .text _ => "str"
  | .list _ => "list"
  | .object _ => "dict"

/-- A plain value as the name of a type. -/
def Value.typeName : Value → String
  | .text s => s
  | v => untyped v.written

/-- A role in full. -/
def Role.spell : Role → String
  | query => "<ParamRole.QUERY: 'Query'>"
  | path => "<ParamRole.PATH: 'Path'>"
  | body => "<ParamRole.BODY: 'Body'>"

/-- A mark in full. -/
def Mark.spell : Mark → String
  | .binding b => s!"Binding(role={b.role.spell}, description={Text.quote b.description})"
  | .value v => v.written

/-- The class of a mark. -/
def Mark.className : Mark → String
  | .binding _ => "Binding"
  | .value v => v.className

namespace TypeExpr

variable (u : Universe)

/-- Whether the arguments are the type parameters that a class was declared with. -/
def isOwnParams (c : ClassRef) (args : List TypeExpr) : Bool :=
  args.length == ((u.info? c).elim [] (·.params)).length &&
    (args.zip ((u.info? c).elim [] (·.params))).all fun
      | (.typeVar n, p) => n == p
      | _ => false

mutual

/-- The name that a type has as an argument of a model class. -/
def argName : TypeExpr → String
  | .none => "NoneType"
  | .any => "Any"
  | .ellipsis => "..."
  | .noReturn => "NoReturn"
  | .bareClassVar => "ClassVar"
  | .cls c => u.qualnameOf c
  | .alias a => a.name
  | .generic c ts =>
    if u.specializes c && isOwnParams u c ts then u.qualnameOf c
    else bracket (if u.isRawGeneric c then u.qualnameOf c else u.nameOf c) (argNames ts)
  | .aliased a ts => bracket a.name (argNames ts)
  | .union _ ts => bracket "Union" (argNames ts)
  | .annotated t ms => bracket "Annotated" (argName t :: ms.map Mark.className)
  | .literal vs => bracket "Literal" (vs.map Value.written)
  | .qualified q t => bracket q.name [argName t]
  | .typeVar n => "~" ++ n
  | .newType _ _ => "NewType"
  | .callable _ r => bracket "Callable" ["list", argName r]
  | .text s => s
  | .forward s _ => "ForwardRef(" ++ Text.quote s ++ ")"
  | .value v => v.className

/-- The names of the arguments of a model class. -/
def argNames : List TypeExpr → List String
  | [] => []
  | t :: ts => argName t :: argNames ts

end

/-- The name of a model class with arguments; its own parameters change nothing. -/
def modelName (c : ClassRef) (args : List TypeExpr) : String :=
  if isOwnParams u c args then u.nameOf c else bracket (u.nameOf c) (argNames u args)

/-- The same inside the module. -/
def modelQualname (c : ClassRef) (args : List TypeExpr) : String :=
  if isOwnParams u c args then u.qualnameOf c else modelName u c args

/-- A name with its module; built-in classes stand without one. -/
def inModule (module name : String) : String :=
  if module = StandardClass.builtinModule then name else module ++ "." ++ name

/-- A class in full, inside another type or on its own. -/
def spellClass (inside isEnum : Bool) (module name qualname : String) : String :=
  if inside then inModule module qualname
  else if isEnum then s!"<enum '{name}'>"
  else s!"<class '{inModule module qualname}'>"

def isEnum (c : ClassRef) : Bool := u.descends c (· == .enum)

mutual

/-- A type in full; `inside` is the form that it has as a part of another type. -/
def spell (inside : Bool) : TypeExpr → String
  | .none => "None"
  | .any => "typing.Any"
  | .ellipsis => if inside then "..." else "Ellipsis"
  | .noReturn => "typing.NoReturn"
  | .bareClassVar => "typing.ClassVar"
  | .cls c => spellClass inside (isEnum u c) (u.moduleOf c) (u.nameOf c) (u.qualnameOf c)
  | .alias a => "typing." ++ a.name
  | .generic c ts =>
    if u.specializes c then
      spellClass inside false (u.moduleOf c) (modelName u c ts) (modelQualname u c ts)
    else spellArgs (inModule (u.moduleOf c) (u.qualnameOf c)) (spellAll ts)
  | .aliased a ts => spellArgs ("typing." ++ a.name) (spellAll ts)
  | .union true ts => " | ".intercalate (spellPiped ts)
  | .union false ts =>
    match ts, spellAll ts with
    | [l, r], [l', r'] =>
      if l.isNoneType then bracket "typing.Optional" [r']
      else if r.isNoneType then bracket "typing.Optional" [l']
      else bracket "typing.Union" [l', r']
    | _, ts' => bracket "typing.Union" ts'
  | .annotated t ms => bracket "typing.Annotated" (spell true t :: ms.map Mark.spell)
  | .literal vs => bracket "typing.Literal" (vs.map Value.written)
  | .qualified q t => bracket ("typing." ++ q.name) [spell true t]
  | .typeVar n => "~" ++ n
  | .newType n _ => n
  | .callable ts r => bracket "typing.Callable" [bracket "" (spellAll ts), spell true r]
  | .text s => Text.quote s
  | .forward s Option.none => "ForwardRef(" ++ Text.quote s ++ ")"
  | .forward s (some m) => "ForwardRef(" ++ Text.quote s ++ ", module=" ++ Text.quote m ++ ")"
  | .value v => v.written

def spellAll : List TypeExpr → List String
  | [] => []
  | t :: ts => spell true t :: spellAll ts

/-- Types in full with a bar between them. -/
def spellPiped : List TypeExpr → List String
  | [] => []
  | t :: ts => (if t.isNoneType then "None" else spell true t) :: spellPiped ts

/-- A name with its arguments; no argument is written as empty parentheses. -/
def spellArgs (name : String) (args : List String) : String :=
  bracket name (if args.isEmpty then ["()"] else args)

end

/-- The parameters of a function type, as a list of types on their own. -/
def displayParams (ts : List TypeExpr) : String :=
  untyped (bracket "" (ts.map (spell u false)))

/-- A type as text. -/
def shown : TypeExpr → String
  | .text s => s
  | .value (.text s) => s
  | t => spell u false t

mutual

def display : TypeExpr → String
  | .none => "None"
  | .any => "Any"
  | .ellipsis => "..."
  | .noReturn => "NoReturn"
  | .bareClassVar => "ClassVar"
  | .cls c => if c = .standard .noneType then "None" else u.nameOf c
  | .alias a => a.origin.name
  | .generic c ts =>
    if u.specializes c then modelName u c ts else bracketSome (u.nameOf c) (displayAll ts)
  | .aliased a ts => bracketSome a.origin.name (displayAll ts)
  | .union _ ts => displayUnion (displayMembers ts)
  | .annotated t _ => display t
  | .literal vs => bracketSome "Literal" (vs.map Value.typeName)
  | .qualified q t => bracket q.name [display t]
  | .typeVar n => n
  | .newType n _ => n
  | .callable ts r => bracket "Callable" [displayParams u ts, display r]
  | .text s => s
  | .forward s _ => s
  | .value v => v.typeName

def displayAll : List TypeExpr → List String
  | [] => []
  | t :: ts => display t :: displayAll ts

/-- The short names of types, the absent value left out. -/
def displayMembers : List TypeExpr → List String
  | [] => []
  | t :: ts => if t.isNoneType then displayMembers ts else display t :: displayMembers ts

end

/-- Whether a union is a type or nothing. -/
def isOptional : List TypeExpr → Bool
  | [l, r] => l.isNoneType || r.isNoneType
  | _ => false

/-- The module that a type expression belongs to, if it belongs to one. -/
def module? : TypeExpr → Option String
  | .none | .ellipsis | .text _ | .value _ | .typeVar _ | .newType _ _ => Option.none
  | .cls c | .generic c _ => some (u.moduleOf c)
  | .annotated t _ => module? t
  | .union true _ => some "types"
  | _ => some "typing"

/-- The name of a type expression inside its module. -/
def qualname : TypeExpr → String
  | .cls c => u.qualnameOf c
  | .generic c ts =>
    if u.specializes c then modelQualname u c ts
    else if u.isRawGeneric c then u.qualnameOf c
    else u.nameOf c
  | .alias a | .aliased a _ => a.name
  | .annotated _ _ => "Annotated"
  | .union false ts => if isOptional ts then "Optional" else "Union"
  | .literal _ => "Literal"
  | .qualified q _ => q.name
  | .callable _ _ => "Callable"
  | t => display u t

/-- A type expression with its module. -/
def fullName (t : TypeExpr) : String :=
  match module? u t with
  | Option.none | some "" => qualname u t
  | some m => m ++ "." ++ qualname u t

end TypeExpr

def Universe.fullNameOf (u : Universe) (c : ClassRef) : String := TypeExpr.fullName u (.cls c)

end EndpointDocs
