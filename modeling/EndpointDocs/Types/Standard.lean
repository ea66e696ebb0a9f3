/-!
# Standard classes

* `StandardClass`: the classes every program has, abstract collections included.
* `StandardClass.name`, `StandardClass.module`: how a class is called and where it lives.
* `StandardClass.lineage`: the class and its ancestors, nearest first.
* `Alias`: the capitalised names under which some of them are written in types.
-/

namespace EndpointDocs

/-- The abstract collections and their capabilities. -/
inductive AbstractClass where
  | sequence | mutableSequence | set | mutableSet | iterable | iterator | collection | mapping
  | mutableMapping | generator | container | hashable | awaitable | callable | sized | reversible
  deriving DecidableEq, Repr

namespace AbstractClass

def name : AbstractClass → String
  | sequence => "Sequence"
  | mutableSequence => "MutableSequence"
  | set => "Set"
  | mutableSet => "MutableSet"
  | iterable => "Iterable"
  | iterator => "Iterator"
  | collection => "Collection"
  | mapping => "Mapping"
  | mutableMapping => "MutableMapping"
  | generator => "Generator"
  | container => "Container"
  | hashable => "Hashable"
  | awaitable => "Awaitable"
  | callable => "Callable"
  | sized => "Sized"
  | reversible => "Reversible"

/-- The abstract ancestors of an abstract class, itself first. -/
def lineage : AbstractClass → List AbstractClass
  | iterator => [iterator, iterable]
  | generator => [generator, iterator, iterable]
  | reversible => [reversible, iterable]
  | collection => [collection, sized, iterable, container]
  | set => [set, collection, sized, iterable, container]
  | mutableSet => [mutableSet, set, collection, sized, iterable, container]
  | mapping => [mapping, collection, sized, iterable, container]
  | mutableMapping => [mutableMapping, mapping, collection, sized, iterable, container]
  | sequence => [sequence, reversible, collection, sized, iterable, container]
  | mutableSequence =>
    [mutableSequence, sequence, reversible, collection, sized, iterable, container]
  | a => [a]

end AbstractClass

/-- A class that needs no declaration. -/
inductive StandardClass where
  | str | int | float | complex | bool | bytes | bytearray | memoryview | range | slice
  | object | type | list | tuple | set | frozenset | dict | noneType
  /-- Any other built-in class, such as an exception. -/
  | builtin (name : String)
  | decimal | fraction | datetime | date | time | timedelta | tzinfo | uuid | purePath | path
  | orderedDict | defaultDict | counter | deque | chainMap
  | enum | intEnum
  /-- The root of all model classes. -/
  | model
  | abstract (a : AbstractClass)
  deriving DecidableEq, Repr

namespace StandardClass

def name : StandardClass → String
  | str => "str"
  | int => "int"
  | float => "float"
  | complex => "complex"
  | bool => "bool"
  | bytes => "bytes"
  | bytearray => "bytearray"
  | memoryview => "memoryview"
  | range => "range"
  | slice => "slice"
  | object => "object"
  | type => "type"
  | list => "list"
  | tuple => "tuple"
  | set => "set"
  | frozenset => "frozenset"
  | dict => "dict"
  | noneType => "NoneType"
  | builtin n => n
  | decimal => "Decimal"
  | fraction => "Fraction"
  | datetime => "datetime"
  | date => "date"
  | time => "time"
  | timedelta => "timedelta"
  | tzinfo => "tzinfo"
  | uuid => "UUID"
  | purePath => "PurePath"
  | path => "Path"
  | orderedDict => "OrderedDict"
  | defaultDict => "defaultdict"
  | counter => "Counter"
  | deque => "deque"
  | chainMap => "ChainMap"
  | enum => "Enum"
  | intEnum => "IntEnum"
  | model => "BaseModel"
  | abstract a => a.name

/-- The module of the classes that are known everywhere by their name. -/
def builtinModule : String := "builtins"

def module : StandardClass → String
  | decimal => "decimal"
  | fraction => "fractions"
  | datetime | date | time | timedelta | tzinfo => "datetime"
  | uuid => "uuid"
  | purePath | path => "pathlib"
  | orderedDict | defaultDict | counter | deque | chainMap => "collections"
  | enum | intEnum => "enum"
  | model => "pydantic.main"
  | abstract _ => "collections.abc"
  | _ => builtinModule

/-- The class and its ancestors, nearest first. -/
def lineage : StandardClass → List StandardClass
  | object => [object]
  | bool => [bool, int, object]
  | datetime => [datetime, date, object]
  | path => [path, purePath, object]
  | orderedDict => [orderedDict, dict, object]
  | defaultDict => [defaultDict, dict, object]
  | counter => [counter, dict, object]
  | chainMap => .chainMap :: AbstractClass.mutableMapping.lineage.map .abstract ++ [object]
  | intEnum => [intEnum, int, enum, object]
  | abstract a => a.lineage.map .abstract ++ [object]
  | c => [c, object]

/-- Whether a class can be iterated over by a method of its own. -/
def iterates : StandardClass → Bool
  | str | bytes | bytearray | memoryview | range | list | tuple | set | frozenset | dict
  | deque | model | abstract .iterable => true
  | _ => false

/-- Whether a class reads arguments between brackets by a method of its own. -/
def takesArguments : StandardClass → Bool
  | type | list | tuple | set | frozenset | dict | deque | abstract .iterable
  | abstract .container | abstract .awaitable | abstract .callable => true
  | _ => false

/-- Names of built-in classes that no other constructor stands for. -/
def otherBuiltins : List String := [
  "classmethod", "enumerate", "filter", "property", "map", "reversed", "staticmethod", "super",
  "zip", "BaseException", "BaseExceptionGroup", "Exception", "GeneratorExit", "KeyboardInterrupt",
  "SystemExit", "ArithmeticError", "AssertionError", "AttributeError", "BufferError", "EOFError",
  "ImportError", "LookupError", "MemoryError", "NameError", "OSError", "ReferenceError",
  "RuntimeError", "StopAsyncIteration", "StopIteration", "SyntaxError", "SystemError", "TypeError",
  "ValueError", "Warning", "FloatingPointError", "OverflowError", "ZeroDivisionError",
  "BytesWarning", "DeprecationWarning", "EncodingWarning", "FutureWarning", "ImportWarning",
  "PendingDeprecationWarning", "ResourceWarning", "RuntimeWarning", "SyntaxWarning",
  "UnicodeWarning", "UserWarning", "BlockingIOError", "ChildProcessError", "ConnectionError",
  "FileExistsError", "FileNotFoundError", "InterruptedError", "IsADirectoryError",
  "NotADirectoryError", "PermissionError", "ProcessLookupError", "TimeoutError",
  "IndentationError", "IndexError", "KeyError", "ModuleNotFoundError", "NotImplementedError",
  "RecursionError", "UnboundLocalError", "UnicodeError", "BrokenPipeError",
  "ConnectionAbortedError", "ConnectionRefusedError", "ConnectionResetError", "TabError",
  "UnicodeDecodeError", "UnicodeEncodeError", "UnicodeTranslateError", "ExceptionGroup"]

/-- The built-in classes that have a constructor of their own. -/
def plainBuiltins : List StandardClass := [
  str, int, float, complex, bool, bytes, bytearray, memoryview, range, slice, object, type, list,
  tuple, set, frozenset, dict]

/-- The built-in class of a name. -/
def builtinNamed? (n : String) : Option StandardClass :=
  (plainBuiltins.find? (·.name == n)).or <|
    if otherBuiltins.contains n then some (builtin n)
    else if n == "EnvironmentError" || n == "IOError" then some (builtin "OSError")
    else none

end StandardClass

/-- A capitalised name that stands for a standard class in types. -/
inductive Alias where
  | list | dict | set | frozenSet | tuple | type | sequence | mutableSequence | iterable | iterator
  | collection | abstractSet | mapping | mutableMapping | defaultDict | orderedDict | counter
  | deque | callable | hashable | generator | awaitable
  deriving DecidableEq, Repr

namespace Alias

def origin : Alias → StandardClass
  | list => .list
  | dict => .dict
  | set => .set
  | frozenSet => .frozenset
  | tuple => .tuple
  | type => .type
  | sequence => .abstract .sequence
  | mutableSequence => .abstract .mutableSequence
  | iterable => .abstract .iterable
  | iterator => .abstract .iterator
  | collection => .abstract .collection
  | abstractSet => .abstract .set
  | mapping => .abstract .mapping
  | mutableMapping => .abstract .mutableMapping
  | defaultDict => .defaultDict
  | orderedDict => .orderedDict
  | counter => .counter
  | deque => .deque
  | callable => .abstract .callable
  | hashable => .abstract .hashable
  | generator => .abstract .generator
  | awaitable => .abstract .awaitable

/-- The capitalised name. -/
def name : Alias → String
  | list => "List"
  | dict => "Dict"
  | set => "Set"
  | frozenSet => "FrozenSet"
  | tuple => "Tuple"
  | type => "Type"
  | abstractSet => "AbstractSet"
  | defaultDict => "DefaultDict"
  | deque => "Deque"
  | a => a.origin.name

/-- How many arguments an alias takes; a tuple takes any number. -/
def arity? : Alias → Option Nat
  | tuple => none
  | hashable => some 0
  | dict | mapping | mutableMapping | defaultDict | orderedDict | callable => some 2
  | generator => some 3
  | _ => some 1

/-- The alias of a name. -/
def named? (n : String) : Option Alias :=
  [list, dict, set, frozenSet, tuple, type, sequence, mutableSequence, iterable, iterator,
    collection, abstractSet, mapping, mutableMapping, defaultDict, orderedDict, counter, deque,
    callable, hashable, generator, awaitable].find? (·.name == n)

end Alias

end EndpointDocs
