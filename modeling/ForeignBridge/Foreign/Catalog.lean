import ForeignBridge.Foreign.Cell

/-! # The catalogue of routines

Which routines every built-in class and module has, how each is reached, and how many arguments it
takes.
-/

namespace ForeignBridge.Foreign

namespace Catalog

/-- A line of the catalogue. -/
abbrev Line := String × Flavour × Arity

/-- Slots for operations on one object. -/
def nullary (names : List String) : List Line := names.map fun name => (name, .slot, .none)

/-- Slots for operations on an object and another one. -/
def unary (names : List String) : List Line := names.map fun name => (name, .slot, .one)

/-- Slots with a number of arguments of their own. -/
def slots (names : List String) (least most : Nat) : List Line :=
  names.map fun name => (name, .slot, .between least most)

/-- Slots that check their arguments themselves. -/
def openSlots (names : List String) : List Line := names.map fun name => (name, .slot, .free)

/-- Methods without arguments. -/
def plain (names : List String) : List Line := names.map fun name => (name, .method, .none)

/-- Methods with one argument. -/
def single (names : List String) : List Line := names.map fun name => (name, .method, .one)

/-- Methods with a number of positional arguments. -/
def ranged (names : List String) (least most : Nat) : List Line :=
  names.map fun name => (name, .method, .between least most)

/-- The same, told in other words. -/
def counted (names : List String) (least most : Nat) : List Line :=
  names.map fun name => (name, .method, .counted least most)

/-- Methods that check their arguments themselves. -/
def free (names : List String) : List Line := names.map fun name => (name, .method, .free)

/-- A method with named arguments, of which some must be given. -/
def named (name : String) (names : List String) (required : Nat) : Line :=
  (name, .method, .named ⟨names, 0, required, 0⟩)

/-- Attributes that are computed. -/
def values (names : List String) : List Line := names.map fun name => (name, .value, .none)

/-- Attributes that are parts of the object. -/
def parts (names : List String) : List Line := names.map fun name => (name, .part, .none)

/-- The constructor of a class. -/
def maker : List Line := [("__new__", .alone, .free)]

/-- The method by which classes take types as arguments. -/
def subscriptable : List Line := [("__class_getitem__", .classMethod, .one)]

/-- The slots for the six comparisons. -/
def comparisons : List String := ["__lt__", "__le__", "__eq__", "__ne__", "__gt__", "__ge__"]

/-- The slots for operators that integers and doubles share. -/
def arithmetic : List Line :=
  unary ["__add__", "__radd__", "__sub__", "__rsub__", "__mul__", "__rmul__", "__mod__", "__rmod__",
    "__truediv__", "__rtruediv__", "__floordiv__", "__rfloordiv__", "__divmod__", "__rdivmod__"] ++
  slots ["__pow__", "__rpow__"] 1 2

/-- The slots for operators on the bits of integers. -/
def bitwise : List String :=
  ["__lshift__", "__rlshift__", "__rshift__", "__rrshift__", "__and__", "__rand__", "__xor__",
   "__rxor__", "__or__", "__ror__"]

/-- The slots for operators on sets. -/
def setOperators : List String :=
  ["__sub__", "__rsub__", "__and__", "__rand__", "__xor__", "__rxor__", "__or__", "__ror__"]

/-- The methods that texts and bytes share. -/
def textual : List Line :=
  plain ["capitalize", "title", "lower", "upper", "swapcase", "isascii", "islower", "isupper",
    "istitle", "isspace", "isdigit", "isalpha", "isalnum"] ++
  single ["join", "partition", "rpartition", "removeprefix", "removesuffix", "zfill"] ++
  ranged ["center", "ljust", "rjust"] 1 2 ++
  counted ["count", "find", "rfind", "index", "rindex", "startswith", "endswith"] 1 3 ++
  ranged ["strip", "lstrip", "rstrip"] 0 1 ++ ranged ["replace"] 2 3 ++
  [named "split" ["sep", "maxsplit"] 0, named "rsplit" ["sep", "maxsplit"] 0,
   named "splitlines" ["keepends"] 0, named "expandtabs" ["tabsize"] 0]

/-- The routines that bytes and arrays of bytes share. -/
def bytewise : List Line :=
  nullary ["__repr__", "__iter__", "__len__"] ++ unary comparisons ++
    unary ["__getitem__", "__add__", "__mul__", "__rmul__", "__contains__", "__mod__", "__rmod__"] ++
    maker ++ textual ++
    [named "decode" ["encoding", "errors"] 0, named "hex" ["sep", "bytes_per_sep"] 0,
     ("translate", .method, .named ⟨["table", "delete"], 1, 1, 0⟩),
     ("fromhex", .classMethod, .one), ("maketrans", .alone, .between 2 2)]

/-- The routines of iterators. -/
def iterators : List Line := nullary ["__iter__", "__next__"]

/-- The routines of iterators that know how much is left. -/
def measured : List Line := iterators ++ plain ["__length_hint__"]

/-- The routines of a built-in class. -/
def ofCore : Core → List Line
  | .object =>
    nullary ["__repr__", "__str__", "__hash__"] ++ unary comparisons ++
      unary ["__getattribute__", "__delattr__"] ++ slots ["__setattr__"] 2 2 ++
      openSlots ["__init__"] ++ maker ++
      plain ["__dir__", "__sizeof__", "__reduce__", "__getstate__"] ++
      single ["__format__", "__reduce_ex__"] ++ values ["__class__", "__doc__"] ++
      [("__init_subclass__", .classMethod, .none), ("__subclasshook__", .classMethod, .free)]
  | .type =>
    nullary ["__repr__"] ++ unary ["__getattribute__", "__delattr__", "__or__", "__ror__"] ++
      slots ["__setattr__"] 2 2 ++ openSlots ["__init__", "__call__"] ++ maker ++
      plain ["mro", "__subclasses__", "__dir__", "__sizeof__"] ++
      single ["__instancecheck__", "__subclasscheck__"] ++
      [("__prepare__", .classMethod, .free)] ++
      values ["__name__", "__qualname__", "__module__", "__bases__", "__abstractmethods__",
        "__dict__", "__doc__", "__text_signature__", "__annotations__"] ++
      parts ["__mro__", "__base__", "__basicsize__", "__itemsize__", "__flags__",
        "__weakrefoffset__", "__dictoffset__"]
  | .noneType => nullary ["__repr__", "__bool__"] ++ maker
  | .notImplementedType => nullary ["__repr__", "__bool__"] ++ maker ++ plain ["__reduce__"]
  | .ellipsisType => nullary ["__repr__"] ++ maker ++ plain ["__reduce__"]
  | .bool => nullary ["__repr__"] ++ unary ["__and__", "__rand__", "__xor__", "__rxor__", "__or__",
      "__ror__"] ++ maker
  | .int =>
    nullary ["__repr__", "__hash__", "__neg__", "__pos__", "__abs__", "__bool__", "__invert__",
      "__int__", "__float__", "__index__"] ++ unary comparisons ++ arithmetic ++
      unary bitwise ++ maker ++
      plain ["conjugate", "bit_length", "bit_count", "as_integer_ratio", "__trunc__", "__floor__",
        "__ceil__", "__getnewargs__", "__sizeof__"] ++ ranged ["__round__"] 0 1 ++
      single ["__format__"] ++
      [("to_bytes", .method, .named ⟨["length", "byteorder", "signed"], 0, 0, 1⟩),
       ("from_bytes", .classMethod, .named ⟨["bytes", "byteorder", "signed"], 0, 1, 1⟩)] ++
      values ["real", "imag", "numerator", "denominator"]
  | .float =>
    nullary ["__repr__", "__hash__", "__neg__", "__pos__", "__abs__", "__bool__", "__int__",
      "__float__"] ++ unary comparisons ++ arithmetic ++ maker ++
      plain ["conjugate", "is_integer", "as_integer_ratio", "hex", "__trunc__", "__floor__",
        "__ceil__", "__getnewargs__"] ++ ranged ["__round__"] 0 1 ++ single ["__format__"] ++
      [("fromhex", .classMethod, .one), ("__getformat__", .classMethod, .one)] ++
      values ["real", "imag"]
  | .complex =>
    nullary ["__repr__", "__hash__", "__neg__", "__pos__", "__abs__", "__bool__"] ++
      unary comparisons ++
      unary ["__add__", "__radd__", "__sub__", "__rsub__", "__mul__", "__rmul__", "__truediv__",
        "__rtruediv__"] ++ slots ["__pow__", "__rpow__"] 1 2 ++ maker ++
      plain ["conjugate", "__complex__", "__getnewargs__"] ++ single ["__format__"] ++
      parts ["real", "imag"]
  | .str =>
    nullary ["__repr__", "__str__", "__hash__", "__iter__", "__len__"] ++ unary comparisons ++
      unary ["__getitem__", "__add__", "__mul__", "__rmul__", "__contains__", "__mod__", "__rmod__"] ++
      maker ++ textual ++
      plain ["casefold", "isdecimal", "isnumeric", "isidentifier", "isprintable", "__sizeof__",
        "__getnewargs__"] ++
      single ["translate", "format_map", "__format__"] ++
      [named "encode" ["encoding", "errors"] 0, ("format", .method, .free),
       ("maketrans", .alone, .between 1 3)]
  | .bytes =>
    nullary ["__hash__", "__str__"] ++ bytewise ++ plain ["__bytes__", "__getnewargs__"]
  | .byteArray =>
    nullary ["__str__"] ++ bytewise ++ openSlots ["__init__"] ++ slots ["__setitem__"] 2 2 ++
      unary ["__delitem__", "__iadd__", "__imul__"] ++
      single ["append", "extend", "remove"] ++ plain ["clear", "copy", "reverse"] ++
      ranged ["insert"] 2 2 ++ ranged ["pop"] 0 1
  | .list =>
    nullary ["__repr__", "__iter__", "__len__"] ++ unary comparisons ++
      unary ["__add__", "__mul__", "__rmul__", "__contains__", "__iadd__", "__imul__",
        "__delitem__"] ++ slots ["__setitem__"] 2 2 ++ openSlots ["__init__"] ++ maker ++
      single ["__getitem__", "append", "extend", "remove", "count"] ++
      plain ["clear", "copy", "reverse", "__reversed__", "__sizeof__"] ++ ranged ["insert"] 2 2 ++
      ranged ["pop"] 0 1 ++ ranged ["index"] 1 3 ++
      [("sort", .method, .named ⟨["key", "reverse"], 0, 0, 2⟩)] ++ subscriptable
  | .tuple =>
    nullary ["__repr__", "__hash__", "__iter__", "__len__"] ++ unary comparisons ++
      unary ["__getitem__", "__add__", "__mul__", "__rmul__", "__contains__"] ++ maker ++
      single ["count"] ++ plain ["__getnewargs__"] ++ ranged ["index"] 1 3 ++ subscriptable
  | .dict =>
    nullary ["__repr__", "__iter__", "__len__"] ++ unary comparisons ++
      unary ["__or__", "__ror__", "__ior__", "__delitem__"] ++ slots ["__setitem__"] 2 2 ++
      openSlots ["__init__"] ++ maker ++ single ["__contains__", "__getitem__"] ++
      plain ["keys", "values", "items", "clear", "copy", "popitem", "__reversed__",
        "__sizeof__"] ++
      ranged ["get", "setdefault", "pop"] 1 2 ++ free ["update"] ++
      [("fromkeys", .classMethod, .between 1 2)] ++ subscriptable
  | .set =>
    nullary ["__repr__", "__iter__", "__len__"] ++ unary comparisons ++ unary setOperators ++
      unary ["__isub__", "__iand__", "__ixor__", "__ior__"] ++ openSlots ["__init__"] ++ maker ++
      single ["__contains__", "add", "discard", "remove", "isdisjoint", "issubset", "issuperset",
        "symmetric_difference", "symmetric_difference_update"] ++
      plain ["clear", "copy", "pop", "__sizeof__", "__reduce__"] ++
      free ["union", "update", "difference", "difference_update", "intersection",
        "intersection_update"] ++ subscriptable
  | .frozenset =>
    nullary ["__repr__", "__hash__", "__iter__", "__len__"] ++ unary comparisons ++
      unary setOperators ++ maker ++
      single ["__contains__", "isdisjoint", "issubset", "issuperset", "symmetric_difference"] ++
      plain ["copy", "__sizeof__", "__reduce__"] ++ free ["union", "difference", "intersection"] ++
      subscriptable
  | .slice =>
    nullary ["__repr__"] ++ unary comparisons ++ maker ++ single ["indices"] ++
      plain ["__reduce__"] ++ parts ["start", "stop", "step"]
  | .range =>
    nullary ["__repr__", "__hash__", "__iter__", "__len__", "__bool__"] ++ unary comparisons ++
      unary ["__getitem__", "__contains__"] ++ maker ++ single ["count", "index"] ++
      plain ["__reversed__", "__reduce__"] ++ parts ["start", "stop", "step"]
  | .function =>
    nullary ["__repr__"] ++ openSlots ["__call__"] ++ slots ["__get__"] 1 2 ++ maker ++
      values ["__name__", "__qualname__", "__code__", "__defaults__", "__kwdefaults__",
        "__annotations__", "__dict__"] ++
      parts ["__closure__", "__doc__", "__globals__", "__module__", "__builtins__"]
  | .code =>
    nullary ["__repr__"] ++ unary ["__eq__", "__ne__"] ++
      parts ["co_name", "co_qualname", "co_filename", "co_firstlineno", "co_argcount",
        "co_posonlyargcount", "co_kwonlyargcount", "co_nlocals", "co_consts", "co_flags"] ++
      values ["co_varnames", "co_cellvars", "co_freevars"]
  | .frame =>
    nullary ["__repr__"] ++ values ["f_lineno", "f_code", "f_locals", "f_globals", "f_back"]
  | .box => nullary ["__repr__"] ++ unary comparisons ++ maker ++ values ["cell_contents"]
  | .builtinFunction =>
    nullary ["__repr__", "__hash__"] ++ unary comparisons ++ openSlots ["__call__"] ++
      plain ["__reduce__"] ++
      values ["__name__", "__qualname__", "__self__", "__doc__", "__text_signature__"] ++
      parts ["__module__"]
  | .methodWrapper =>
    nullary ["__repr__", "__hash__"] ++ unary comparisons ++ openSlots ["__call__"] ++
      plain ["__reduce__"] ++
      values ["__name__", "__qualname__", "__objclass__", "__doc__", "__text_signature__"] ++
      parts ["__self__"]
  | .methodDescriptor | .wrapperDescriptor | .classMethodDescriptor =>
    nullary ["__repr__"] ++ openSlots ["__call__"] ++ slots ["__get__"] 1 2 ++
      plain ["__reduce__"] ++ values ["__qualname__", "__doc__", "__text_signature__"] ++
      parts ["__name__", "__objclass__"]
  | .attributeDescriptor | .memberDescriptor =>
    nullary ["__repr__"] ++ slots ["__get__"] 1 2 ++ slots ["__set__"] 2 2 ++
      unary ["__delete__"] ++ values ["__qualname__", "__doc__"] ++
      parts ["__name__", "__objclass__"]
  | .method =>
    nullary ["__repr__", "__hash__"] ++ unary comparisons ++ openSlots ["__call__"] ++
      slots ["__get__"] 1 2 ++ maker ++ plain ["__reduce__"] ++ values ["__doc__"] ++
      parts ["__self__", "__func__"]
  | .property =>
    maker ++ openSlots ["__init__"] ++ slots ["__get__"] 1 2 ++ slots ["__set__"] 2 2 ++
      unary ["__delete__"] ++ single ["getter", "setter", "deleter"] ++
      ranged ["__set_name__"] 2 2 ++ values ["__isabstractmethod__"] ++
      parts ["fget", "fset", "fdel", "__doc__"]
  | .staticMethod =>
    nullary ["__repr__"] ++ maker ++ openSlots ["__init__", "__call__"] ++ slots ["__get__"] 1 2 ++
      parts ["__func__", "__wrapped__"] ++ values ["__isabstractmethod__", "__dict__"]
  | .classMethod =>
    nullary ["__repr__"] ++ maker ++ openSlots ["__init__"] ++ slots ["__get__"] 1 2 ++
      parts ["__func__", "__wrapped__"] ++ values ["__isabstractmethod__", "__dict__"]
  | .module =>
    nullary ["__repr__"] ++ openSlots ["__init__"] ++ maker ++ parts ["__dict__"] ++
      values ["__annotations__"] ++ plain ["__dir__"]
  | .traceback =>
    parts ["tb_frame", "tb_lasti"] ++ values ["tb_next", "tb_lineno"] ++ plain ["__dir__"]
  | .dictKeys | .dictItems =>
    nullary ["__repr__", "__iter__", "__len__"] ++ unary comparisons ++ unary ["__contains__"] ++
      unary setOperators ++ single ["isdisjoint"] ++ plain ["__reversed__"] ++ values ["mapping"]
  | .dictValues =>
    nullary ["__repr__", "__iter__", "__len__"] ++ plain ["__reversed__"] ++ values ["mapping"]
  | .mappingProxy =>
    nullary ["__repr__", "__str__", "__iter__", "__len__"] ++ unary comparisons ++
      unary ["__getitem__", "__contains__", "__or__", "__ror__", "__ior__"] ++ maker ++
      plain ["keys", "values", "items", "copy", "__reversed__"] ++ ranged ["get"] 1 2 ++
      subscriptable
  | .generator =>
    nullary ["__repr__", "__iter__", "__next__"] ++ single ["send"] ++ ranged ["throw"] 1 3 ++
      plain ["close"] ++
      values ["__name__", "__qualname__", "gi_running", "gi_suspended", "gi_yieldfrom",
        "gi_frame", "gi_code"] ++ subscriptable
  | .genericAlias =>
    nullary ["__repr__", "__hash__"] ++ unary ["__eq__", "__ne__", "__getitem__", "__or__",
      "__ror__"] ++ openSlots ["__call__"] ++ maker ++ single ["__mro_entries__",
      "__instancecheck__", "__subclasscheck__"] ++ parts ["__origin__", "__args__"] ++
      values ["__parameters__"]
  | .unionType =>
    nullary ["__repr__", "__hash__"] ++ unary ["__eq__", "__ne__", "__or__", "__ror__",
      "__getitem__"] ++ single ["__instancecheck__", "__subclasscheck__"] ++ parts ["__args__"] ++
      values ["__parameters__"]
  | .sequenceIterator | .textIterator | .asciiIterator | .bytesIterator | .byteArrayIterator
  | .listIterator | .listReverseIterator | .tupleIterator | .rangeIterator | .longRangeIterator
  | .setIterator | .dictKeyIterator | .dictValueIterator | .dictItemIterator
  | .dictReverseKeyIterator | .dictReverseValueIterator | .dictReverseItemIterator =>
    measured
  | .callableIterator => iterators
  | .reversed => measured ++ maker
  | .enumeration => iterators ++ maker ++ subscriptable
  | .zip | .map | .filter => iterators ++ maker
  | .super =>
    nullary ["__repr__"] ++ unary ["__getattribute__"] ++ slots ["__get__"] 1 2 ++
      openSlots ["__init__"] ++ maker ++ parts ["__thisclass__", "__self__", "__self_class__"]
  | .baseException =>
    nullary ["__repr__", "__str__"] ++ openSlots ["__init__"] ++ maker ++
      single ["with_traceback", "add_note", "__setstate__"] ++ plain ["__reduce__"] ++
      values ["args", "__traceback__", "__context__", "__cause__", "__dict__"] ++
      parts ["__suppress_context__"]
  | .keyError => nullary ["__str__"]
  | .osError =>
    nullary ["__str__"] ++ openSlots ["__init__"] ++ maker ++
      parts ["errno", "strerror", "filename", "filename2"] ++ values ["characters_written"]
  | .importError =>
    nullary ["__str__"] ++ openSlots ["__init__"] ++ parts ["msg", "name", "path"]
  | .syntaxError =>
    nullary ["__str__"] ++ openSlots ["__init__"] ++
      parts ["msg", "filename", "lineno", "offset", "text", "end_lineno", "end_offset",
        "print_file_and_line"]
  | .nameError => openSlots ["__init__"] ++ parts ["name"]
  | .attributeError => openSlots ["__init__"] ++ parts ["name", "obj"]
  | .stopIteration => openSlots ["__init__"] ++ parts ["value"]
  | .systemExit => openSlots ["__init__"] ++ parts ["code"]
  | .unicodeEncodeError | .unicodeDecodeError | .unicodeTranslateError =>
    nullary ["__str__"] ++ openSlots ["__init__"] ++
      parts ["encoding", "object", "start", "end", "reason"]
  | .baseExceptionGroup =>
    nullary ["__str__"] ++ openSlots ["__init__"] ++ maker ++
      single ["derive", "split", "subgroup"] ++ parts ["message", "exceptions"] ++ subscriptable
  | _ => []

/-- The functions of the module of built-in names. -/
def builtins : List Line :=
  let one := ["abs", "all", "any", "ascii", "bin", "callable", "chr", "hash", "hex", "id", "len",
    "oct", "ord", "repr"]
  one.map (fun name => (name, .alone, .one)) ++
    [("__import__", .alone, .free), ("__build_class__", .alone, .free),
     ("delattr", .alone, .between 2 2), ("dir", .alone, .between 0 1),
     ("divmod", .alone, .between 2 2), ("eval", .alone, .between 1 3), ("exec", .alone, .free),
     ("format", .alone, .between 1 2), ("getattr", .alone, .between 2 3),
     ("globals", .alone, .none), ("hasattr", .alone, .between 2 2),
     ("isinstance", .alone, .between 2 2), ("issubclass", .alone, .between 2 2),
     ("iter", .alone, .between 1 2), ("locals", .alone, .none), ("max", .alone, .free),
     ("min", .alone, .free), ("next", .alone, .between 1 2),
     ("pow", .alone, .named ⟨["base", "exp", "mod"], 0, 2, 0⟩), ("print", .alone, .free),
     ("round", .alone, .named ⟨["number", "ndigits"], 0, 1, 0⟩),
     ("setattr", .alone, .between 3 3), ("sorted", .alone, .free),
     ("sum", .alone, .named ⟨["iterable", "start"], 1, 1, 0⟩), ("vars", .alone, .between 0 1),
     ("open", .alone, .free), ("input", .alone, .between 0 1), ("compile", .alone, .free)]

/-- The functions of the module of mathematics. -/
def mathematics : List Line :=
  let one := ["sqrt", "floor", "ceil", "trunc", "factorial", "fabs", "isnan", "isinf", "isfinite",
    "isqrt", "exp", "exp2", "expm1", "log2", "log10", "log1p", "sin", "cos", "tan", "asin", "acos",
    "atan", "sinh", "cosh", "tanh", "asinh", "acosh", "atanh", "degrees", "radians", "cbrt", "erf",
    "erfc", "gamma", "lgamma", "frexp", "modf", "fsum", "ulp"]
  one.map (fun name => (name, .alone, .one)) ++
    [("pow", .alone, .between 2 2), ("fmod", .alone, .between 2 2),
     ("copysign", .alone, .between 2 2), ("atan2", .alone, .between 2 2),
     ("ldexp", .alone, .between 2 2), ("nextafter", .alone, .between 2 2),
     ("remainder", .alone, .between 2 2), ("comb", .alone, .between 2 2),
     ("perm", .alone, .between 1 2), ("dist", .alone, .between 2 2),
     ("log", .alone, .between 1 2), ("gcd", .alone, .free), ("lcm", .alone, .free),
     ("hypot", .alone, .free), ("prod", .alone, .named ⟨["iterable", "start"], 1, 1, 1⟩),
     ("isclose", .alone, .named ⟨["a", "b", "rel_tol", "abs_tol"], 0, 2, 2⟩)]

/-- The functions of the module of the interpreter itself. -/
def system : List Line :=
  [("getrefcount", .alone, .one), ("getrecursionlimit", .alone, .none),
   ("setrecursionlimit", .alone, .one), ("intern", .alone, .one), ("exit", .alone, .between 0 1),
   ("getdefaultencoding", .alone, .none), ("getfilesystemencoding", .alone, .none),
   ("exc_info", .alone, .none), ("exception", .alone, .none), ("is_finalizing", .alone, .none),
   ("getsizeof", .alone, .named ⟨["object", "default"], 0, 1, 0⟩),
   ("get_int_max_str_digits", .alone, .none), ("gettrace", .alone, .none),
   ("_getframe", .alone, .between 0 1)]

/-- The routines of some owner. -/
def owned (owner : Owner) (entries : List Line) : List Routine :=
  entries.map fun (name, flavour, arity) => ⟨owner, name, flavour, arity⟩

end Catalog

/-- All routines: those of the classes in the order of their addresses, then those of modules. -/
def Routine.all : Array Routine :=
  (Core.all.toList.flatMap fun core => Catalog.owned (.core core) (Catalog.ofCore core)).toArray ++
    (Catalog.owned (.module "builtins") Catalog.builtins).toArray ++
    (Catalog.owned (.module "math") Catalog.mathematics).toArray ++
    (Catalog.owned (.module "sys") Catalog.system).toArray ++
    #[⟨.module "traceback", "lines", .alone, .between 1 2⟩,
      ⟨.module "posix", "fspath", .alone, .named ⟨["path"], 0, 1, 0⟩⟩]

end ForeignBridge.Foreign
