import ForeignBridge.Handle

/-! # Built-in classes

The classes that the interpreter has from the start and that no program can change. A built-in
class is known by its address: the classes come first in memory, in the order in which they are
listed here.
-/

namespace ForeignBridge.Foreign

/-- A built-in class. -/
inductive Core where
  | object | type | noneType | notImplementedType | ellipsisType | bool | int | float | complex
  | str | bytes | byteArray | list | tuple | dict | set | frozenset | slice | range | function
  | code | frame | box | builtinFunction | method | methodWrapper | methodDescriptor
  | wrapperDescriptor | classMethodDescriptor | attributeDescriptor | memberDescriptor | property
  | staticMethod | classMethod | module | traceback | dictKeys | dictValues | dictItems
  | mappingProxy | generator | genericAlias | unionType | sequenceIterator | callableIterator
  | textIterator | asciiIterator | bytesIterator | byteArrayIterator | listIterator
  | listReverseIterator | tupleIterator | rangeIterator | longRangeIterator | setIterator
  | dictKeyIterator | dictValueIterator | dictItemIterator | dictReverseKeyIterator
  | dictReverseValueIterator | dictReverseItemIterator | enumeration | reversed | zip | map
  | filter | super | baseException | generatorExit | keyboardInterrupt | systemExit
  | baseExceptionGroup | exception | exceptionGroup | arithmeticError | floatingPointError
  | overflowError | zeroDivisionError | assertionError | attributeError | bufferError | eofError
  | importError | moduleNotFoundError | lookupError | indexError | keyError | memoryError
  | nameError | unboundLocalError | osError | blockingIOError | childProcessError
  | connectionError | brokenPipeError | connectionAbortedError | connectionRefusedError
  | connectionResetError | fileExistsError | fileNotFoundError | interruptedError
  | isADirectoryError | notADirectoryError | permissionError | processLookupError | timeoutError
  | referenceError | runtimeError | notImplementedError | recursionError | stopIteration
  | stopAsyncIteration | syntaxError | indentationError | tabError | systemError | typeError
  | valueError | unicodeError | unicodeDecodeError | unicodeEncodeError | unicodeTranslateError
  | warning | bytesWarning | deprecationWarning | encodingWarning | futureWarning | importWarning
  | pendingDeprecationWarning | resourceWarning | runtimeWarning | syntaxWarning | unicodeWarning
  | userWarning
deriving DecidableEq, Repr, Inhabited

namespace Core

/-- All built-in classes in the order of their addresses. -/
def all : Array Core := #[
  object, type, noneType, notImplementedType, ellipsisType, bool, int, float, complex, str,
  bytes, byteArray, list, tuple, dict, set, frozenset, slice, range, function, code, frame, box,
  builtinFunction, method, methodWrapper, methodDescriptor, wrapperDescriptor,
  classMethodDescriptor, attributeDescriptor, memberDescriptor, property, staticMethod,
  classMethod, module, traceback, dictKeys, dictValues, dictItems, mappingProxy, generator,
  genericAlias, unionType, sequenceIterator, callableIterator, textIterator, asciiIterator,
  bytesIterator, byteArrayIterator, listIterator, listReverseIterator, tupleIterator,
  rangeIterator, longRangeIterator, setIterator, dictKeyIterator, dictValueIterator,
  dictItemIterator, dictReverseKeyIterator, dictReverseValueIterator, dictReverseItemIterator,
  enumeration, reversed, zip, map, filter, super, baseException, generatorExit,
  keyboardInterrupt, systemExit, baseExceptionGroup, exception, exceptionGroup, arithmeticError,
  floatingPointError, overflowError, zeroDivisionError, assertionError, attributeError,
  bufferError, eofError, importError, moduleNotFoundError, lookupError, indexError, keyError,
  memoryError, nameError, unboundLocalError, osError, blockingIOError, childProcessError,
  connectionError, brokenPipeError, connectionAbortedError, connectionRefusedError,
  connectionResetError, fileExistsError, fileNotFoundError, interruptedError, isADirectoryError,
  notADirectoryError, permissionError, processLookupError, timeoutError, referenceError,
  runtimeError, notImplementedError, recursionError, stopIteration, stopAsyncIteration,
  syntaxError, indentationError, tabError, systemError, typeError, valueError, unicodeError,
  unicodeDecodeError, unicodeEncodeError, unicodeTranslateError, warning, bytesWarning,
  deprecationWarning, encodingWarning, futureWarning, importWarning, pendingDeprecationWarning,
  resourceWarning, runtimeWarning, syntaxWarning, unicodeWarning, userWarning]

/-- The address of a built-in class. -/
def handle (core : Core) : Handle := ⟨core.ctorIdx + 1⟩

/-- The built-in class at an address. -/
def ofHandle? (handle : Handle) : Option Core :=
  if handle.isNull then none else all[handle.address - 1]?

/-- The names of the built-in classes, in the order of their addresses. Some have the name of their
module in front. -/
def names : Array String := #[
  "object", "type", "NoneType", "NotImplementedType", "ellipsis", "bool", "int", "float",
  "complex", "str", "bytes", "bytearray", "list", "tuple", "dict", "set", "frozenset", "slice",
  "range", "function", "code", "frame", "cell", "builtin_function_or_method", "method",
  "method-wrapper", "method_descriptor", "wrapper_descriptor", "classmethod_descriptor",
  "getset_descriptor", "member_descriptor", "property", "staticmethod", "classmethod", "module",
  "traceback", "dict_keys", "dict_values", "dict_items", "mappingproxy", "generator",
  "types.GenericAlias", "types.UnionType", "iterator", "callable_iterator", "str_iterator",
  "str_ascii_iterator", "bytes_iterator", "bytearray_iterator", "list_iterator",
  "list_reverseiterator", "tuple_iterator", "range_iterator", "longrange_iterator",
  "set_iterator", "dict_keyiterator", "dict_valueiterator", "dict_itemiterator",
  "dict_reversekeyiterator", "dict_reversevalueiterator", "dict_reverseitemiterator",
  "enumerate", "reversed", "zip", "map", "filter", "super", "BaseException", "GeneratorExit",
  "KeyboardInterrupt", "SystemExit", "BaseExceptionGroup", "Exception", "ExceptionGroup",
  "ArithmeticError", "FloatingPointError", "OverflowError", "ZeroDivisionError",
  "AssertionError", "AttributeError", "BufferError", "EOFError", "ImportError",
  "ModuleNotFoundError", "LookupError", "IndexError", "KeyError", "MemoryError", "NameError",
  "UnboundLocalError", "OSError", "BlockingIOError", "ChildProcessError", "ConnectionError",
  "BrokenPipeError", "ConnectionAbortedError", "ConnectionRefusedError", "ConnectionResetError",
  "FileExistsError", "FileNotFoundError", "InterruptedError", "IsADirectoryError",
  "NotADirectoryError", "PermissionError", "ProcessLookupError", "TimeoutError",
  "ReferenceError", "RuntimeError", "NotImplementedError", "RecursionError", "StopIteration",
  "StopAsyncIteration", "SyntaxError", "IndentationError", "TabError", "SystemError",
  "TypeError", "ValueError", "UnicodeError", "UnicodeDecodeError", "UnicodeEncodeError",
  "UnicodeTranslateError", "Warning", "BytesWarning", "DeprecationWarning", "EncodingWarning",
  "FutureWarning", "ImportWarning", "PendingDeprecationWarning", "ResourceWarning",
  "RuntimeWarning", "SyntaxWarning", "UnicodeWarning", "UserWarning"]

/-- The name of a built-in class. -/
def name (core : Core) : String := names[core.ctorIdx]?.getD ""

/-- The class that a built-in class extends; all but one extend another. -/
def parent? : Core → Option Core
  | object => none
  | .bool => some .int
  | .generatorExit | .keyboardInterrupt | .systemExit | .baseExceptionGroup
  | .exception => some .baseException
  | .exceptionGroup => some .baseExceptionGroup
  | .arithmeticError | .assertionError | .attributeError | .bufferError
  | .eofError | .importError | .lookupError | .memoryError | .nameError
  | .osError | .referenceError | .runtimeError | .stopIteration
  | .stopAsyncIteration | .syntaxError | .systemError | .typeError
  | .valueError | .warning => some .exception
  | .floatingPointError | .overflowError | .zeroDivisionError => some .arithmeticError
  | .moduleNotFoundError => some .importError
  | .indexError | .keyError => some .lookupError
  | .unboundLocalError => some .nameError
  | .blockingIOError | .childProcessError | .connectionError
  | .fileExistsError | .fileNotFoundError | .interruptedError
  | .isADirectoryError | .notADirectoryError | .permissionError
  | .processLookupError | .timeoutError => some .osError
  | .brokenPipeError | .connectionAbortedError | .connectionRefusedError
  | .connectionResetError => some .connectionError
  | .notImplementedError | .recursionError => some .runtimeError
  | .indentationError => some .syntaxError
  | .tabError => some .indentationError
  | .unicodeError => some .valueError
  | .unicodeDecodeError | .unicodeEncodeError | .unicodeTranslateError => some .unicodeError
  | .bytesWarning | .deprecationWarning | .encodingWarning | .futureWarning
  | .importWarning | .pendingDeprecationWarning | .resourceWarning
  | .runtimeWarning | .syntaxWarning | .unicodeWarning | .userWarning => some .warning
  | _ => some object

/-- A class and those above it, up to a number of them. -/
def lineageWithin : Nat → Core → List Core
  | 0, core => [core]
  | fuel + 1, core => core :: (match core.parent? with
    | some above => lineageWithin fuel above
    | none => [])

/-- A class and all classes above it, the class itself first. -/
def lineage (core : Core) : List Core :=
  match core with
  | exceptionGroup => [exceptionGroup, baseExceptionGroup, exception, baseException, object]
  | core => lineageWithin 8 core

/-- Whether a class is another one or below it. -/
def isBelow (core other : Core) : Bool := core.lineage.contains other

/-- Whether instances are exceptions. -/
def isException (core : Core) : Bool := core.isBelow baseException

/-- Whether a program can declare classes that extend this one. -/
def isExtensible : Core → Bool
  | .noneType | .notImplementedType | .ellipsisType | .bool | .slice
  | .range | .function | .code | .frame | .box | .builtinFunction | .method
  | .methodWrapper | .methodDescriptor | .wrapperDescriptor
  | .classMethodDescriptor | .attributeDescriptor | .memberDescriptor
  | .traceback | .dictKeys | .dictValues | .dictItems | .mappingProxy
  | .generator | .unionType | .sequenceIterator | .callableIterator
  | .textIterator | .asciiIterator | .bytesIterator | .byteArrayIterator
  | .listIterator | .listReverseIterator | .tupleIterator | .rangeIterator
  | .longRangeIterator | .setIterator | .dictKeyIterator
  | .dictValueIterator | .dictItemIterator | .dictReverseKeyIterator
  | .dictReverseValueIterator | .dictReverseItemIterator => false
  | _ => true

/-- Whether a class is found by name among the built-in names. -/
def isNamed : Core → Bool
  | .noneType | .notImplementedType | .ellipsisType | .function | .code
  | .frame | .box | .builtinFunction | .method | .methodWrapper
  | .methodDescriptor | .wrapperDescriptor | .classMethodDescriptor
  | .attributeDescriptor | .memberDescriptor | .module | .traceback
  | .dictKeys | .dictValues | .dictItems | .mappingProxy | .generator
  | .genericAlias | .unionType | .sequenceIterator | .callableIterator
  | .textIterator | .asciiIterator | .bytesIterator | .byteArrayIterator
  | .listIterator | .listReverseIterator | .tupleIterator | .rangeIterator
  | .longRangeIterator | .setIterator | .dictKeyIterator
  | .dictValueIterator | .dictItemIterator | .dictReverseKeyIterator
  | .dictReverseValueIterator | .dictReverseItemIterator => false
  | _ => true

end Core

end ForeignBridge.Foreign
