import ForeignBridge.Foreign.Core
import ForeignBridge.Foreign.Members
import ForeignBridge.Foreign.Tree

/-! # Cells

A cell is the content of one object: its class, the attributes of its own, and what its class keeps
in it.
-/

namespace ForeignBridge.Foreign

/-- A key with its hash, its value, and its place among all keys that a dictionary has had. -/
structure Entry where
  hash : Int
  key : Handle
  value : Handle
  place : Nat
deriving DecidableEq, Repr, Inhabited

/-- The entries of a dictionary in the order in which their keys came. -/
structure Dictionary where
  entries : List Entry
  /-- The place of the next new key. -/
  next : Nat
deriving DecidableEq, Repr, Inhabited

namespace Dictionary

def empty : Dictionary := ⟨[], 0⟩

/-- The dictionary with a key that it does not have. -/
def insert (dictionary : Dictionary) (hash : Int) (key value : Handle) : Dictionary :=
  ⟨dictionary.entries ++ [⟨hash, key, value, dictionary.next⟩], dictionary.next + 1⟩

/-- The dictionary with another value at a place. -/
def replace (dictionary : Dictionary) (place : Nat) (value : Handle) : Dictionary :=
  { dictionary with entries := dictionary.entries.map fun entry =>
      if entry.place = place then { entry with value } else entry }

/-- The dictionary without the entry at a place. -/
def erase (dictionary : Dictionary) (place : Nat) : Dictionary :=
  { dictionary with entries := dictionary.entries.filter (·.place != place) }

end Dictionary

/-- A call that an exception passed through, with the objects that it still refers to. -/
structure TraceFrame where
  file : String
  line : Nat
  name : String
  holds : List Handle
deriving DecidableEq, Repr, Inhabited

/-- An exception on its way, and the calls it has passed through, the outermost first. -/
structure Thrown where
  exception : Handle
  frames : List TraceFrame
  /-- Whether the call that is being executed is among them. -/
  recorded : Bool
deriving Repr, Inhabited

/-- How a statement ends: with the next one, with the result of the function, at the end or the start
of the loop around it, or with an exception. -/
inductive Flow where
  | next
  | give (value : Handle)
  | escape
  | again
  | raise (thrown : Thrown)
deriving Repr, Inhabited

/-- What is left to do in a call. -/
inductive Task where
  | run (statements : List Statement)
  | whilst (line : Nat) (test : Expression) (body otherwise : List Statement)
  | loop (line : Nat) (target : Expression) (iterator : Handle) (body otherwise : List Statement)
  /-- What is for the exceptions of the tasks before it. -/
  | guard (handlers otherwise : List Statement)
  /-- The end of a handler: the exception handled before it, and the name that is unbound. -/
  | handled (before : Option Handle) (name : Option Expression)
  /-- What is done whatever the tasks before it come to. -/
  | final (statements : List Statement)
  /-- How things go on after that, and the exception handled before it. -/
  | resume (flow : Flow) (before : Option Handle)
  /-- The end of a managed block: the function that is called then. -/
  | leave (line : Nat) (exit : Handle)
  /-- Takes the object that is sent to a generator. -/
  | receive (targets : List Expression)
  /-- Gives a result once an object has been sent. -/
  | giveReceived
  /-- Hands out what another iterator has. -/
  | delegate (line : Nat) (iterator : Handle) (targets : List Expression)
deriving Repr, Inhabited

/-- The surroundings of the code that is being executed. -/
structure Frame where
  /-- The dictionary of the names of the module. -/
  globals : Handle
  /-- The dictionary in which names are bound outside functions. -/
  names : Handle
  /-- The variables of a function. -/
  locals : List (String × Handle)
  /-- The cells of shared variables. -/
  shared : List (String × Handle)
  code : Handle
  /-- The function that is being executed, if it is one. -/
  function : Handle
deriving Repr, Inhabited

namespace Frame

/-- The objects that a frame refers to. -/
def references (frame : Frame) : List Handle :=
  frame.function :: frame.code :: frame.locals.map (·.2) ++ frame.shared.map (·.2)

end Frame

/-- How far a generator has come. -/
inductive GeneratorPhase where
  | created | suspended | running | closed
deriving DecidableEq, Repr, Inhabited

/-- A call that hands out values and waits in between. -/
structure Suspended where
  name : String
  qualifiedName : String
  frame : Frame
  tasks : List Task
  phase : GeneratorPhase
  /-- The exception that is being handled in it. -/
  handling : Option Handle
deriving Repr, Inhabited

/-- Where a routine belongs: to a built-in class or to a module. -/
inductive Owner where
  | core (core : Core)
  | module (name : String)
deriving DecidableEq, Repr, Inhabited

/-- How a routine is reached through its class. -/
inductive Flavour where
  /-- Called on an instance by its own name. -/
  | method
  /-- Called on an instance by an operation of the language. -/
  | slot
  /-- Called on the class. -/
  | classMethod
  /-- Called alone. -/
  | alone
  /-- Computed when it is read. -/
  | value
  /-- A part of the instance. -/
  | part
deriving DecidableEq, Repr, Inhabited

/-- The parameters of a routine that takes named arguments. -/
structure Signature where
  names : List String
  /-- How many of them take positional arguments only. -/
  positionalOnly : Nat
  /-- How many of them must be given. -/
  required : Nat
  /-- How many of the last ones take named arguments only. -/
  namedOnly : Nat
deriving DecidableEq, Repr, Inhabited

/-- How many arguments a routine takes. -/
inductive Arity where
  | none
  | one
  | between (least most : Nat)
  /-- The same, told in other words. -/
  | counted (least most : Nat)
  | named (signature : Signature)
  /-- Checked by the routine itself. -/
  | free
deriving DecidableEq, Repr, Inhabited

/-- A function that is not written in the language. -/
structure Routine where
  owner : Owner
  name : String
  flavour : Flavour
  arity : Arity
deriving DecidableEq, Repr, Inhabited

/-- What a class declared by a program keeps. -/
structure ClassInfo where
  name : String
  qualifiedName : String
  /-- The built-in class that decides what instances hold. -/
  layout : Core
  /-- The tuple of the bases. -/
  bases : Handle
  /-- The base that decides how instances are made. -/
  base : Handle
  /-- The classes that attributes are looked up in, in order. -/
  lineage : List Handle
  /-- Whether instances have attributes of any name. -/
  open? : Bool
  /-- Whether the class adds places for attributes to those of its base. -/
  placed : Bool
deriving Repr, Inhabited

/-- What a function keeps. -/
structure FunctionInfo where
  name : String
  qualifiedName : String
  code : Handle
  /-- The dictionary of the names of the module. -/
  globals : Handle
  /-- The tuple of the defaults, if there are any. -/
  defaults : Handle
  /-- The dictionary of the defaults of named parameters, if there are any. -/
  keywordDefaults : Handle
  /-- The cells of the variables of functions around it. -/
  closure : List Handle
  documentation : Handle
  module : Handle
  /-- The dictionary of annotations, once there is one. -/
  annotations : Handle
deriving Repr, Inhabited

/-- Which part of a dictionary is viewed. -/
inductive ViewKind where
  | keys | values | items
deriving DecidableEq, Repr, Inhabited

/-- How far an iterator has come. -/
inductive Iteration where
  | done
  /-- The items of a sequence from an index on. -/
  | items (sequence : Handle) (index : Nat)
  /-- So many items of a list, the last one first. -/
  | itemsBack (sequence : Handle) (left : Nat)
  /-- What an object has under one index after another. -/
  | indexed (object : Handle) (index : Nat)
  | indexedBack (object : Handle) (left : Nat)
  /-- What a function answers until it answers a given object. -/
  | calls (function sentinel : Handle)
  | numbers (next step : Int) (left : Nat)
  /-- The entries of a dictionary that had some size from a place on. -/
  | entries (kind : ViewKind) (back : Bool) (dict : Handle) (size place left : Nat)
  /-- The members of a set that had some size from a slot on. -/
  | members (set : Handle) (size slot : Nat)
  | enumerate (iterator : Handle) (count : Int)
  | zip (iterators : List Handle) (strict : Bool)
  | map (function : Handle) (iterators : List Handle)
  | filter (function iterator : Handle)
deriving Repr, Inhabited

namespace Iteration

/-- The objects that an iterator refers to. -/
def references : Iteration → List Handle
  | done | numbers .. => []
  | items sequence _ | itemsBack sequence _ => [sequence]
  | indexed object _ | indexedBack object _ => [object]
  | calls function sentinel => [function, sentinel]
  | entries _ _ dict _ _ _ => [dict]
  | members set _ _ => [set]
  | enumerate iterator _ => [iterator]
  | zip iterators _ => iterators
  | map function iterators => function :: iterators
  | filter function iterator => [function, iterator]

end Iteration

/-- What an exception keeps: its arguments, and parts under names of their own. -/
structure ExceptionInfo where
  /-- The tuple of the arguments. -/
  arguments : Handle
  parts : List (String × Handle)
deriving Repr, Inhabited

/-- What a class keeps in an instance. -/
inductive Body where
  | plain
  | int (value : Int)
  | float (value : Double)
  | complex (real imaginary : Double)
  | text (value : CodePoints)
  | bytes (value : List Nat)
  | list (items : List Handle)
  | tuple (items : List Handle)
  | dict (content : Dictionary)
  | set (members : Members)
  | slice (start stop step : Handle)
  | range (start stop step : Int)
  | core (core : Core)
  | cls (info : ClassInfo)
  | function (info : FunctionInfo)
  | code (code : Code)
  | frame (frame : TraceFrame)
  /-- A shared variable, which may have no value. -/
  | box (content : Option Handle)
  | routine (routine : Routine)
  | boundRoutine (routine : Routine) (self : Handle)
  | method (function self : Handle)
  | property (getter setter deleter documentation : Handle)
  /-- An attribute with a place of its own in each instance. -/
  | member (owner : Handle) (name : String)
  /-- The attribute of instances that is their dictionary, or one that is never set. -/
  | attributesOf (owner : Handle) (name : String)
  | staticMethod (function : Handle)
  | classMethod (function : Handle)
  | module
  | traceback (frames : List TraceFrame)
  | exception (info : ExceptionInfo)
  | view (kind : ViewKind) (dict : Handle)
  | proxy (mapping : Handle)
  | iterator (state : Iteration)
  | generator (state : Suspended)
  | applied (origin arguments : Handle)
  | union (members : Handle)
  /-- An object seen from behind a class in its lineage. -/
  | above (cls object objectClass : Handle)
deriving Repr, Inhabited

namespace Flow

/-- The objects that a way of going on refers to. -/
def references : Flow → List Handle
  | give value => [value]
  | raise thrown => [thrown.exception]
  | next | escape | again => []

end Flow

namespace Task

/-- The objects that a task refers to. -/
def references : Task → List Handle
  | loop _ _ iterator _ _ | delegate _ iterator _ => [iterator]
  | handled before _ => before.toList
  | resume flow before => flow.references ++ before.toList
  | leave _ exit => [exit]
  | run _ | whilst .. | guard .. | final _ | receive _ | giveReceived => []

end Task

namespace Body

/-- The objects that a body refers to, once for each reference. -/
def references : Body → List Handle
  | list items | tuple items => items
  | dict content => content.entries.flatMap fun entry => [entry.key, entry.value]
  | set members => members.keys
  | slice start stop step => [start, stop, step]
  | cls info => info.bases :: info.base :: info.lineage
  | function info =>
    [info.code, info.globals, info.defaults, info.keywordDefaults, info.documentation, info.module,
      info.annotations] ++ info.closure
  | code content => content.constants
  | frame content => content.holds
  | box content => content.toList
  | boundRoutine _ self => [self]
  | method callee self => [callee, self]
  | property getter setter deleter documentation => [getter, setter, deleter, documentation]
  | member owner _ | attributesOf owner _ => [owner]
  | staticMethod callee | classMethod callee => [callee]
  | traceback frames => frames.flatMap (·.holds)
  | exception info => info.arguments :: info.parts.map (·.2)
  | view _ viewed | proxy viewed => [viewed]
  | iterator state => state.references
  | generator state => state.frame.references ++ state.tasks.flatMap Task.references
  | applied origin arguments => [origin, arguments]
  | union members => [members]
  | above start object objectClass => [start, object, objectClass]
  | plain | int _ | float _ | complex .. | text _ | bytes _ | range .. | core _ | routine _
  | module => []

end Body

/-- The content of an object. -/
structure Cell where
  type : Handle
  body : Body
  /-- The attributes of its own, unless they are in a dictionary. -/
  attributes : List (String × Handle)
  /-- The dictionary that holds the attributes of its own, once something has asked for it. -/
  dictionary : Option Handle
  /-- The attributes that have a place of their own. -/
  places : List (String × Handle)
deriving Repr, Inhabited

namespace Cell

/-- A cell of a class without attributes of its own. -/
def of (type : Handle) (body : Body) : Cell := ⟨type, body, [], none, []⟩

/-- A cell of a built-in class without attributes of its own. -/
def ofCore (core : Core) (body : Body) : Cell := of core.handle body

/-- Whether an object never changes: a number, a text, bytes, a tuple or a singleton of the interpreter,
one of its own classes, or a routine. Instances of classes below these may have attributes. -/
def isFixed (cell : Cell) : Bool :=
  match Core.ofHandle? cell.type, cell.body with
  | some .int, .int _ | some .bool, .int _ | some .float, .float _ | some .str, .text _
  | some .bytes, .bytes _ | some .tuple, .tuple _ | some .noneType, _
  | some .notImplementedType, _ | some .ellipsisType, _ | some .type, .core _ | some _, .routine _ => true
  | _, _ => false

/-- Whether a cell is of an object that holds a text and has nothing else. -/
def isText (cell : Cell) (text : CodePoints) : Bool :=
  match cell with
  | ⟨type, .text codes, [], none, []⟩ => type == Core.str.handle && codes == text
  | _ => false

/-- The objects that a cell refers to, once for each reference. A built-in class is not counted by
its instances. -/
def references (cell : Cell) : List Handle :=
  (if (Core.ofHandle? cell.type).isSome then [] else [cell.type]) ++
    cell.attributes.map (·.2) ++ cell.dictionary.toList ++ cell.places.map (·.2) ++
    cell.body.references

end Cell

end ForeignBridge.Foreign
