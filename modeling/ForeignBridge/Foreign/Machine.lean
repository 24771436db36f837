import ForeignBridge.Foreign.Fixed

/-! # The machine

What runs in the interpreter runs on a machine: the heap, the line being executed, the surroundings
of the code being executed. A run ends with a result or with an exception; an exception carries the
calls it has passed through. While something runs memory only grows: that is part of what a run is,
so it holds of all code without another proof.
-/

namespace ForeignBridge.Foreign

/-- What goes with the code that is being executed, memory apart. -/
structure Registers where
  line : Nat
  frame : Frame
  /-- The containers whose texts are being written. -/
  writing : List Handle
  /-- The exception that is being handled. -/
  handling : Option Handle
  /-- Whether any class has a finalizer. -/
  finalizers : Bool
  /-- The objects whose finalizers have been called. -/
  finalized : List Handle
deriving Inhabited

/-- The state of the interpreter. -/
structure Machine extends Registers where
  heap : Heap
  /-- The objects that stand for texts wherever a source text has them. -/
  interned : List (CodePoints × Handle)
deriving Inhabited

/-- A change of the machine that has a result. -/
structure Course (α : Type) where
  run : Machine → α × Machine
  grows : ∀ machine : Machine, machine.heap.Grows (run machine).2.heap

namespace Course

variable {α β : Type}

@[always_inline, inline]
protected def pure (value : α) : Course α := ⟨fun machine => (value, machine), fun _ => .refl _⟩

@[always_inline, inline]
protected def bind (first : Course α) (next : α → Course β) : Course β where
  run machine :=
    let (value, machine) := first.run machine
    (next value).run machine
  grows machine := (first.grows machine).trans ((next _).grows _)

instance : Monad Course where
  pure := Course.pure
  bind := Course.bind

instance : LawfulMonad Course :=
  .mk' _ (fun _ => rfl) (fun _ _ => rfl) (fun _ _ _ => rfl)

end Course

/-- A run of the interpreter. -/
abbrev Run := ExceptT Thrown Course

namespace Run

variable {α : Type}

/-- What comes of a run on a machine. -/
@[always_inline, inline]
def on (run : Run α) (machine : Machine) : Except Thrown α × Machine := Course.run run machine

/-- The machine as it is. -/
@[always_inline, inline]
def machine : Run Machine := ExceptT.lift ⟨fun machine => (machine, machine), fun _ => .refl _⟩

/-- Changes the registers. -/
@[always_inline, inline]
def setRegisters (change : Registers → Registers) : Run Unit :=
  ExceptT.lift ⟨fun machine => ((), { machine with toRegisters := change machine.toRegisters }),
    fun _ => .refl _⟩

/-- Lets an object stand for a text wherever a source text has it. -/
@[always_inline, inline]
def keepInterned (text : CodePoints) (handle : Handle) : Run Unit :=
  ExceptT.lift ⟨fun machine => ((), { machine with interned := (text, handle) :: machine.interned }),
    fun _ => .refl _⟩

/-- Gives an object other content, unless it is fixed. -/
@[always_inline, inline]
def revise (handle : Handle) (content : Cell) : Run Unit :=
  ExceptT.lift ⟨fun machine => ((), { machine with heap := machine.heap.revise handle content }),
    fun machine => machine.heap.grows_revise handle content⟩

/-- A new object. -/
@[always_inline, inline]
def new (content : Cell) : Run Handle :=
  ExceptT.lift ⟨fun machine =>
      let (handle, heap) := machine.heap.add content
      (handle, { machine with heap }),
    fun machine => machine.heap.grows_add content⟩

end Run

/-- The arguments of a call. -/
structure Arguments where
  positional : List Handle
  keywords : List (String × Handle)
deriving Repr, Inhabited

/-- How a routine calls back into the interpreter. -/
abbrev Invoke := Handle → Arguments → Run Handle

namespace Arguments

/-- Arguments without keywords. -/
def of (positional : List Handle) : Arguments := ⟨positional, []⟩

/-- The arguments with one more in front. -/
def after (first : Handle) (arguments : Arguments) : Arguments :=
  { arguments with positional := first :: arguments.positional }

end Arguments

namespace Frame

/-- Surroundings in which the names of a dictionary are seen and bound. -/
def ofNames (globals : Handle) : Frame := ⟨globals, globals, [], [], .null, .null⟩

end Frame

/-- The hash of a text. Only its being the same for equal texts matters. -/
def textHash (codes : List Nat) : Int :=
  let hash := codes.foldl (fun hash code => (hash * 1000003 + code) % 1099511627689)
    codes.length
  (hash : Int)

namespace Run

/-- The content of an object. -/
def cell (handle : Handle) : Run Cell := do
  return ((← machine).heap.get? handle).getD (.ofCore .object .plain)

/-- What the class of an object keeps in it. -/
def body (handle : Handle) : Run Body := do return (← cell handle).body

/-- Changes the content of an object. -/
def update (handle : Handle) (change : Cell → Cell) : Run Unit := do
  revise handle (change (← cell handle))

/-- Changes what the class of an object keeps in it. -/
def setBody (handle : Handle) (body : Body) : Run Unit := update handle ({ · with body })

/-- A new object of a built-in class. -/
def newOf (core : Core) (body : Body) : Run Handle := new (.ofCore core body)

/-- A new instance of a class. -/
def newInstance (cls : Handle) (body : Body) : Run Handle := new (.of cls body)

/-- An integer; small ones are there already. -/
def newInt (n : Int) : Run Handle :=
  match Fixed.int? n with
  | some handle => return handle
  | none => newOf .int (.int n)

def newFloat (x : Double) : Run Handle := newOf .float (.float x)

def newComplex (real imaginary : Double) : Run Handle := newOf .complex (.complex real imaginary)

/-- A truth value. -/
def truth (b : Bool) : Handle := if b then Fixed.true else Fixed.false

/-- A text; the shortest ones are there already. -/
def newText (text : CodePoints) : Run Handle :=
  match Fixed.text? text with
  | some handle => return handle
  | none => newOf .str (.text text)

def newString (text : String) : Run Handle := newText (.ofString text)

/-- The object that stands for a text wherever a source text has it. -/
def internText (text : CodePoints) : Run Handle := do
  match Fixed.text? text with
  | some handle => return handle
  | none =>
    let known ← machine
    match known.interned.find? fun entry => entry.1 == text && known.heap.isText entry.2 text with
    | some (_, handle) => return handle
    | none =>
      let handle ← newOf .str (.text text)
      keepInterned text handle
      return handle

def internString (text : String) : Run Handle := internText (.ofString text)

/-- Lets an object stand for its text from now on, unless another one does. -/
def intern (handle : Handle) : Run Handle := do
  let content ← cell handle
  match content.body with
  | .text text =>
    if Core.ofHandle? content.type ≠ some .str then return handle
    match (← machine).interned.find? fun entry => entry.1 == text with
    | some (_, found) => return found
    | none =>
      keepInterned text handle
      return handle
  | _ => return handle

def newList (items : List Handle) : Run Handle := newOf .list (.list items)

/-- A tuple; the empty one is there already. -/
def newTuple (items : List Handle) : Run Handle :=
  if items.isEmpty then return Fixed.emptyTuple else newOf .tuple (.tuple items)

/-- Bytes; none and single ones are there already. -/
def newBytes (bytes : List Nat) : Run Handle :=
  match Fixed.bytes? bytes with
  | some handle => return handle
  | none => newOf .bytes (.bytes bytes)

/-- A new dictionary without entries. -/
def newEmptyDict : Run Handle := newOf .dict (.dict .empty)

/-- The calls that an exception has passed through so far. -/
def tracebackOf (exception : Handle) : Run (List TraceFrame) := do
  match ← body exception with
  | .exception info =>
    match info.parts.lookup "__traceback__" with
    | some traceback =>
      match ← body traceback with
      | .traceback frames => return frames
      | _ => return []
    | none => return []
  | _ => return []

/-- A named part with another value. -/
def putPart (name : String) (value : Handle) : List (String × Handle) → List (String × Handle)
  | [] => [(name, value)]
  | (other, old) :: rest =>
    if other = name then (name, value) :: rest else (other, old) :: putPart name value rest

/-- Sets a part of an exception. -/
def setPart (exception : Handle) (name : String) (value : Handle) : Run Unit := do
  match ← body exception with
  | .exception info =>
    setBody exception (.exception { info with parts := putPart name value info.parts })
  | _ => return

/-- Takes a part away from an exception. -/
def dropPart (exception : Handle) (name : String) : Run Unit := do
  match ← body exception with
  | .exception info =>
    setBody exception (.exception { info with parts := info.parts.filter (·.1 != name) })
  | _ => return

/-- A part of an exception. -/
def part? (exception : Handle) (name : String) : Run (Option Handle) := do
  match ← body exception with
  | .exception info => return info.parts.lookup name
  | _ => return none

/-- Cuts a chain of contexts before an exception, up to a length. -/
def cutContext (exception : Handle) : Nat → Handle → Run Unit
  | 0, _ => return
  | fuel + 1, link => do
    match ← part? link "__context__" with
    | none => return
    | some context =>
      if context = exception then dropPart link "__context__"
      else cutContext exception fuel context

/-- Notes on an exception that another one was being handled when it was raised. -/
def setContext (exception : Handle) : Run Unit := do
  match (← machine).handling with
  | none => return
  | some handled =>
    if handled = exception then return
    cutContext exception 1000 handled
    setPart exception "__context__" handled

/-- Raises an exception that is there. -/
def raise {α : Type} (exception : Handle) : Run α := do
  setContext exception
  throw ⟨exception, ← tracebackOf exception, false⟩

/-- A new exception of a built-in class with named parts. -/
def newExceptionWith (core : Core) (arguments : List Handle) (parts : List (String × Handle)) :
    Run Handle := do
  newOf core (.exception ⟨← newTuple arguments, parts⟩)

/-- A new exception of a built-in class. -/
def newException (core : Core) (arguments : List Handle) : Run Handle :=
  newExceptionWith core arguments []

/-- Raises an exception of a built-in class with a message. -/
def failText {α : Type} (core : Core) (message : CodePoints) : Run α := do
  raise (← newException core [← newText message])

/-- Raises an exception of a built-in class with a message. -/
def fail {α : Type} (core : Core) (message : String) : Run α := failText core (.ofString message)

/-- The built-in class of an object, if its class is one. -/
def core? (handle : Handle) : Run (Option Core) := do return Core.ofHandle? (← cell handle).type

/-- The class of an object. -/
def typeOf (handle : Handle) : Run Handle := do return (← cell handle).type

/-- The classes in which the attributes of a class are looked up, in order. -/
def lineage (cls : Handle) : Run (List Handle) := do
  match ← body cls with
  | .core core => return core.lineage.map Core.handle
  | .cls info => return info.lineage
  | _ => return []

/-- The built-in class that decides what the instances of a class hold. -/
def layout (cls : Handle) : Run Core := do
  match ← body cls with
  | .core core => return core
  | .cls info => return info.layout
  | _ => return .object

/-- The built-in class that decides what an object holds. -/
def layoutOf (handle : Handle) : Run Core := do layout (← cell handle).type

/-- The name of a class. -/
def className (cls : Handle) : Run String := do
  match ← body cls with
  | .core core => return core.name
  | .cls info => return info.name
  | _ => return "object"

/-- The name of the class of an object. -/
def typeName (handle : Handle) : Run String := do className (← cell handle).type

/-- Whether a class is another one or below it. -/
def isSubclass (cls other : Handle) : Run Bool := do return (← lineage cls).contains other

/-- Whether an object is an instance of a built-in class or of one below it. -/
def isA (handle : Handle) (core : Core) : Run Bool := do
  isSubclass (← cell handle).type core.handle

/-- Whether an object is a class. -/
def isClass (handle : Handle) : Run Bool := do
  match ← body handle with
  | .core _ | .cls _ => return true
  | _ => return false

/-- The text in an object, if it is one. -/
def text? (handle : Handle) : Run (Option CodePoints) := do
  match ← body handle with
  | .text text => return some text
  | _ => return none

/-- The integer in an object, if it is one. -/
def int? (handle : Handle) : Run (Option Int) := do
  match ← body handle with
  | .int n => return some n
  | _ => return none

/-- The items of a list or a tuple. -/
def itemsOf (handle : Handle) : Run (List Handle) := do
  match ← body handle with
  | .list items | .tuple items => return items
  | _ => return []

/-- The outcome of a run, exceptions included. -/
def outcome {α : Type} (run : Run α) : Run (Except Thrown α) :=
  tryCatch (Except.ok <$> run) fun thrown => return .error thrown

/-- Runs something, and in the end something else, whatever comes of the first. -/
def ensure {α : Type} (after : Run Unit) (run : Run α) : Run α := do
  match ← outcome run with
  | .ok value =>
    after
    return value
  | .error thrown =>
    after
    throw thrown

/-- Runs something; an exception of a built-in class, or of one below it, counts as no result. -/
def unlessRaised (core : Core) {α : Type} (run : Run α) : Run (Option α) :=
  tryCatch (some <$> run) fun thrown => do
    if ← isA thrown.exception core then return none else throw thrown

/-- Runs with a mark on an object whose text is being written; `none` if it has the mark. -/
def writingOnce {α : Type} (handle : Handle) (run : Run α) : Run (Option α) := do
  let outer := (← machine).writing
  if handle ∈ outer then return none
  else
    setRegisters ({ · with writing := handle :: outer })
    some <$> ensure (setRegisters ({ · with writing := outer })) run

end Run

end ForeignBridge.Foreign
