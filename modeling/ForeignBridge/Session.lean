import ForeignBridge.Handle
import ForeignBridge.Text.Outline

/-! # Session

A session knows the objects by which values are recognised: the singleton that stands for nothing
and the six built-in classes with a counterpart on the side of the host. An object is of a kind only
if its class is the very class of that kind; classes below it do not count.
-/

namespace ForeignBridge

/-- The kinds of objects that have a counterpart. -/
inductive Kind where
  | none | bool | int | float | str | list | dict
deriving DecidableEq, Repr, Inhabited

/-- The name of a kind. -/
def Kind.name : Kind → String
  | none => "None"
  | bool => "Bool"
  | int => "Int"
  | float => "Float"
  | str => "Str"
  | list => "List"
  | dict => "Dict"

/-- The objects that a started interpreter is known by. -/
structure Session where
  /-- The module of built-in names. -/
  builtins : Handle
  /-- The singleton itself, not its class. -/
  none : Handle
  boolClass : Handle
  intClass : Handle
  floatClass : Handle
  strClass : Handle
  listClass : Handle
  dictClass : Handle
deriving DecidableEq, Repr

namespace Session

/-- All objects that a session refers to. -/
def handles (session : Session) : List Handle :=
  [session.builtins, session.none, session.boolClass, session.intClass, session.floatClass,
    session.strClass, session.listClass, session.dictClass]

/-- The classes that are recognised, in the order in which they are tried. -/
def classes (session : Session) : List (Kind × Handle) :=
  [(.bool, session.boolClass), (.int, session.intClass), (.float, session.floatClass),
    (.str, session.strClass), (.list, session.listClass), (.dict, session.dictClass)]

/-- The kind of an object of a class. -/
def kind? (session : Session) (handle cls : Handle) : Option Kind :=
  if handle.isNull then .none
  else if handle = session.none then some .none
  else (session.classes.find? fun entry => entry.2 == cls).map (·.1)

/-- The structure of a session, given the names of the classes of objects. -/
def outline (typeName : Handle → String) (session : Session) : Outline :=
  let proxy (handle : Handle) : Outline := handle.proxyOutline (typeName handle)
  .struct "Session" [
    ("builtins", proxy session.builtins),
    ("types", .struct "BuiltinTypes" [
      ("none", proxy session.none),
      ("bool_type", proxy session.boolClass),
      ("int_type", proxy session.intClass),
      ("float_type", proxy session.floatClass),
      ("str_type", proxy session.strClass),
      ("list_type", proxy session.listClass),
      ("dict_type", proxy session.dictClass)])]

end Session

end ForeignBridge
