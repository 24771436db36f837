import ForeignBridge.Foreign.CodePoints
import ForeignBridge.Handle
import ForeignBridge.Number.Double

/-! # Syntax trees

Expressions and statements of the interpreter's language. A tree as it is read has constants and
names; a tree that is ready to run has the objects of its constants, the place of each name, and the
code objects of its functions.
-/

namespace ForeignBridge.Foreign

/-- A constant of a source text. -/
inductive Literal where
  | none
  | true
  | false
  | ellipsis
  | int (value : Int)
  | float (value : Double)
  | imaginary (value : Double)
  | text (value : CodePoints)
  | bytes (value : List Nat)
deriving DecidableEq, Repr, Inhabited

/-- An operator between two values. -/
inductive BinaryOperator where
  | add | sub | mul | matMul | div | floorDiv | mod | pow | shiftLeft | shiftRight | or | xor | and
deriving DecidableEq, Repr, Inhabited

/-- A comparison of two values. -/
inductive Comparison where
  | equal | notEqual | less | lessEqual | greater | greaterEqual | is | isNot | isIn | notIn
deriving DecidableEq, Repr, Inhabited

/-- An operator in front of a value. -/
inductive UnaryOperator where
  | negative | positive | invert | not
deriving DecidableEq, Repr, Inhabited

/-- Where a name is looked up. -/
inductive Place where
  /-- Among the names of the module or class, then of the module, then among the built-in names. -/
  | named
  /-- Among the names of the module, then among the built-in names. -/
  | global
  /-- Among the variables of the function. -/
  | own
  /-- Among the variables that the function shares with others. -/
  | shared
  /-- Among the names of the class, then among the shared variables of the functions around it. -/
  | around
deriving DecidableEq, Repr, Inhabited

/-- What a comprehension makes. -/
inductive Gathering where
  | list | set | dict | generator
deriving DecidableEq, Repr, Inhabited

/-- How a parameter takes arguments. -/
inductive ParameterKind where
  | positionalOnly
  | positional
  /-- Takes the remaining positional arguments. -/
  | rest
  | keywordOnly
  /-- Takes the remaining named arguments. -/
  | keywords
deriving DecidableEq, Repr, Inhabited

/-- An expression. Operations have the line on which the interpreter places what goes wrong in them.
A few forms stand only as parts of others: a pair in a dictionary, a keyword in a call, a comparison
in a chain, a slice in a subscript, a parameter, a clause of a comprehension. -/
inductive Expression where
  | constant (literal : Literal)
  /-- A constant whose object has been made. -/
  | object (handle : Handle)
  | name (line : Nat) (place : Place) (name : String)
  | list (line : Nat) (items : List Expression)
  | tuple (line : Nat) (items : List Expression)
  | set (line : Nat) (items : List Expression)
  | dict (line : Nat) (items : List Expression)
  | pair (key value : Expression)
  | starred (line : Nat) (value : Expression)
  | doubleStarred (value : Expression)
  | keyword (name : String) (value : Expression)
  | call (line : Nat) (target : Expression) (arguments : List Expression)
  | member (line : Nat) (target : Expression) (name : String)
  | subscript (line : Nat) (target index : Expression)
  | slice (start stop step : Expression)
  | unary (line : Nat) (operator : UnaryOperator) (operand : Expression)
  | binary (line : Nat) (operator : BinaryOperator) (left right : Expression)
  | chain (line : Nat) (first : Expression) (links : List Expression)
  | link (comparison : Comparison) (right : Expression)
  | both (left right : Expression)
  | either (left right : Expression)
  | choice (test whenTrue whenFalse : Expression)
  /-- An assignment inside an expression. -/
  | named (target value : Expression)
  | lambda (line : Nat) (parameters : List Expression) (value : Expression)
  | parameter (kind : ParameterKind) (name : String) (default annotation : Option Expression)
  /-- Elements for all choices of some clauses; without clauses, what has been made of them. -/
  | gather (line : Nat) (gathering : Gathering) (element : Expression) (clauses : List Expression)
  | clause (target source : Expression) (conditions : List Expression)
  /-- A text made of parts. -/
  | joined (parts : List Expression)
  /-- A value in a text, with the letter of a conversion, if one is asked for, and a format. -/
  | formatted (line : Nat) (value : Expression) (conversion : Option Char)
      (format : Option Expression)
  /-- A value that a generator hands out. -/
  | yield (line : Nat) (value : Option Expression)
  /-- The values that a generator hands out for another iterator. -/
  | yieldFrom (line : Nat) (source : Expression)
  /-- A function whose code object has been made, with the values of its defaults. -/
  | closure (line : Nat) (code : Handle) (defaults : List Expression)
      (keywordDefaults annotations : List Expression)
  /-- A class whose code object has been made. -/
  | build (line : Nat) (code : Handle) (name : String) (arguments : List Expression)
  /-- A comprehension whose code object has been made, over a first source. -/
  | collect (line : Nat) (gathering : Gathering) (code : Handle) (source : Expression)
deriving Repr, Inhabited

/-- A statement. A handler stands only in a statement that shields its body. -/
inductive Statement where
  /-- A statement that begins on a line. -/
  | located (line : Nat) (statement : Statement)
  | expression (value : Expression)
  | assign (targets : List Expression) (value : Expression)
  | update (line : Nat) (operator : BinaryOperator) (target value : Expression)
  /-- A target with an annotation, which may be given a value. -/
  | annotate (target annotation : Expression) (value : Option Expression)
  | delete (targets : List Expression)
  | pass
  | escape
  | again
  | give (value : Option Expression)
  | raise (value cause : Option Expression)
  | check (test : Expression) (message : Option Expression)
  /-- Names of the module. -/
  | globals (names : List String)
  /-- Names of the functions around. -/
  | outers (names : List String)
  /-- Module names, each with the target that is bound, and whether the target was named apart. -/
  | load (modules : List (String × Expression × Bool))
  /-- Names from a module, each with the target that is bound. -/
  | loadFrom (level : Nat) (module : String) (names : List (String × Expression))
  | define (name : String) (parameters : List Expression) (returns : Option Expression)
      (decorators : List Expression) (body : List Statement)
  | declareClass (name : String) (arguments decorators : List Expression) (body : List Statement)
  | branch (test : Expression) (whenTrue whenFalse : List Statement)
  | whilst (test : Expression) (body otherwise : List Statement)
  | loop (target source : Expression) (body otherwise : List Statement)
  | enter (line : Nat) (manager : Expression) (target : Option Expression) (body : List Statement)
  | shield (body handlers otherwise final : List Statement)
  | handler (test : Option Expression) (name : Option Expression) (body : List Statement)
  /-- Puts an element into what a comprehension makes. -/
  | emit (gathering : Gathering) (element : Expression)
deriving Repr, Inhabited

/-- Whether an expression stands for the items of another. -/
def Expression.isStarred : Expression → Bool
  | .starred .. => true
  | _ => false

/-- What a code object is for. -/
inductive CodeKind where
  | module | function | generator | cls
deriving DecidableEq, Repr, Inhabited

/-- A piece of code that is ready to run, with what is known of its variables. -/
structure Code where
  name : String
  /-- The name with those of the classes and functions around it. -/
  qualifiedName : String
  /-- The name of the source text. -/
  file : String
  line : Nat
  kind : CodeKind
  /-- How many of the positional parameters take no named arguments. -/
  positionalOnly : Nat
  positional : List String
  rest : Option String
  keywordOnly : List String
  keywords : Option String
  body : List Statement
  /-- The variables of its own, parameters first. -/
  own : List String
  /-- The variables of its own that functions inside it share. -/
  shared : List String
  /-- The variables of functions around it that it shares. -/
  free : List String
  /-- The objects of its constants and the code objects inside it. -/
  constants : List Handle
  documentation : Option Handle
deriving Repr, Inhabited

end ForeignBridge.Foreign
