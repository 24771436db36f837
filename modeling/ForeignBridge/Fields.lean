/-! # Named fields

Fields kept in the order of their names, each name once. Names are ordered by code points, which
is the order of their UTF-8 bytes.
-/

namespace ForeignBridge.Fields

variable {α : Type}

/-- The fields with one more; a field of the same name is replaced. -/
def insert (name : String) (value : α) : List (String × α) → List (String × α)
  | [] => [(name, value)]
  | (other, old) :: rest =>
    if name < other then (name, value) :: (other, old) :: rest
    else if name = other then (name, value) :: rest
    else (other, old) :: insert name value rest

/-- The fields of a list of pairs; of two pairs with one name the later counts. -/
def ofList (pairs : List (String × α)) : List (String × α) :=
  pairs.foldl (fun fields pair => insert pair.1 pair.2 fields) []

/-- The value of a field. -/
def get? (name : String) (fields : List (String × α)) : Option α := fields.lookup name

end ForeignBridge.Fields
