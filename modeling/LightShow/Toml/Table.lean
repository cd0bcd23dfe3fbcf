import LightShow.Json.Value

/-!
The tables of a TOML document while it is read. A table may be opened once by a header; a path of
names in front of a value makes tables, or takes over those that were only implied, and later paths
may add to them, but no header may open them again.
-/

set_option autoImplicit false

namespace LightShow.Toml

/-- How a table came to be. -/
inductive TableOrigin where
  /-- It was only named on the way to another one. -/
  | implied
  /-- It was named in the path of a value. -/
  | dotted
  /-- It was opened by a header of its own. -/
  | opened
  deriving DecidableEq, Repr

inductive Node where
  /-- A value, to which nothing can be added. -/
  | value (value : JsonValue)
  | table (origin : TableOrigin) (fields : List (String × Node))
  /-- A list of tables, of which the last one is open. -/
  | tables (items : List (List (String × Node)))
  deriving Repr

/-- The fields of a table. -/
abbrev Fields := List (String × Node)

mutual

/-- A finished node as a value. -/
def Node.close : Node → JsonValue
  | .value value => value
  | .table _ fields => .object (closeFields fields)
  | .tables items => .array (closeTables items)

def closeFields : List (String × Node) → List (String × JsonValue)
  | [] => []
  | (name, node) :: rest => (name, node.close) :: closeFields rest

def closeTables : List (List (String × Node)) → List JsonValue
  | [] => []
  | fields :: rest => .object (closeFields fields) :: closeTables rest

end

namespace Fields

def find? (fields : Fields) (name : String) : Option Node :=
  (List.find? (fun field => field.1 = name) fields).map Prod.snd

/-- Puts a node under a name. -/
def put (fields : Fields) (name : String) (node : Node) : Fields :=
  if (fields.find? name).isSome then
    fields.map fun field => if field.1 = name then (name, node) else field
  else fields ++ [(name, node)]

/-- Changes the table at the end of a path of headers. Tables on the way that are missing are
made. -/
def descend (edit : Fields → Option Fields) : List String → Fields → Option Fields
  | [], fields => edit fields
  | name :: path, fields =>
    match fields.find? name with
    | none => do return fields.put name (.table .implied (← descend edit path []))
    | some (.table origin inner) => do
      return fields.put name (.table origin (← descend edit path inner))
    | some (.tables items) => do
      let last ← descend edit path (items.getLast?.getD [])
      return fields.put name (.tables (items.dropLast ++ [last]))
    | some (.value _) => none

/-- Opens a table. -/
def openTable (name : String) (fields : Fields) : Option Fields :=
  match fields.find? name with
  | none => some (fields.put name (.table .opened []))
  | some (.table .implied inner) => some (fields.put name (.table .opened inner))
  | _ => none

/-- Opens another table of a list. -/
def openItem (name : String) (fields : Fields) : Option Fields :=
  match fields.find? name with
  | none => some (fields.put name (.tables [[]]))
  | some (.tables items) => some (fields.put name (.tables (items ++ [[]])))
  | _ => none

/-- Enters a value under a path of names. The path may lead through tables that are not opened and
through the last table of a list, but the value may not stand in an item of a list itself. -/
def assign (value : JsonValue) : List String → Fields → Option Fields
  | [], _ => none
  | [name], fields =>
    if (fields.find? name).isSome then none else some (fields.put name (.value value))
  | name :: path, fields =>
    match fields.find? name with
    | none => do return fields.put name (.table .dotted (← assign value path []))
    | some (.table .opened _) => none
    | some (.table _ inner) => do
      return fields.put name (.table .dotted (← assign value path inner))
    | some (.tables items) => do
      if path.length ≤ 1 then none
      else
        let last ← assign value path (items.getLast?.getD [])
        return fields.put name (.tables (items.dropLast ++ [last]))
    | some (.value _) => none

end Fields

end LightShow.Toml
