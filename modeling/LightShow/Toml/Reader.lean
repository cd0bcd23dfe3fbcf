import LightShow.Toml.Lexeme
import LightShow.Toml.Table

/-!
Reading TOML documents. A document is read as the JSON object of the same shape.
-/

set_option autoImplicit false

namespace LightShow.Toml

/-- How many names a path may have. -/
def longestPath : Nat := 80

/-- How many arrays and tables in braces may be open at once. -/
def deepestValue : Nat := 80

/-- A path of at most so many names with dots between them. -/
def pathWithin? : Nat → List Char → Option (List String × List Char)
  | 0, _ => none
  | bound + 1, text => do
    let (name, rest) ← name? (skipGap text)
    match skipGap rest with
    | '.' :: rest =>
      let (path, rest) ← pathWithin? bound rest
      return (name :: path, rest)
    | rest => return ([name], rest)

/-- A path of names. -/
def path? (text : List Char) : Option (List String × List Char) :=
  pathWithin? longestPath text

mutual

/-- A value. The first argument bounds the depth and the length of what is read, the second one how
many brackets and braces may still be opened. -/
def value? : Nat → Nat → List Char → Option (JsonValue × List Char)
  | 0, _, _ => none
  | fuel + 1, depth, text =>
    match text with
    | '[' :: rest => if depth = 0 then none else items? fuel (depth - 1) rest []
    | '\x7b' :: rest => if depth = 0 then none else fields? fuel (depth - 1) rest []
    | '"' :: _ | '\'' :: _ => (string? text).map fun (value, rest) => (.text value, rest)
    | _ => plain? text

/-- The items of an array up to its end. Those read so far are kept in reverse. -/
def items? : Nat → Nat → List Char → List JsonValue → Option (JsonValue × List Char)
  | 0, _, _, _ => none
  | fuel + 1, depth, text, items => do
    match ← skipLines false text with
    | ']' :: rest => return (.array items.reverse, rest)
    | rest =>
      let (item, rest) ← value? fuel depth rest
      match ← skipLines false rest with
      | ',' :: rest => items? fuel depth rest (item :: items)
      | ']' :: rest => return (.array (item :: items).reverse, rest)
      | _ => none

/-- The fields of a table in braces up to its end. A line may end anywhere but within a path. -/
def fields? : Nat → Nat → List Char → Fields → Option (JsonValue × List Char)
  | 0, _, _, _ => none
  | fuel + 1, depth, text, fields => do
    match ← skipLines false text with
    | '\x7d' :: rest => return (.object (closeFields fields), rest)
    | rest =>
      let (path, rest) ← path? rest
      match ← skipLines false rest with
      | '=' :: rest =>
        let (value, rest) ← value? fuel depth (← skipLines false rest)
        let fields ← fields.assign value path
        match ← skipLines false rest with
        | ',' :: rest => fields? fuel depth rest fields
        | '\x7d' :: rest => return (.object (closeFields fields), rest)
        | _ => none
      | _ => none

end

/-- A document on the way: its tables and the path of the open one. -/
structure Draft where
  fields : Fields := []
  current : List String := []
  deriving Repr

namespace Draft

/-- Takes in a header. -/
def header? (draft : Draft) (text : List Char) : Option (Draft × List Char) := do
  match text with
  | '[' :: '[' :: rest =>
    let (path, rest) ← path? rest
    let fields ← draft.fields.descend (Fields.openItem (path.getLastD "")) path.dropLast
    match rest with
    | ']' :: ']' :: rest => return (⟨fields, path⟩, rest)
    | _ => none
  | '[' :: rest =>
    let (path, rest) ← path? rest
    let fields ← draft.fields.descend (Fields.openTable (path.getLastD "")) path.dropLast
    match rest with
    | ']' :: rest => return (⟨fields, path⟩, rest)
    | _ => none
  | _ => none

/-- Takes in a value with the path in front of it. -/
def setting? (draft : Draft) (text : List Char) : Option (Draft × List Char) := do
  let (path, rest) ← path? text
  match rest with
  | '=' :: rest =>
    let rest := skipGap rest
    let (value, rest) ← value? (2 * rest.length + 2) deepestValue rest
    let fields ← draft.fields.descend (Fields.assign value path) draft.current
    return ({ draft with fields }, rest)
  | _ => none

/-- Takes in line after line. -/
def lines? : Nat → Draft → List Char → Option Draft
  | 0, draft, text => if text.isEmpty then some draft else none
  | fuel + 1, draft, text => do
    match ← skipLines false text with
    | [] => return draft
    | '[' :: rest =>
      let (draft, rest) ← draft.header? ('[' :: rest)
      draft.lines? fuel (← endLine rest)
    | rest =>
      let (draft, rest) ← draft.setting? rest
      draft.lines? fuel (← endLine rest)

end Draft

/-- The object of a document. A byte order mark in front does not count. -/
def read? (text : String) : Option JsonValue := do
  let chars := match text.toList with
    | '\ufeff' :: rest => rest
    | chars => chars
  let draft ← Draft.lines? (chars.length + 1) {} chars
  return .object (closeFields draft.fields)

end LightShow.Toml
