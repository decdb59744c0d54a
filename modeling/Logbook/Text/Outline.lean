import Logbook.Text.Quoted

namespace Logbook.Text

/-- A `record` that is not `whole` has fields that are not shown. -/
inductive Outline where
  | atom (text : String)
  | wrapped (name : String) (content : Outline)
  | list (items : List Outline)
  | record (name : String) (fields : List (String × Outline)) (whole : Bool)

namespace Outline

def string (text : String) : Outline := .atom (quoted text)

def bool (b : Bool) : Outline := .atom (if b then "true" else "false")

def nat (n : Nat) : Outline := .atom (toString n)

def option {α : Type} (f : α → Outline) : Option α → Outline
  | none => .atom "None"
  | some a => .wrapped "Some" (f a)

def spaced (parts : List String) : String :=
  ", ".intercalate parts

mutual

def inline : Outline → String
  | .atom text => text
  | .wrapped name content => name ++ "(" ++ inline content ++ ")"
  | .list items => "[" ++ spaced (inlineItems items) ++ "]"
  | .record name fields whole =>
    name ++ " \x7b " ++ spaced (inlineFields fields ++ if whole then [] else [".."]) ++ " \x7d"

def inlineItems : List Outline → List String
  | [] => []
  | item :: rest => inline item :: inlineItems rest

def inlineFields : List (String × Outline) → List String
  | [] => []
  | (name, value) :: rest => (name ++ ": " ++ inline value) :: inlineFields rest

end

def margin (depth : Nat) : String :=
  String.ofList (List.replicate (4 * depth) ' ')

def line (depth : Nat) (text : String) : String :=
  margin depth ++ text ++ "\n"

mutual

def indented (depth : Nat) : Outline → String
  | .atom text => text
  | .wrapped name content =>
    name ++ "(\n" ++ line (depth + 1) (indented (depth + 1) content ++ ",") ++ margin depth ++ ")"
  | .list [] => "[]"
  | .list (item :: rest) =>
    "[\n" ++ indentedItems (depth + 1) (item :: rest) ++ margin depth ++ "]"
  | .record name fields whole =>
    name ++ " \x7b\n" ++ indentedFields (depth + 1) fields ++
      (if whole then "" else line (depth + 1) "..") ++ margin depth ++ "\x7d"

def indentedItems (depth : Nat) : List Outline → String
  | [] => ""
  | item :: rest => line depth (indented depth item ++ ",") ++ indentedItems depth rest

def indentedFields (depth : Nat) : List (String × Outline) → String
  | [] => ""
  | (name, value) :: rest =>
    line depth (name ++ ": " ++ indented depth value ++ ",") ++ indentedFields depth rest

end

def render (value : Outline) (pretty : Bool) : String :=
  if pretty then indented 0 value else inline value

end Outline

end Logbook.Text
