import CloudReconcile.Json.Value

/-!
# Schemas of custom resources

What values a property of a custom resource may have.  Members and keywords are written in the
order of their names.
-/

namespace CloudReconcile
namespace Crd

mutual

/-- What a value looks like. -/
inductive Schema where
  | text
  | flag
  | choice (names : List String)
  | map (values : Schema)
  | list (items : Schema)
  | record (members : List Member)

/-- A member of a record: a property, what is said of it, and whether it may be missing. -/
inductive Member where
  | mk (key : String) (schema : Schema) (notes : Notes) (required : Bool)

/-- What is said of a property besides its schema. -/
inductive Notes where
  | mk (description : Option String) (default : Option String) (nullable : Bool)
       (title : Option String)

end

namespace Notes

def blank : Notes := .mk none none false none

def nullable : Notes := .mk none none true none

def described (description : String) : Notes := .mk (some description) none false none

end Notes

namespace Member

def required (key : String) (schema : Schema) : Member := .mk key schema .blank true

def documented (key description : String) (schema : Schema) : Member :=
  .mk key schema (.described description) true

def plain (key : String) (schema : Schema) : Member := .mk key schema .blank false

def optional (key : String) (schema : Schema) : Member := .mk key schema .nullable false

def requiredKey? : Member → Option String
  | .mk key _ _ required => if required then some key else none

end Member

namespace Schema

def keyword {α : Type} (key : String) (value : Option α) (write : α → Json.Value) :
    List (String × Json.Value) :=
  match value with
  | some a => [(key, write a)]
  | none => []

def keywordList (key : String) (names : List String) : List (String × Json.Value) :=
  if names.isEmpty then [] else [(key, .array (names.map .string))]

/-- All keywords in the order of their names. -/
def keywords (notes : Notes) (additional items properties : List (String × Json.Value))
    (names required : List String) (type : String) : Json.Value :=
  match notes with
  | .mk description default nullable title =>
    .object (additional ++ keyword "default" default .string ++
      keyword "description" description .string ++ keywordList "enum" names ++ items ++
      (if nullable then [("nullable", .bool true)] else []) ++ properties ++
      keywordList "required" required ++ keyword "title" title .string ++
      [("type", .string type)])

mutual

/-- A schema in JSON, with what is said of the property. -/
def write (notes : Notes) : Schema → Json.Value
  | .text => keywords notes [] [] [] [] [] "string"
  | .flag => keywords notes [] [] [] [] [] "boolean"
  | .choice names => keywords notes [] [] [] names [] "string"
  | .map values => keywords notes [("additionalProperties", values.write .blank)] [] [] [] []
    "object"
  | .list items => keywords notes [] [("items", items.write .blank)] [] [] [] "array"
  | .record members =>
    keywords notes [] [] [("properties", .object (writeMembers members))] []
      (members.filterMap Member.requiredKey?) "object"

def writeMembers : List Member → List (String × Json.Value)
  | [] => []
  | .mk key schema notes _ :: rest => (key, schema.write notes) :: writeMembers rest

end

end Schema

end Crd
end CloudReconcile
