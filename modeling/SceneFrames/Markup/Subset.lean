import SceneFrames.Markup.Reference

/-!
Document types: the declarations that a document makes about its own entities, elements,
attributes and notations. Of several declarations of one thing the first counts.
-/

namespace SceneFrames.Markup

/-- What an entity holds. -/
inductive EntityContent
  /-- A text of the document. -/
  | text (replacement : List Char)
  /-- Something outside the document, which is never read. -/
  | outside
  deriving DecidableEq, Repr

/-- The types of attributes. -/
inductive AttributeType
  | text | identifier | name | names | token | tokens
  deriving DecidableEq, Repr

/-- The declaration of an attribute: its element, its name, its type, and its default. -/
structure AttributeRule where
  element : String
  key : String
  type : AttributeType
  default? : Option (List Char)
  deriving DecidableEq, Repr

/-- What a document declares. -/
structure Subset where
  /-- The entities that references name. -/
  entities : List (String × EntityContent) := []
  /-- The entities that hold declarations. -/
  parameters : List (String × EntityContent) := []
  attributes : List AttributeRule := []
  elements : List String := []
  notations : List String := []
  /-- Declarations outside the document are missing. -/
  incomplete : Bool := false
  /-- The document says that it needs no declarations from outside. -/
  standalone : Bool := false
  deriving DecidableEq, Repr

namespace Subset

/-- The declaration of an attribute of an element. -/
def rule? (d : Subset) (element key : String) : Option AttributeRule :=
  d.attributes.find? fun r => r.element == element && r.key == key

/-- Notes that an entity is not declared: a fault if the declaration may be outside the
document, else a failure. -/
def undeclared (d : Subset) : Scan Unit := do
  Scan.require (d.incomplete && !d.standalone)
  Scan.fault

/-- What each use of an entity costs beside the length of its text. -/
def entityCost : Nat := 20

/-- The text of an entity of the document; none if it is not declared and need not be. -/
def entityText? (d : Subset) (name : String) : Scan (Option (List Char)) := do
  match d.entities.find? (·.1 == name) with
  | some (_, .text cs) =>
    Scan.spend (cs.length + entityCost)
    return some (unifyLineEnds cs)
  | some (_, .outside) => failure
  | none =>
    d.undeclared
    return none

end Subset

end SceneFrames.Markup
