import SceneFrames.Markup.Subset

/-!
Attribute values: the text between quotes with its references replaced and its spaces made
uniform.
-/

namespace SceneFrames.Markup

/-- How deep entities may refer to each other. -/
def entityDepth : Nat := 20

/-- A space of any kind is a space in an attribute value. -/
def asSpace (c : Char) : Char := if isSpace c then ' ' else c

/-- Runs of spaces as single spaces, and none at the ends. -/
def collapseSpaces (cs : List Char) : List Char :=
  let trimmed := ((cs.dropWhile (· == ' ')).reverse.dropWhile (· == ' ')).reverse
  trimmed.foldr (fun c acc => if c == ' ' && acc.head? == some ' ' then acc else c :: acc) []

/-- The value as an attribute of a type holds it. -/
def AttributeType.normalize : AttributeType → List Char → List Char
  | text, cs => cs
  | _, cs => collapseSpaces cs

/-- One piece of an attribute value: spaces of any kind are spaces, references are replaced. -/
def Scan.valuePiece (expand : String → Scan (List Char)) (acc : List Char) :
    Scan (ForInStep (List Char)) := do
  match ← Scan.rest with
  | [] => return .done acc.reverse
  | '<' :: _ => failure
  | '&' :: cs =>
    Scan.moveTo ['&'] cs
    match ← Scan.reference with
    | .character c => return .yield (c :: acc)
    | .entity name => return .yield ((← expand name).reverse ++ acc)
  | c :: cs =>
    Scan.moveTo [c] cs
    return .yield (asSpace c :: acc)

/-- The rest as an attribute value, with entities that refer to each other up to a depth. -/
def Subset.valueOfRest (d : Subset) : Nat → Scan (List Char)
  | 0 => failure
  | depth + 1 =>
    Scan.loop (Scan.valuePiece fun name => do
      match ← d.entityText? name with
      | some cs => Scan.within cs (d.valueOfRest depth)
      | none => return []) []

/-- Takes an attribute value in quotes. -/
def Subset.attributeValue (d : Subset) : Scan (List Char) := do
  let cs ← Scan.quotedText
  Scan.within cs (d.valueOfRest (entityDepth + 1))

end SceneFrames.Markup
