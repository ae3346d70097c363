import SceneFrames.Markup.Aside
import SceneFrames.Markup.AttributeValue
import SceneFrames.Markup.ContentModel
import SceneFrames.Text.Pieces

/-!
Reading the document type declaration. Its internal part declares elements, attributes,
entities and notations; parameter entities hold whole declarations. The external part is never
read.
-/

namespace SceneFrames.Markup

/-- A character of a public identifier. -/
def isPublicChar (c : Char) : Bool :=
  c.isAlphanum || " \r\n-'()+,./:=?;!*#@$_%".toList.contains c

/-- A text of name characters that starts as a name does. -/
def isName : List Char → Bool
  | c :: cs => (c == ':' || isNameStart c) && cs.all isNameChar
  | [] => false

/-- A nonempty text of name characters. -/
def isToken (cs : List Char) : Bool := !cs.isEmpty && cs.all isNameChar

/-- A value can be the default of an attribute of a type. -/
def AttributeType.allows : AttributeType → List Char → Bool
  | text, _ => true
  | identifier, cs | name, cs => isName cs
  | names, cs => (Text.pieces ' ' cs).all isName
  | token, cs => isToken cs
  | tokens, cs => (Text.pieces ' ' cs).all isToken

/-- The replacement text only writes the character that the name stands for anyway. -/
def restates (c : Char) (replacement : List Char) : Bool :=
  match replacement with
  | '&' :: '#' :: 'x' :: ds => ds.getLast? == some ';' && codedCharacter? 16 ds.dropLast == some c
  | '&' :: '#' :: ds => ds.getLast? == some ';' && codedCharacter? 10 ds.dropLast == some c
  | [d] => d == c && c != '<' && c != '&'
  | _ => false

namespace Scan

/-- Takes the place of something outside the document, if one is given: its address, which may
be missing after a public identifier where that is allowed. -/
def outside? (publicAlone : Bool) : Scan (Option (List Char)) := do
  if ← accept "SYSTEM" then
    someSpaces
    return some (← quotedText)
  if ← accept "PUBLIC" then
    someSpaces
    require ((← quotedText).all isPublicChar)
    let gap ← takeWhile isSpace
    let quoted := (← looksAt "\"") || (← looksAt "'")
    if publicAlone && (gap.isEmpty || !quoted) then return some []
    require !gap.isEmpty
    return some (← quotedText)
  return none

/-- One piece of the text of an entity: character references are replaced, and references to
entities are kept. -/
def entityPiece (acc : List Char) : Scan (ForInStep (List Char)) := do
  match ← rest with
  | [] => return .done acc.reverse
  | '%' :: _ => failure
  | '&' :: cs =>
    moveTo ['&'] cs
    if ← accept "#" then return .yield ((← characterCode) :: acc)
    let n ← entityName
    return .yield (';' :: (n.toList.reverse ++ '&' :: acc))
  | c :: cs =>
    moveTo [c] cs
    return .yield (c :: acc)

/-- Takes what an entity holds: a text in quotes, or a place outside the document. -/
def entityContent (parameter : Bool) : Scan EntityContent := do
  if (← looksAt "\"") || (← looksAt "'") then
    return .text (← within (← quotedText) (loop entityPiece []))
  match ← outside? false with
  | none => failure
  | some address =>
    require !(address.contains '#')
    let gap ← takeWhile isSpace
    if !parameter then
      if ← accept "NDATA" then
        require !gap.isEmpty
        someSpaces
        let _ ← name
    return .outside

/-- Takes an entity declaration after its opening word. -/
def entityDeclaration (d : Subset) : Scan Subset := do
  someSpaces
  let parameter ← accept "%"
  if parameter then someSpaces
  let n ← name
  faultIf (n.toList.contains ':')
  someSpaces
  let content ← entityContent parameter
  spaces
  expect ">"
  if parameter then return { d with parameters := d.parameters ++ [(n, content)] }
  match predefined? n, content with
  | some c, .text cs => if !restates c cs then remark
  | some _, .outside => remark
  | none, _ => pure ()
  return { d with entities := d.entities ++ [(n, content)] }

/-- Takes an element declaration after its opening word. -/
def elementDeclaration (d : Subset) : Scan Subset := do
  someSpaces
  let n ← name
  someSpaces
  contentModel
  spaces
  expect ">"
  faultIf (d.elements.contains n)
  return { d with elements := n :: d.elements }

/-- Takes a notation declaration after its opening word. -/
def notationDeclaration (d : Subset) : Scan Subset := do
  someSpaces
  let n ← name
  faultIf (n.toList.contains ':')
  someSpaces
  require (← outside? true).isSome
  spaces
  expect ">"
  faultIf (d.notations.contains n)
  return { d with notations := n :: d.notations }

/-- Takes a list of words in parentheses. A word that is listed twice is a fault. -/
def choices (word : Scan String) : Scan Unit := do
  expect "("
  loop (fun (seen : List String) => do
    spaces
    let w ← word
    faultIf (seen.contains w)
    spaces
    if ← accept "|" then return .yield (w :: seen)
    expect ")"
    return .done seen) [] *> pure ()

/-- The types of attributes that are named by a word. -/
def typeWords : List (String × AttributeType) :=
  [("CDATA", .text), ("IDREFS", .names), ("IDREF", .name), ("ID", .identifier),
   ("ENTITY", .name), ("ENTITIES", .names), ("NMTOKENS", .tokens), ("NMTOKEN", .token)]

/-- Takes a word of a list, the first that the text starts with. -/
def acceptFirst {α : Type} : List (String × α) → Scan (Option α)
  | [] => return none
  | (word, a) :: more => do if ← accept word then return some a else acceptFirst more

/-- Takes the type of an attribute. -/
def attributeType : Scan AttributeType := do
  match ← acceptFirst typeWords with
  | some t => return t
  | none =>
    if ← accept "NOTATION" then
      someSpaces
      choices name
      return .name
    choices token
    return .tokens

/-- Takes the default of an attribute; a word says that there is none. -/
def attributeDefault (d : Subset) : Scan (Option (List Char)) := do
  if ← accept "#REQUIRED" <||> accept "#IMPLIED" then return none
  if ← accept "#FIXED" then someSpaces
  return some (← d.attributeValue)

/-- Adds the declaration of an attribute unless there is one, and notes what is wrong with
it. -/
def addRule (d : Subset) (r : AttributeRule) : Scan Subset := do
  faultIf (r.key == "xml:id" && r.type ≠ .identifier)
  faultIf (r.default?.any fun v => !r.type.allows v)
  if (d.rule? r.element r.key).isSome then
    remark
    return d
  faultIf (r.type = .identifier &&
    d.attributes.any fun q => q.element == r.element && q.type = .identifier)
  return { d with attributes := d.attributes ++ [r] }

/-- Takes an attribute declaration after its opening word. -/
def attributeDeclaration (d : Subset) : Scan Subset := do
  someSpaces
  let element ← name
  spaces
  loop (fun (d : Subset) => do
    if ← accept ">" then return .done d
    let key ← name
    someSpaces
    let type ← attributeType
    someSpaces
    let default? ← attributeDefault d
    let gap ← takeWhile isSpace
    require (!gap.isEmpty || (← looksAt ">"))
    return .yield (← addRule d ⟨element, key, type, default?.map type.normalize⟩)) d

/-- Takes a comment or an instruction after its opening sign. -/
def asideDeclaration (aside : Scan Unit) (d : Subset) : Scan Subset := do
  aside
  return d

/-- The declarations by their opening words. -/
def declarationWords : List (String × (Subset → Scan Subset)) :=
  [("<!ENTITY", entityDeclaration), ("<!ELEMENT", elementDeclaration),
   ("<!ATTLIST", attributeDeclaration), ("<!NOTATION", notationDeclaration),
   ("<!--", asideDeclaration (comment *> pure ())),
   ("<?", asideDeclaration (instruction *> pure ()))]

/-- Takes a parameter entity after its sign, and reads the declarations that it holds. -/
def parameterReference (declarations : Subset → Scan Subset) (d : Subset) : Scan Subset := do
  let n ← entityName
  let d := { d with incomplete := true }
  match d.parameters.find? (·.1 == n) with
  | some (_, .text cs) =>
    spend (cs.length + Subset.entityCost)
    within (unifyLineEnds cs) (declarations d)
  | some (_, .outside) =>
    remark
    return d
  | none =>
    d.undeclared
    return d

/-- Takes declarations, with parameter entities that refer to each other up to a depth. -/
def declarations : Nat → Subset → Scan Subset
  | 0, _ => failure
  | depth + 1, d =>
    loop (fun (d : Subset) => do
      spaces
      if ← accept "%" then return .yield (← parameterReference (declarations depth) d)
      match ← acceptFirst declarationWords with
      | some declaration => return .yield (← declaration d)
      | none => return .done d) d

/-- Takes the document type declaration, if there is one. -/
def doctype (standalone : Bool) : Scan Subset := do
  if !(← accept "<!DOCTYPE") then return { standalone := standalone }
  someSpaces
  let _ ← name
  spaces
  let external := (← outside? false).isSome
  spaces
  let d : Subset := { standalone := standalone, incomplete := external }
  if !(← accept "[") then
    expect ">"
    return d
  let d ← declarations (entityDepth + 1) d
  expect "]"
  spaces
  expect ">"
  return d

end Scan

end SceneFrames.Markup
