import SceneFrames.Markup.AttributeValue
import SceneFrames.Markup.Namespace

/-!
Tags: the name of an element with its attributes. The attributes that bind qualifiers are taken
out, and the others get the keys that the bindings give them.
-/

namespace SceneFrames.Markup

/-- A start tag. -/
structure Tag where
  /-- The name as the end tag repeats it. -/
  written : String
  name : String
  attributes : List (String × String)
  /-- The bindings inside the element. -/
  bindings : Bindings
  /-- The line on which the tag ends. -/
  line : Nat
  /-- The tag closes the element as well. -/
  closed : Bool

/-- What the attributes of a tag come to: what they bind, and the others with their values. -/
structure TagParts where
  bound : Bindings := []
  attributes : List (TagName × String) := []

/-- The attribute names that bind qualifiers: the qualifier that they bind. -/
def TagName.bound? (n : TagName) : Option String :=
  if n.written = bindingQualifier then some ""
  else if n.qualifier? = some bindingQualifier then some n.stem
  else none

/-- The values of the attribute that says how spaces are to be treated. -/
def spaceModes : List String := ["default", "preserve"]

namespace Scan

/-- Notes a value that the attribute `xml:space` does not have. -/
def noteSpaceMode (key : TagName) (value : String) : Scan Unit :=
  if key.written = "xml:space" && !spaceModes.contains value then remark else pure ()

/-- Adds an attribute to the parts of its tag. -/
def addAttribute (parts : TagParts) (key : TagName) (value : String) : Scan TagParts := do
  match key.bound? with
  | some "" => return { parts with bound := ← bindDefault parts.bound value }
  | some q => return { parts with bound := ← bindQualifier parts.bound q value }
  | none => return { parts with attributes := parts.attributes ++ [(key, value)] }

/-- Takes an attribute: its name and its value. -/
def attributePair (d : Subset) (element : String) : Scan (TagName × String) := do
  let key ← tagName
  equals
  let cs ← d.attributeValue
  let type := ((d.rule? element key.written).map (·.type)).getD .text
  let value := String.ofList (type.normalize cs)
  noteSpaceMode key value
  return (key, value)

/-- Takes the attributes of a tag, with spaces between them. -/
def attributes (d : Subset) (element : String) : Scan TagParts := do
  spaces
  loop (fun (parts : TagParts) => do
    if (← looksAt ">") || (← looksAt "/>") then return .done parts
    let (key, value) ← attributePair d element
    let gap ← takeWhile isSpace
    require (!gap.isEmpty || (← looksAt ">") || (← looksAt "/>"))
    return .yield (← addAttribute parts key value)) {}

/-- The bindings with those that the document type gives by default. -/
def defaultBindings (d : Subset) (element : String) (bound : Bindings) : Bindings :=
  d.attributes.foldl (fun bs r =>
    let q? :=
      if r.key = bindingQualifier then some ""
      else ("xmlns:".toList.isPrefixOf? r.key.toList).map String.ofList
    match q?, r.default? with
    | some q, some v =>
      if r.element = element && !(bs.any (·.1 == q)) then (q, String.ofList v) :: bs else bs
    | _, _ => bs) bound

/-- The address of an attribute; none if its name has no qualifier or an unbound one, which is a
fault. -/
def attributeAddress? (bs : Bindings) (key : TagName) : Scan (Option String) := do
  match key.qualifier? with
  | none => return none
  | some q =>
    match bs.address? q with
    | some a => return some a
    | none =>
      fault
      return none

/-- The key of an attribute of an address. -/
def attributeKey (address? : Option String) (key : TagName) : String :=
  match address? with
  | some a => expandedName a key.stem
  | none => key.written

/-- The addresses of attributes. One name twice is a failure, and one address and stem under two
qualifiers a fault. -/
def resolveAttributes (bs : Bindings) (attributes : List (TagName × String)) :
    Scan (List (String × String)) := do
  let resolved ← attributes.mapM fun p => return (← attributeAddress? bs p.1, p)
  let _ ← resolved.foldlM (fun seen (r : Option String × TagName × String) => do
    let same := seen.filter fun s : Option String × TagName => s == (r.1, r.2.1) ||
      (s.1 == r.1 && s.2.stem == r.2.1.stem)
    require (same.all fun s => s.2.qualifier? ≠ r.2.1.qualifier?)
    faultIf !same.isEmpty
    return (r.1, r.2.1) :: seen) []
  return resolved.map fun r => (attributeKey r.1 r.2.1, r.2.2)

/-- Notes unbound qualifiers of attributes that the document type gives by default. -/
def noteDefaults (d : Subset) (element : String) (bs : Bindings)
    (given : List (TagName × String)) : Scan Unit := do
  d.attributes.forM fun r => do
    if r.element = element && r.default?.isSome && !(given.any (·.1.written == r.key)) then
      let key ← splitName r.key
      if key.bound?.isNone then
        let _ ← attributeAddress? bs key

/-- Notes an identifier. One that was met before is a fault. -/
def noteIdentifier (value : String) : Scan Unit := do
  let s ← get
  if value ≠ "" then
    faultIf (s.identifiers.contains value)
    modify fun t => { t with identifiers := value :: t.identifiers }

/-- Notes the identifiers among attributes. The value of `xml:id` is a plain name. -/
def noteIdentifiers (d : Subset) (element : String) (given : List (TagName × String)) :
    Scan Unit := do
  given.forM fun p => do
    if p.1.written = "xml:id" then
      faultIf !(isPlainName (collapseSpaces (p.2.toList.map asSpace)))
      noteIdentifier p.2
    else if (d.rule? element p.1.written).any (·.type = .identifier) then noteIdentifier p.2

/-- The name of an element: its stem if its qualifier is bound, and otherwise all of it. -/
def elementName (bs : Bindings) (n : TagName) : Scan String := do
  match ← attributeAddress? bs n with
  | some _ => return n.stem
  | none => return n.written

/-- Takes a start tag after its opening sign. -/
def startTag (d : Subset) (outer : Bindings) : Scan Tag := do
  let n ← tagName
  let parts ← attributes d n.written
  let line := (← get).line
  let bs := defaultBindings d n.written parts.bound ++ outer
  noteDefaults d n.written bs parts.attributes
  let pairs ← resolveAttributes bs parts.attributes
  let name ← elementName bs n
  noteIdentifiers d n.written parts.attributes
  let closed ← accept "/>"
  if !closed then expect ">"
  return ⟨n.written, name, pairs, bs, line, closed⟩

/-- Takes the end tag of an element. -/
def endTag (written : String) : Scan Unit := do
  expect "</"
  expect written
  spaces
  expect ">"

end Scan

end SceneFrames.Markup
