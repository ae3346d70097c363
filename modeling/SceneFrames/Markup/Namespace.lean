import SceneFrames.Markup.Address
import SceneFrames.Markup.Subset

/-!
Namespaces: a colon splits a name into a qualifier and a stem, and attributes of a tag bind
qualifiers to addresses. A name whose qualifier is bound is known by its address and its stem.
-/

namespace SceneFrames.Markup

/-- A name as it is written, and the qualifier and the stem that it splits into. -/
structure TagName where
  written : String
  qualifier? : Option String
  stem : String
  deriving DecidableEq, Repr

/-- The addresses that qualifiers are bound to, the innermost first. The empty qualifier is that
of elements without one. -/
abbrev Bindings := List (String × String)

/-- The qualifier that is bound everywhere. -/
def builtinQualifier : String := "xml"

/-- The address that the qualifier `xml` is bound to everywhere. -/
def builtinAddress : String :=
  "/".intercalate ["http:", "", "www.w3.org", "XML", "1998", "namespace"]

/-- The qualifier of attributes that bind qualifiers. -/
def bindingQualifier : String := "xmlns"

/-- The address of attributes that bind qualifiers. -/
def bindingAddress : String := "/".intercalate ["http:", "", "www.w3.org", "2000", "xmlns", ""]

/-- The address that a qualifier is bound to. -/
def Bindings.address? (bs : Bindings) (qualifier : String) : Option String :=
  if qualifier = builtinQualifier then some builtinAddress
  else ((bs.find? (·.1 == qualifier)).map (·.2)).filter (· ≠ "")

/-- A stem with its address, as the key of an attribute. -/
def expandedName (address stem : String) : String := "\x7b" ++ address ++ "\x7d" ++ stem

namespace Scan

/-- Splits a name. A name that has no qualifier before its first colon, or no plain name after
it, is a fault. -/
def splitName (written : String) : Scan TagName := do
  let cs := written.toList
  let q := cs.takeWhile (· != ':')
  match cs.drop q.length with
  | [] => return ⟨written, none, written⟩
  | _ :: stem =>
    let first := stem.takeWhile (· != ':')
    if q.isEmpty || !isPlainName first then
      fault
      return ⟨written, none, written⟩
    match stem.drop first.length with
    | [] => pure ()
    | _ :: more =>
      require (more.head?.all fun c => c == ':' || isNameStart c)
      fault
    return ⟨written, some (String.ofList q), String.ofList stem⟩

/-- Takes a name and splits it. -/
def tagName : Scan TagName := do splitName (← name)

/-- Notes what is wrong with the address that names a namespace. -/
def noteAddress (address : String) (mayBeRelative : Bool) : Scan Unit :=
  match Address.ofText? address.toList with
  | none => fault
  | some .relative => if mayBeRelative then pure () else remark
  | some .absolute => pure ()

/-- Adds what an attribute binds to the bindings of its tag. Binding a qualifier twice in one
tag fails. -/
def addBinding (bs : Bindings) (qualifier address : String) : Scan Bindings := do
  require !(bs.any (·.1 == qualifier))
  return (qualifier, address) :: bs

/-- Binds the qualifier of elements without one. -/
def bindDefault (bs : Bindings) (address : String) : Scan Bindings := do
  if address ≠ "" then
    noteAddress address false
    if address = builtinAddress || address = bindingAddress then
      fault
      return bs
  addBinding bs "" address

/-- Binds a qualifier. The two qualifiers of the grammar and their addresses only go with each
other, and no qualifier is bound to nothing. -/
def bindQualifier (bs : Bindings) (qualifier address : String) : Scan Bindings := do
  if qualifier = builtinQualifier then
    faultIf (address ≠ builtinAddress)
    return bs
  if address = builtinAddress || qualifier = bindingQualifier || address = bindingAddress ||
      address = "" then
    fault
    return bs
  noteAddress address true
  addBinding bs qualifier address

end Scan

end SceneFrames.Markup
