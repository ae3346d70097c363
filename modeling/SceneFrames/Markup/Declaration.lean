import SceneFrames.Markup.Scan

/-!
The declaration at the head of a document: the version of the grammar, the encoding, and whether
the document stands alone. Everything after the name of the encoding is in that encoding, the end
of the declaration included.
-/

namespace SceneFrames.Markup

/-- What a document opens with: a declaration, if there is one, up to the encoding that it
names. -/
structure Opening where
  declared : Bool := false
  encoding? : Option String := none
  deriving DecidableEq, Repr

/-- A version number: a digit, a point, and digits. -/
def isVersion : List Char → Bool
  | d :: '.' :: ds => d.isDigit && ds.all Char.isDigit
  | _ => false

/-- An encoding name: a letter, then letters, digits and three signs. -/
def isEncodingName : List Char → Bool
  | c :: cs => c.isAlpha && cs.all fun d => d.isAlphanum || d == '.' || d == '_' || d == '-'
  | [] => false

namespace Scan

/-- Takes the version. One of the same main number is read as the first one, with a remark. -/
def version : Scan Unit := do
  spaces
  expect "version"
  equals
  let v ← quotedText
  require (isVersion v && v.head? == some '1')
  if v ≠ ['1', '.', '0'] then remark

/-- Takes an encoding, if there is one after spaces. -/
def encoding? : Scan (Option String) := do
  let cs ← rest
  if !(cs.head?.any isSpace) then return none
  if !("encoding".toList.isPrefixOf (cs.dropWhile isSpace)) then return none
  spaces
  expect "encoding"
  equals
  let name ← quotedText
  require (isEncodingName name)
  return some (String.ofList name)

/-- Takes the statement whether the document stands alone; no statement says that it does
not. -/
def standalone : Scan Bool := do
  spaces
  if ← accept "standalone" then
    equals
    let cs ← quotedText
    require (cs = ['y', 'e', 's'] ∨ cs = ['n', 'o'])
    return cs = ['y', 'e', 's']
  return false

/-- The rest starts with a space or ends the declaration. -/
def atGap : Scan Bool := do
  return ((← rest).head?.map isSpace).getD false || (← looksAt "?>")

/-- Takes the opening of a document. -/
def opening : Scan Opening := do
  if ("<?xml".toList.isPrefixOf? (← rest)).any fun after => after.head?.any isSpace then
    expect "<?xml"
    version
    return { declared := true, encoding? := ← encoding? }
  return {}

/-- Takes what a declaration goes on with after its opening: the statement whether the document
stands alone. -/
def declarationRest : Scan Bool := do
  require (← atGap)
  let alone ← standalone
  spaces
  expect "?>"
  return alone

end Scan

end SceneFrames.Markup
