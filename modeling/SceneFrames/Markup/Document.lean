import SceneFrames.Markup.Content
import SceneFrames.Markup.Decoder
import SceneFrames.Markup.Doctype

/-!
Documents: a declaration, a document type, and one element, with asides in between. A document is
either read as a whole or is malformed.
-/

namespace SceneFrames.Markup

/-- What entities may expand to in any document. -/
def freeExpansion : Nat := 1000000

/-- How many times the length of the document entities may expand to. -/
def expansionFactor : Nat := 5

namespace Scan

/-- Takes what a document holds after its declaration. -/
def tree (above : Nat) (alone : Bool) : Scan Node := do
  asides
  let d ← doctype alone
  asides
  expect "<"
  let e ← elementRest d above (content d (entityDepth + 1) above) elementDepth []
  asides
  require (← rest).isEmpty
  return e

/-- Takes a document after its opening. -/
def document (declared : Bool) (above : Nat) : Scan Node := do
  if declared then tree above (← declarationRest) else tree above false

end Scan

/-- The element node of a document, given the text after its opening. -/
def node? (declared : Bool) (above : Nat) (text : List Char) : Option Node :=
  let cs := unifyLineEnds text
  if cs.all isAllowed then
    (Scan.document declared above).outcome?
      { rest := cs, allowance := max freeExpansion (expansionFactor * cs.length) }
  else none

/-- The parser that decodes as a decoder says. -/
def Decoder.parse (d : Decoder) : Parser := fun bytes => do
  let opened ← d.open? bytes
  node? opened.opening.declared opened.above opened.rest

end SceneFrames.Markup
