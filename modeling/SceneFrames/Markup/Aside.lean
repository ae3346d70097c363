import SceneFrames.Markup.Scan

/-!
Asides: comments and processing instructions, which may stand before, inside and after the
elements of a document.
-/

namespace SceneFrames.Markup

/-- The targets that may start as the declaration of a document does. -/
def knownTargets : List String := ["xml-stylesheet", "xml-model"]

namespace Scan

/-- Takes a comment after its opening sign. Two hyphens only occur at its end. -/
def comment : Scan (List Char) := do
  let cs ← before "--"
  expect ">"
  return cs

/-- Notes what is unusual about the target of an instruction. -/
def noteTarget (target : String) : Scan Unit := do
  let cs := target.toList
  if (cs.take 3).map Char.toLower = ['x', 'm', 'l'] then
    require (cs.length ≠ 3)
    if !knownTargets.contains target then remark
  faultIf (cs.contains ':')

/-- Takes an instruction after its opening sign: its target and its text. -/
def instruction : Scan (String × List Char) := do
  let target ← name
  noteTarget target
  if ← accept "?>" then return (target, [])
  someSpaces
  return (target, ← before "?>")

/-- Takes spaces, comments and instructions. -/
def asides : Scan Unit := do
  loop (fun _ => do
    spaces
    if ← accept "<!--" then
      let _ ← comment
      return .yield ()
    if ← accept "<?" then
      let _ ← instruction
      return .yield ()
    return .done ()) ()

end Scan

end SceneFrames.Markup
