import SceneFrames.Markup.Scan

/-!
Content models: what an element declaration says that elements may hold. Nothing is checked
against them, so a scan only tells whether one is written as it should be.
-/

namespace SceneFrames.Markup.Scan

/-- How deep the groups of a content model may be nested. -/
def groupDepth : Nat := 256

/-- Takes a sign of how often a part may occur, if there is one. -/
def occurrence : Scan Unit := do
  let _ ← accept "?" <||> accept "*" <||> accept "+"

/-- Takes the further names of mixed content, and its end. -/
def mixedNames : Scan Unit := do
  loop (fun _ => do
    spaces
    if ← accept "|" then
      spaces
      let _ ← name
      return .yield ()
    expect ")*"
    return .done ()) ()

/-- Takes mixed content after its first word. -/
def mixedContent : Scan Unit := do
  spaces
  if ← accept ")" then
    let _ ← accept "*"
  else mixedNames

/-- Takes the parts of a group after its first part, all with one separator, and its end. -/
def groupTail (part : Scan Unit) : Scan Unit := do
  let _ ← loop (fun (separator : String) => do
    spaces
    if ← accept ")" then
      occurrence
      return .done separator
    let found := if ← accept "|" then "|" else ","
    if found = "," then expect ","
    require (separator = "" || separator = found)
    spaces
    part
    return .yield found) ""

/-- Takes one part of a group: a name or a group, and how often it may occur. -/
def groupPart : Nat → Scan Unit
  | 0 => failure
  | depth + 1 => do
    if ← accept "(" then
      spaces
      groupPart depth
      groupTail (groupPart depth)
    else
      let _ ← name
      occurrence

/-- Takes the content of an element declaration. -/
def contentModel : Scan Unit := do
  if ← accept "EMPTY" <||> accept "ANY" then return
  expect "("
  spaces
  if ← accept "#PCDATA" then mixedContent
  else
    groupPart groupDepth
    groupTail (groupPart groupDepth)

end SceneFrames.Markup.Scan
