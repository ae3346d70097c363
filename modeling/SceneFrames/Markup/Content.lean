import SceneFrames.Markup.Aside
import SceneFrames.Markup.Node
import SceneFrames.Markup.Tag

/-!
Content: what stands between a start tag and its end tag. Entities are replaced by the nodes of
their texts, which are complete by themselves and know no bindings from outside.
-/

namespace SceneFrames.Markup

/-- How many elements may be open at once. -/
def elementDepth : Nat := 256

namespace Scan

/-- Takes the rest of an element after the opening sign of its start tag. The level is the
number of elements that may still be opened. There may be lines above the text that is read. -/
def elementRest (d : Subset) (above : Nat) (content : Nat → Bindings → Scan (List Node))
    (level : Nat) (bs : Bindings) : Scan Node := do
  let tag ← startTag d bs
  require (0 < level)
  if tag.closed then return .element tag.name tag.attributes (above + tag.line) []
  let children ← content (level - 1) tag.bindings
  endTag tag.written
  return .element tag.name tag.attributes (above + tag.line) children

/-- Takes text up to the next markup or reference. -/
def textRun : Scan Node := do
  let cs ← takeWhile fun c => c != '<' && c != '&'
  require (splitAtWord "]]>".toList [] cs).isNone
  return .text (cs.map asLineFeed)

/-- Takes nodes up to the end of the text or to an end tag. The fuel is spent on nodes. -/
def nodes (d : Subset) (above : Nat) (expand : Nat → String → Scan (List Node)) :
    Nat → List Node → Nat → Bindings → Scan (List Node)
  | 0, _, _, _ => failure
  | fuel + 1, acc, level, bs => do
    if (← rest).isEmpty || (← looksAt "</") then return acc.reverse
    else if ← accept "<!--" then nodes d above expand fuel (.comment (← comment) :: acc) level bs
    else if ← accept "<![CDATA[" then
      let cs ← before "]]>"
      nodes d above expand fuel (.text (cs.map asLineFeed) :: acc) level bs
    else if ← accept "<?" then
      let (target, cs) ← instruction
      nodes d above expand fuel (.instruction target cs :: acc) level bs
    else if ← accept "<" then
      let e ← elementRest d above (nodes d above expand fuel []) level bs
      nodes d above expand fuel (e :: acc) level bs
    else if ← accept "&" then
      match ← reference with
      | .character c => nodes d above expand fuel (.text [c] :: acc) level bs
      | .entity name => nodes d above expand fuel ((← expand level name).reverse ++ acc) level bs
    else nodes d above expand fuel ((← textRun) :: acc) level bs

/-- The nodes of an entity. They count as one more level, and what is noted about them is noted
at the first use only. -/
def entityNodes (d : Subset) (content : Nat → Bindings → Scan (List Node)) (level : Nat)
    (name : String) : Scan (List Node) := do
  match ← d.entityText? name with
  | none => return [.unresolved name]
  | some cs =>
    require (0 < level)
    let s ← get
    let inner ← within cs (content (level - 1) [])
    if s.expanded.contains name then modify fun t => { t with faulty := s.faulty }
    else modify fun t => { t with expanded := name :: t.expanded }
    return inner

/-- Takes content, with entities that refer to each other up to a depth. Nothing is above the text
of an entity, whose lines are its own. -/
def content (d : Subset) : Nat → Nat → Nat → Bindings → Scan (List Node)
  | 0, _, _, _ => failure
  | depth + 1, above, level, bs => do
    nodes d above (entityNodes d (content d depth 0)) ((← get).size + 1) [] level bs

end Scan

end SceneFrames.Markup
