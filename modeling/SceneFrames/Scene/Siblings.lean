import SceneFrames.Scene.Placement

/-!
Siblings: the children of one kind that an entity has. Of those with one name the first is kept;
those without a name are all kept.
-/

namespace SceneFrames

/-- The siblings that are kept, and those whose names repeat earlier ones. -/
structure Siblings (α : Type) where
  kept : List α := []
  repeated : List α := []

namespace Siblings

variable {α : Type} {m : Type → Type} [Loading m]

open Loading

/-- The kept sibling that an entity repeats the name of. -/
def first? (place : α → Placement) (s : Siblings α) (a : α) : Option α :=
  if (place a).name = "" then none
  else s.kept.find? fun b => (place b).name == (place a).name

/-- One more sibling. A repeated name is noted as the rule says. -/
def add (place : α → Placement) (onRepeat : Siblings α → α → m Unit) (s : Siblings α) (a : α) :
    m (Siblings α) := do
  if (s.first? place a).isSome then
    onRepeat s a
    return { s with repeated := s.repeated ++ [a] }
  return { s with kept := s.kept ++ [a] }

/-- Loads siblings in order. -/
def loadAll (place : α → Placement) (onRepeat : Siblings α → α → m Unit) :
    Siblings α → List (m α) → m (Siblings α)
  | s, [] => return s
  | s, load :: loads => do
    let a ← load
    let s ← s.add place onRepeat a
    loadAll place onRepeat s loads

/-- Loads the members of a scope of one kind. Repeated names are left to the graph of the
scope. -/
def loadMembers (place : α → Placement) (loads : List (m α)) : m (Siblings α) :=
  loadAll place (fun _ _ => return) {} loads

/-- The problem that a sibling repeats the name of another. -/
def repetition (k : Kind) (place : α → Placement) (owner : Kind) (ownerName : String)
    (a b : α) : Problem :=
  .siblingRepeated k.tag (place a).name (place a).line (place b).line owner.tag ownerName

/-- Notes that a sibling repeats the name of one that is kept. -/
def noteRepetition (k : Kind) (place : α → Placement) (owner : Kind) (ownerName : String)
    (s : Siblings α) (a : α) : m Unit := do
  let b ← take (.namesake (fun b => (place b).name) s.kept a)
  note (Journaled.report (repetition k place owner ownerName a b))

/-- Loads children that have no frame in a scope. Each repeated name is a problem. -/
def loadParts (k : Kind) (place : α → Placement) (owner : Kind) (ownerName : String)
    (loads : List (m α)) : m (List α) := do
  let s ← loadAll place (noteRepetition k place owner ownerName) {} loads
  return s.kept

end Siblings

end SceneFrames
