import SceneFrames.Frame.Graph
import SceneFrames.Journal
import SceneFrames.Scene.Kind

/-!
Loading: what loads are made of. Most steps are defined whatever they meet, and note what they
find. Others are defined only because of what the load has seen before, and a monad for loads
says what comes of them.
-/

namespace SceneFrames

/-- The frame graph of a scope in a scene. -/
abbrev SceneGraph := FrameGraph (Pose Float)

/-- A field as a text without outer blanks. -/
def Element.word? (e : Element) (key : String) : Option String :=
  (e.fieldText? key).map Text.trimmed

/-- A field as a text without outer blanks, empty if there is none. -/
def Element.word (e : Element) (key : String) : String := (e.word? key).getD ""

/-- A step that need not be defined, and what it gives. -/
inductive Step : Type → Type 1
  /-- A field as a text, or the default, and whether there is one. There is no list for
  problems. -/
  | text (e : Element) (key default : String) : Step (String × Bool)
  /-- The declared pose, made of the numbers that its text says. -/
  | pose (e : Element) : Step (Pose Float)
  /-- The first child. -/
  | firstChild (e : Element) : Step Element
  /-- The first of some entities with the name of another. -/
  | namesake {α : Type} (nameOf : α → String) (as : List α) (a : α) : Step α
  /-- The graph of records. -/
  | graph (records : List (FrameRecord (Pose Float))) (scope : String) : Step SceneGraph

/-- A monad that loads are made in. -/
class Loading (m : Type → Type) extends Monad m where
  /-- Makes steps that are defined. -/
  note {α : Type} (x : Journaled α) : m α
  /-- Makes a step that need not be defined. -/
  take {α : Type} (s : Step α) : m α
  /-- The result of steps with the problems met on the way. -/
  overhear {α : Type} (x : m α) : m (α × List Problem)

/-- What a step gives. Where it is not defined, something stands in. -/
def Step.journaled {α : Type} : Step α → Journaled α
  | text e key default => return ((e.word? key).getD default, (e.word? key).isSome)
  | pose e => (·.1) <$> e.get .pose "pose" Pose.identity
  | firstChild e => return e.children.headD e
  | namesake nameOf as a => return (as.find? fun b => nameOf b == nameOf a).getD a
  | graph records scope => return FrameGraph.build records scope

@[default_instance]
instance : Loading Journaled where
  note x := x
  take s := s.journaled
  overhear x := { x with value := (x.value, x.problems) }

namespace Loading

variable {m : Type → Type} [Loading m] {α : Type}

/-- Logs an event that depends on the result and on the problems met. -/
def closing (x : m α) (f : α → List Problem → LogEvent) : m α := do
  let (a, problems) ← overhear x
  note (Journaled.log (f a problems))
  return a

end Loading

open Loading in
/-- Loads an entity from an element of its kind, and leaves it alone if the element is of another
kind. -/
def loadAs {m : Type → Type} [Loading m] {α : Type} (k : Kind) (old : α) (e : Element)
    (load : m α) : m α :=
  if e.name = k.tag then load
  else do
    note (Journaled.report (.wrongElement k.title e.name))
    return old

end SceneFrames
