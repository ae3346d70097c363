import SceneFrames.Frame.Query
import SceneFrames.Options
import SceneFrames.Scene.Loading

/-!
Placements: what all entities share. An entity has a name, a declared pose with the frame that
the pose is relative to, a line, and, once it is a member of a scope, the graph of the scope.
-/

namespace SceneFrames

/-- The name and the place of an entity. -/
structure Placement where
  name : String := ""
  pose : Pose Float := Pose.identity
  base : String := rootFrame
  line : Option Int := none
  scope? : Option SceneGraph := none

namespace Placement

/-- The frame that the entity declares in its scope. -/
def record (p : Placement) (k : Kind) : FrameRecord (Pose Float) :=
  { name := p.name, pose := p.pose, relativeTo := p.base, kind := k.tag, line := p.line }

/-- The placement as a member of a scope. -/
def attach (p : Placement) (g : SceneGraph) : Placement := { p with scope? := some g }

/-- The pose in a frame of the scope. Outside of any scope only the declared pose is known. -/
def poseIn (p : Placement) (k : Kind) (relativeTo : String) : Except QueryError (Pose Float) :=
  match p.scope? with
  | none =>
    if relativeTo = rootFrame ∧ p.base = rootFrame then .ok p.pose
    else .error (.unattached k.tag p.name)
  | some g =>
    if p.name = "" then .error (.nameless k.tag g.scope)
    else g.pose p.name relativeTo

variable {m : Type → Type} [Loading m]

open Loading

/-- Loads the name. Having none is a problem. -/
def loadName (k : Kind) (e : Element) (p : Placement) : Journaled Placement := do
  let name := e.word "name"
  if name = "" then Journaled.report (.nameMissing k.tag)
  return { p with name := name, line := e.line }

/-- Loads the frame that a pose element says its pose is relative to. -/
def loadBase (options : Options) (pose : Element) : m String := do
  let (base, found) ← take (.text pose "relative_to" rootFrame)
  if !found && options.allowsLegacyBase then
    let (base, _) ← take (.text pose "frame" rootFrame)
    return base
  return base

/-- Loads the declared pose. Without a pose element nothing changes, and without a text in it the
pose stays as it is. -/
def loadPose (options : Options) (e : Element) (p : Placement) : m Placement := do
  match e.first? "pose" with
  | none => return p
  | some child =>
    if child.value = "" then
      let base ← loadBase options child
      return { p with base := base }
    let pose ← take (.pose e)
    let base ← loadBase options child
    return { p with pose := pose, base := base }

end Placement

end SceneFrames
