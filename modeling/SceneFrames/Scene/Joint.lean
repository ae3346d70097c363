import SceneFrames.Scene.Placement

/-!
Joints: how one link moves against another. The links are named, and the axis is a direction.
-/

namespace SceneFrames

/-- A joint between two links. -/
structure Joint where
  placement : Placement := {}
  type : String := ""
  parent : String := ""
  child : String := ""
  axis? : Option (Vec3 Float) := none

namespace Joint

/-- The axis of a joint that says it has one and not which. -/
def upward : Vec3 Float := ⟨0, 0, 1⟩

open Loading

variable {m : Type → Type} [Loading m]

/-- Loads the type, which is one of the known ones. -/
def loadType (name : String) (e : Element) : m String := do
  let (type, found) ← take (.text e "type" "")
  if !found || type = "" then note (Journaled.report (.jointTypeMissing name))
  else if !jointTypes.contains type then note (Journaled.report (.jointTypeUnknown name type))
  return type

/-- Loads the name of the link at one end. -/
def loadEnd (name : String) (e : Element) (side : JointEnd) : m String := do
  let (link, found) ← take (.text e side.key "")
  if !found || link = "" then note (Journaled.report (.jointEndMissing name side))
  return link

/-- The direction of a vector; the zero vector has none. -/
def direction? (v : Vec3 Float) : Option (Vec3 Float) :=
  if v.norm == 0 then none else some (v.divide v.norm)

/-- Loads an axis. -/
def loadAxis (e : Element) : Journaled (Vec3 Float) := do
  let (v?, _) ← e.getWith .vector "xyz" none some
  match v? with
  | none => return upward
  | some v =>
    match direction? v with
    | some d => return d
    | none =>
      Journaled.report .axisZero
      return upward

/-- Loads a joint. Without an axis element the axis stays as it is. -/
def load (options : Options) (old : Joint) (e : Element) : m Joint :=
  loadAs .joint old e do
    let p ← note (old.placement.loadName .joint e)
    let type ← loadType p.name e
    let parent ← loadEnd p.name e .parent
    let child ← loadEnd p.name e .child
    let axis? ←
      match e.first? "axis" with
      | some axis => some <$> note (loadAxis axis)
      | none => pure old.axis?
    let p ← p.loadPose options e
    note (Journaled.log (.jointLoaded type p.name parent child))
    return ⟨p, type, parent, child, axis?⟩

end Joint

end SceneFrames
