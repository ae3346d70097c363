import SceneFrames.Scene.Placement

/-!
Shapes: what is seen of a link, and what it collides with. Shapes have geometry and no frame of
their own in a scope.
-/

namespace SceneFrames

/-- A visual or a collision of a link. -/
structure Shape where
  placement : Placement := {}
  geometry : String := "empty"

namespace Shape

open Loading

variable {m : Type → Type} [Loading m]

/-- Loads the type of the geometry. Nothing changes unless it is a known one. -/
def loadGeometry (k : Kind) (name : String) (e : Element) (old : String) : m String := do
  match e.first? "geometry" with
  | none =>
    note (Journaled.report (.geometryMissing k.tag name))
    return old
  | some g =>
    if g.children.isEmpty then return old
    let shape ← take (.firstChild g)
    if geometryTypes.contains shape.name then return shape.name
    note (Journaled.report (.geometryUnknown k.tag name shape.name))
    return old

/-- Loads a shape of a kind. -/
def load (k : Kind) (options : Options) (old : Shape) (e : Element) : m Shape :=
  loadAs k old e do
    let p ← note (old.placement.loadName k e)
    let p ← p.loadPose options e
    let geometry ← loadGeometry k p.name e old.geometry
    return ⟨p, geometry⟩

end Shape

end SceneFrames
