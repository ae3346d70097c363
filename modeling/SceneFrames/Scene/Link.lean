import SceneFrames.Scene.Shape
import SceneFrames.Scene.Siblings

/-!
Links: the rigid bodies of models, with their shapes.
-/

namespace SceneFrames

/-- A rigid body. -/
structure Link where
  placement : Placement := {}
  visuals : List Shape := []
  collisions : List Shape := []

namespace Link

open Loading

variable {m : Type → Type} [Loading m]

/-- Loads the shapes of one kind. -/
def loadShapes (k : Kind) (options : Options) (name : String) (e : Element) :
    m (List Shape) :=
  Siblings.loadParts k Shape.placement .link name ((e.named k.tag).map (Shape.load k options {}))

/-- Loads a link. -/
def load (options : Options) (old : Link) (e : Element) : m Link :=
  loadAs .link old e do
    let p ← note (old.placement.loadName .link e)
    let p ← p.loadPose options e
    let visuals ← loadShapes .visual options p.name e
    let collisions ← loadShapes .collision options p.name e
    note (Journaled.log (.linkLoaded p.name visuals.length collisions.length))
    return ⟨p, visuals, collisions⟩

end Link

end SceneFrames
