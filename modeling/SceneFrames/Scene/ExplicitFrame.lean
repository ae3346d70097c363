import SceneFrames.Scene.Placement

/-!
Explicit frames: frames that nothing but their declaration gives a scope. What such a frame is
attached to does not change its pose.
-/

namespace SceneFrames

/-- A frame of its own. -/
structure ExplicitFrame where
  placement : Placement := {}
  attachedTo : String := ""

open Loading in
/-- Loads an explicit frame. -/
def ExplicitFrame.load {m : Type → Type} [Loading m] (options : Options) (old : ExplicitFrame)
    (e : Element) : m ExplicitFrame :=
  loadAs .frame old e do
    let p ← note (old.placement.loadName .frame e)
    let p ← p.loadPose options e
    return ⟨p, e.word "attached_to"⟩

end SceneFrames
