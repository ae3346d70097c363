import SceneFrames.Scene.Model

/-!
Worlds: models and frames side by side. The world is the root frame of its scope.
-/

namespace SceneFrames

/-- A world with its members and the graph of its scope. -/
structure World where
  placement : Placement := {}
  gravity : Vec3 Float := ⟨0, 0, -9.8⟩
  models : List Model := []
  frames : List ExplicitFrame := []
  graph? : Option SceneGraph := none

namespace World

/-- The frames of the members. Those that repeat names come last. -/
def recordsOf (models : Siblings Model) (frames : Siblings ExplicitFrame) :
    List (FrameRecord (Pose Float)) :=
  models.kept.map (·.placement.record .model) ++ frames.kept.map (·.placement.record .frame) ++
    (models.repeated.map (·.placement.record .model) ++
      frames.repeated.map (·.placement.record .frame))

open Loading in
/-- Loads a world. Gravity that is not given or not readable stays as it is. -/
def load {m : Type → Type} [Loading m] (options : Options) (old : World) (e : Element) :
    m World :=
  loadAs .world old e do
    let p ← note (old.placement.loadName .world e)
    let (gravity, _) ← note (e.get .vector "gravity" old.gravity)
    let models ← Siblings.loadMembers Model.placement
      ((e.named Kind.model.tag).map (Model.load options {}))
    let frames ← Siblings.loadMembers ExplicitFrame.placement
      ((e.named Kind.frame.tag).map (ExplicitFrame.load options {}))
    let g ← take (.graph (recordsOf models frames) p.name)
    note (Journaled.log g.event)
    note (Journaled.reportAll g.problems)
    note (Journaled.log (.worldLoaded p.name models.kept.length))
    return {
      placement := p
      gravity := gravity
      models := models.kept.map fun m => { m with placement := m.placement.attach g }
      frames := frames.kept.map fun f => { f with placement := f.placement.attach g }
      graph? := some g }

/-- The pose of a frame of the world in another. -/
def framePose (w : World) (name relativeTo : String) : Except QueryError (Pose Float) :=
  match w.graph? with
  | some g => g.pose name relativeTo
  | none => .error (.notLoaded Kind.world.title w.placement.name)

end World

end SceneFrames
