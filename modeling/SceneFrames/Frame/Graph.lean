import SceneFrames.Frame.Circle
import SceneFrames.Frame.RootPose
import SceneFrames.Log.Event

/-!
Frame graphs: the frames of one scope, each pointing at the frame its pose is relative to. A
graph without problems is a tree whose root is the implicit root frame, and holds the root pose
of every frame.
-/

namespace SceneFrames

/-- The frames of a scope, the problems with them, and their root poses if there are none. -/
structure FrameGraph (P : Type) where
  scope : String
  frames : List (FrameRecord P)
  problems : List Problem
  rootPoses : PoseTable P

namespace FrameGraph

variable {P : Type}

/-- The graph of the records that the members of a scope declare, with root poses resolved
along a traversal of its frames. -/
def buildAlong [RigidMotion P] (traverse : List (FrameRecord P) → Traversal)
    (records : List (FrameRecord P)) (scope : String) : FrameGraph P :=
  let (frames, repeated) := insertRecords scope records
  let dangling := frames.filterMap (baseProblem? scope frames)
  let circles := (markAll frames).circles.map (Problem.circle scope)
  let problems := repeated ++ dangling ++ circles
  { scope := scope
    frames := frames
    problems := problems
    rootPoses :=
      if problems.isEmpty then (resolveAlong frames (traverse frames)).getD [] else [] }

/-- The graph of the records that the members of a scope declare. -/
def build [RigidMotion P] (records : List (FrameRecord P)) (scope : String) : FrameGraph P :=
  buildAlong depthFirst records scope

/-- The graph is a tree. -/
def valid (g : FrameGraph P) : Bool := g.problems.isEmpty

/-- The nodes in order of insertion, the root first. -/
def nodes (g : FrameGraph P) : List String := "" :: g.frames.map (·.name)

/-- The nodes with the kinds of what declares them. -/
def nodeKinds (g : FrameGraph P) : List (String × String) :=
  ("", "root") :: g.frames.map fun r => (r.name, r.kind)

/-- The frame that a node's pose is relative to. -/
def base? (g : FrameGraph P) (name : String) : Option String := baseOf? g.frames name

/-- The edges from frames to their bases, in order of the frames. -/
def edges (g : FrameGraph P) : List (String × String) :=
  g.frames.filterMap fun r => (g.base? r.name).map fun b => (r.name, b)

/-- The declared pose on an edge. -/
def edgePose? (g : FrameGraph P) (source target : String) : Option P :=
  declaredPose? g.frames source target

/-- What is logged when the graph is built. -/
def event (g : FrameGraph P) : LogEvent :=
  if g.valid then .graphBuilt g.scope g.frames.length
  else .graphFaulty g.scope g.problems.length

end FrameGraph

end SceneFrames
