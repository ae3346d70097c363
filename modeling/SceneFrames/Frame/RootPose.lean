import SceneFrames.Frame.Insertion

/-!
Root poses: the pose of every frame in the root frame of its scope. A traversal of the tree of
frames passes its edges from bases to the frames on them. On the way each frame gets its root
pose, which is that of its base composed with the declared pose.
-/

namespace SceneFrames

variable {P : Type}

/-- The names of frames with their root poses. -/
abbrev PoseTable (P : Type) := List (String × P)

/-- The root pose of a name. -/
def PoseTable.find? (table : PoseTable P) (name : String) : Option P :=
  (List.find? (·.1 == name) table).map (·.2)

/-- The declared pose on the edge from a frame to its base. -/
def declaredPose? (frames : List (FrameRecord P)) (name base : String) : Option P :=
  (findFrame frames name).bind fun r =>
    if baseOf? frames name = some base then some r.pose else none

/-- Edges in the order in which they are passed, each from a base to a frame on it. -/
abbrev Traversal := List (String × String)

/-- The edges below a base, depth first, down to a depth. Frames on one base are visited in
order of insertion. -/
def depthFirstFrom (frames : List (FrameRecord P)) : Nat → String → Traversal
  | 0, _ => []
  | depth + 1, base =>
    (frames.filter (·.relativeTo == base)).flatMap fun r =>
      (base, r.name) :: depthFirstFrom frames depth r.name

/-- The edges below the root, depth first. A tree is no deeper than it has frames. -/
def depthFirst (frames : List (FrameRecord P)) : Traversal :=
  depthFirstFrom frames frames.length ""

variable [RigidMotion P]

/-- The table with one more frame. There is none if the base has no root pose yet, or if there
is no such edge. -/
def resolveEdge (frames : List (FrameRecord P)) (table : PoseTable P) (edge : String × String) :
    Option (PoseTable P) :=
  (table.find? edge.1).bind fun p =>
    (declaredPose? frames edge.2 edge.1).map fun d =>
      (edge.2, RigidMotion.compose p d) :: table

/-- The table of the root and of the frames that a traversal leads to. -/
def resolveAlong (frames : List (FrameRecord P)) (order : Traversal) : Option (PoseTable P) :=
  order.foldlM (resolveEdge frames) [("", RigidMotion.identity)]

end SceneFrames
