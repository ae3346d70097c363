import SceneFrames.Frame.Graph

/-!
Queries of frame graphs: chains to the root, paths between frames, and the pose of one frame in
another. A query of a graph with problems fails with all of them; otherwise it fails when a
frame does not exist, and names the first such frame.
-/

namespace SceneFrames

/-- Why a pose or a path is not answered. -/
inductive QueryError
  /-- The graph of the scope has problems. -/
  | faultyGraph (scope : String) (problems : List Problem)
  /-- The entity is in no scope. -/
  | unattached (kind name : String)
  /-- The entity has no graph yet. -/
  | notLoaded (title name : String)
  /-- The scope has no frame of the name. -/
  | unknownFrame (scope name : String)
  /-- The entity has no name, and so no frame. -/
  | nameless (kind scope : String)
  /-- The graph has no node of the name. -/
  | noNode (name : String)
  deriving DecidableEq, Repr

namespace QueryError

/-- The wording of a failed query. -/
def message : QueryError → String
  | faultyGraph scope problems =>
    "Frame graph of scope [" ++ scope ++ "] is invalid with " ++
      LogEvent.counted problems.length "error"
  | unattached kind name =>
    Text.capitalized kind ++ " [" ++ name ++ "] is not attached to a frame graph"
  | notLoaded title name => title ++ " [" ++ name ++ "] has not been loaded"
  | unknownFrame scope name => "Frame [" ++ name ++ "] does not exist in scope [" ++ scope ++ "]"
  | nameless kind scope => "Nameless " ++ kind ++ " has no frame in scope [" ++ scope ++ "]"
  | noNode name => "The node " ++ name ++ " is not in the digraph."

/-- The code of a failed query. -/
def code : QueryError → ProblemCode
  | faultyGraph .. | unattached .. | notLoaded .. => .graphInvalid
  | unknownFrame .. | nameless .. | noNode .. => .frameNotFound

/-- The problems of the graph. -/
def problems : QueryError → List Problem
  | faultyGraph _ ps => ps
  | _ => []

/-- The name that is missing. -/
def missingName : QueryError → String
  | unknownFrame _ name | noNode name => name
  | _ => ""

end QueryError

namespace FrameGraph

variable {P : Type}

/-- Fails if the graph has problems. -/
def requireValid (g : FrameGraph P) : Except QueryError Unit :=
  if g.valid then .ok () else .error (.faultyGraph g.scope g.problems)

/-- The root pose of a frame. -/
def rootPose (g : FrameGraph P) (name : String) : Except QueryError P :=
  match g.rootPoses.find? name with
  | some p => .ok p
  | none => .error (.unknownFrame g.scope name)

/-- The frame that a node is declared relative to. -/
def relativeTo (g : FrameGraph P) (name : String) : Except QueryError (Option String) :=
  if isNode g.frames name then .ok (g.base? name) else .error (.noNode name)

/-- The nodes from a node on, following the bases. The fuel is more than a chain of a tree
needs. -/
def follow (base? : String → Option String) : Nat → String → List String
  | 0, name => [name]
  | fuel + 1, name => name :: ((base? name).map (follow base? fuel)).getD []

/-- The nodes from a frame to the root. -/
def chainOf (g : FrameGraph P) (name : String) : List String :=
  follow g.base? g.frames.length name

/-- The frames from a frame up to and including the root. -/
def chain (g : FrameGraph P) (name : String) : Except QueryError (List String) := do
  g.requireValid
  let _ ← g.rootPose name
  return g.chainOf name

/-- Up one chain to the first node that is also on the other, and down the other from there. -/
def joinChains (up down : List String) : List String :=
  let below := up.takeWhile fun n => !down.contains n
  match up.drop below.length with
  | meet :: _ => below ++ meet :: (down.takeWhile (· != meet)).reverse
  | [] => below

/-- The frames from one frame to another along the tree. -/
def path (g : FrameGraph P) (source target : String) : Except QueryError (List String) := do
  g.requireValid
  let _ ← g.rootPose source
  let _ ← g.rootPose target
  return joinChains (g.chainOf source) (g.chainOf target)

/-- The pose of one frame in another. -/
def pose [RigidMotion P] (g : FrameGraph P) (source : String) (relativeTo : String) :
    Except QueryError P := do
  g.requireValid
  let s ← g.rootPose source
  let r ← g.rootPose relativeTo
  return RigidMotion.compose (RigidMotion.inverse r) s

end FrameGraph

end SceneFrames
