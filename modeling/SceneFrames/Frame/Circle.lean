import SceneFrames.Frame.Insertion

/-!
Circles of frames. From every frame in turn, a walk follows the bases until it is known how it
ends: at the root, at a base that does not exist, or in a circle. The frames of a walk are
marked by its end, and a later walk stops at the first marked frame it meets.
-/

namespace SceneFrames

/-- How a walk ends. -/
inductive WalkEnd
  /-- At the root, or at a frame from which the root is reached. -/
  | home
  /-- At a frame from which the root is not reached. -/
  | lost
  /-- At a frame that the walk has passed; the route from that frame back to it. -/
  | circle (route : List String)
  deriving DecidableEq, Repr

/-- The marks that walks leave: the frames from which the root is reached, those from which it
is not, and the circles found. -/
structure Marks where
  settled : List String := [""]
  doomed : List String := []
  circles : List (List String) := []

/-- Two routes pass the same frames. -/
def sameFrames (a b : List String) : Bool := a.all b.contains && b.all a.contains

/-- Follows the bases from a frame. `passed` holds the frames of the walk, the latest first. The
fuel is more than any walk needs: no frame is passed twice. -/
def walk (base? : String → Option String) (marks : Marks) :
    Nat → List String → String → List String × WalkEnd
  | 0, passed, _ => (passed, .lost)
  | fuel + 1, passed, current =>
    if marks.settled.contains current then (passed, .home)
    else if marks.doomed.contains current then (passed, .lost)
    else if passed.contains current then
      (passed, .circle (passed.reverse.dropWhile (· != current)))
    else
      match base? current with
      | none => (current :: passed, .lost)
      | some next => walk base? marks fuel (current :: passed) next

/-- The marks after a walk. A circle is noted unless one of the same frames has been. -/
def Marks.after (marks : Marks) : List String × WalkEnd → Marks
  | (passed, .home) => { marks with settled := passed ++ marks.settled }
  | (passed, .lost) => { marks with doomed := passed ++ marks.doomed }
  | (passed, .circle route) =>
    { marks with
      doomed := passed ++ marks.doomed
      circles := if marks.circles.any (sameFrames route) then marks.circles
        else marks.circles ++ [route] }

variable {P : Type}

/-- The walk from a node. -/
def walkFrom (frames : List (FrameRecord P)) (marks : Marks) (node : String) :
    List String × WalkEnd :=
  walk (baseOf? frames) marks (frames.length + 2) [] node

/-- The marks after walks from all nodes in order. -/
def markAll (frames : List (FrameRecord P)) : Marks :=
  ("" :: frames.map (·.name)).foldl (fun marks node => marks.after (walkFrom frames marks node)) {}

end SceneFrames
