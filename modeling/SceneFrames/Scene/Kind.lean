/-!
Kinds: what a scene is made of, and the words that elements use for it.
-/

namespace SceneFrames

/-- The kinds of entities. -/
inductive Kind
  | world | model | link | joint | frame | visual | collision
  deriving DecidableEq, Repr

namespace Kind

/-- The name of the elements of a kind. -/
def tag : Kind → String
  | world => "world"
  | model => "model"
  | link => "link"
  | joint => "joint"
  | frame => "frame"
  | visual => "visual"
  | collision => "collision"

/-- The kind as a title. -/
def title : Kind → String
  | world => "World"
  | model => "Model"
  | link => "Link"
  | joint => "Joint"
  | frame => "Frame"
  | visual => "Visual"
  | collision => "Collision"

/-- All kinds. -/
def all : List Kind := [world, model, link, joint, frame, visual, collision]

/-- The kind of an element name. -/
def ofTag? (tag : String) : Option Kind := all.find? (·.tag == tag)

theorem tag_injective {a b : Kind} (h : a.tag = b.tag) : a = b := by
  cases a <;> cases b <;> first | rfl | exact absurd h (by decide)

end Kind

/-- The empty name, which stands for the root frame of a scope. -/
def rootFrame : String := ""

/-- The name by which a joint refers to the world. -/
def worldFrame : String := "world"

/-- The types of joints. -/
def jointTypes : List String :=
  ["ball", "continuous", "fixed", "gearbox", "prismatic", "revolute", "revolute2", "screw",
   "universal"]

/-- The types of geometry. -/
def geometryTypes : List String :=
  ["empty", "box", "cylinder", "sphere", "capsule", "ellipsoid", "plane", "mesh", "heightmap",
   "image", "polyline"]

end SceneFrames
