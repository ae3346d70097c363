import SceneFrames.Problem

/-!
Log events: what is said while documents are loaded, who says it, and how important it is.
-/

namespace SceneFrames

/-- The parts of the library that speak. -/
inductive Speaker
  | package | link | joint | model | world | frameGraph | document
  deriving DecidableEq, Repr

/-- The name of a speaker. -/
def Speaker.name : Speaker → String
  | package => "sdf_dom"
  | link => "sdf_dom.entities.link"
  | joint => "sdf_dom.entities.joint"
  | model => "sdf_dom.entities.model"
  | world => "sdf_dom.entities.world"
  | frameGraph => "sdf_dom.frame_graph"
  | document => "sdf_dom.root"

/-- How important an event is. -/
inductive Severity
  | debug | info | warning
  deriving DecidableEq, Repr

/-- The name of a severity. -/
def Severity.name : Severity → String
  | debug => "DEBUG"
  | info => "INFO"
  | warning => "WARNING"

/-- The rank of a severity. -/
def Severity.rank : Severity → Int
  | debug => 10
  | info => 20
  | warning => 30

/-- What is said. -/
inductive LogEvent
  | initialized (handlers : Nat)
  | linkLoaded (name : String) (visuals collisions : Nat)
  | jointLoaded (type name parent child : String)
  | modelFaulty (name : String) (problems : Nat)
  | modelLoaded (name : String) (links joints frames models : Nat)
  | worldLoaded (name : String) (models : Nat)
  | graphFaulty (scope : String) (problems : Nat)
  | graphBuilt (scope : String) (frames : Nat)
  | documentFaulty (source : String) (problems : Nat)
  | documentProblem (problem : Problem)
  | documentLoaded (source : String)
  deriving DecidableEq, Repr

namespace LogEvent

/-- Who says it. -/
def speaker : LogEvent → Speaker
  | initialized .. => .package
  | linkLoaded .. => .link
  | jointLoaded .. => .joint
  | modelFaulty .. | modelLoaded .. => .model
  | worldLoaded .. => .world
  | graphFaulty .. | graphBuilt .. => .frameGraph
  | documentFaulty .. | documentProblem .. | documentLoaded .. => .document

/-- How important it is. -/
def severity : LogEvent → Severity
  | modelFaulty .. | graphFaulty .. | documentFaulty .. => .warning
  | documentLoaded .. => .info
  | _ => .debug

/-- A number of things, as part of a message. -/
def counted (n : Nat) (noun : String) : String := toString n ++ " " ++ noun ++ "(s)"

/-- The wording. -/
def message : LogEvent → String
  | initialized handlers => "Logging initialized for " ++ counted handlers "handler"
  | linkLoaded name visuals collisions =>
    "Loaded link [" ++ name ++ "] with " ++ counted visuals "visual" ++ " and " ++
      counted collisions "collision"
  | jointLoaded type name parent child =>
    "Loaded " ++ type ++ " joint [" ++ name ++ "] from [" ++ parent ++ "] to [" ++ child ++ "]"
  | modelFaulty name problems =>
    "Model [" ++ name ++ "] loaded with " ++ counted problems "error"
  | modelLoaded name links joints frames models =>
    "Loaded model [" ++ name ++ "]: " ++ counted links "link" ++ ", " ++ counted joints "joint" ++
      ", " ++ counted frames "frame" ++ ", " ++ counted models "nested model"
  | worldLoaded name models => "Loaded world [" ++ name ++ "] with " ++ counted models "model"
  | graphFaulty scope problems =>
    "Frame graph of scope [" ++ scope ++ "] has " ++ counted problems "error"
  | graphBuilt scope frames =>
    "Built frame graph of scope [" ++ scope ++ "] with " ++ counted frames "frame"
  | documentFaulty source problems =>
    "Loaded [" ++ source ++ "] with " ++ counted problems "error"
  | documentProblem problem => problem.text
  | documentLoaded source => "Loaded [" ++ source ++ "]"

end LogEvent

end SceneFrames
