import SceneFrames.Scene.ExplicitFrame
import SceneFrames.Scene.Joint
import SceneFrames.Scene.Link

/-!
Models: links, joints, frames and models inside models. A model is the scope of the frames that
its direct members declare. A model inside another is one frame of the outer scope, and its
members belong to its own scope alone.
-/

namespace SceneFrames

/-- A model with its members and the graph of its scope. -/
structure Model where
  placement : Placement := {}
  isStatic : Bool := false
  links : List Link := []
  joints : List Joint := []
  frames : List ExplicitFrame := []
  models : List Model := []
  graph? : Option SceneGraph := none
  deriving Inhabited

/-- What is loaded of the members of a model. -/
structure Members where
  links : Siblings Link
  joints : Siblings Joint
  frames : Siblings ExplicitFrame
  models : Siblings Model

namespace Members

/-- The frames of the members that are kept. -/
def keptRecords (m : Members) : List (FrameRecord (Pose Float)) :=
  m.links.kept.map (·.placement.record .link) ++ m.joints.kept.map (·.placement.record .joint) ++
    m.frames.kept.map (·.placement.record .frame) ++
    m.models.kept.map (·.placement.record .model)

/-- The frames of the members that repeat names. -/
def repeatedRecords (m : Members) : List (FrameRecord (Pose Float)) :=
  m.links.repeated.map (·.placement.record .link) ++
    m.joints.repeated.map (·.placement.record .joint) ++
    m.frames.repeated.map (·.placement.record .frame) ++
    m.models.repeated.map (·.placement.record .model)

/-- The frames of the members. Those that repeat names come last. -/
def records (m : Members) : List (FrameRecord (Pose Float)) := m.keptRecords ++ m.repeatedRecords

/-- A kept link has the name. -/
def hasLink (m : Members) (name : String) : Bool := m.links.kept.any (·.placement.name == name)

/-- The problems with the ends of a joint: each end is a link of the model, or the world for the
fixed one, and they differ. -/
def jointProblems (m : Members) (model : String) (j : Joint) : List Problem :=
  let name := j.placement.name
  let parentKnown := j.parent = "" || j.parent = worldFrame || m.hasLink j.parent
  let childKnown := j.child = "" || m.hasLink j.child
  let same := j.parent ≠ "" && j.parent = j.child
  (if parentKnown then [] else [.jointEndUnknown .parent j.parent name model]) ++
    (if childKnown then [] else [.jointEndUnknown .child j.child name model]) ++
    if same then [.jointEndsEqual j.child name model] else []

end Members

namespace Model

/-- The model with its members, each attached to the graph of the scope. -/
def assemble (p : Placement) (isStatic : Bool) (m : Members) (g : SceneGraph) : Model where
  placement := p
  isStatic := isStatic
  links := m.links.kept.map fun l => { l with placement := l.placement.attach g }
  joints := m.joints.kept.map fun j => { j with placement := j.placement.attach g }
  frames := m.frames.kept.map fun f => { f with placement := f.placement.attach g }
  models := m.models.kept.map fun c => { c with placement := c.placement.attach g }
  graph? := some g

/-- What is logged when a model is loaded. -/
def event (m : Model) (problems : List Problem) : LogEvent :=
  if problems.isEmpty then
    .modelLoaded m.placement.name m.links.length m.joints.length m.frames.length m.models.length
  else .modelFaulty m.placement.name problems.length

open Loading

variable {m : Type → Type} [Loading m]

/-- Loads a model, given the loads of the models inside it. -/
def loadWith (options : Options) (old : Model) (e : Element) (models : List (m Model)) :
    m Model :=
  loadAs .model old e <| closing (do
    let p ← note (old.placement.loadName .model e)
    let p ← p.loadPose options e
    let (isStatic, _) ← note (e.get .flag "static" false)
    let links ← Siblings.loadMembers Link.placement
      ((e.named Kind.link.tag).map (Link.load options {}))
    let joints ← Siblings.loadMembers Joint.placement
      ((e.named Kind.joint.tag).map (Joint.load options {}))
    let frames ← Siblings.loadMembers ExplicitFrame.placement
      ((e.named Kind.frame.tag).map (ExplicitFrame.load options {}))
    let models ← Siblings.loadMembers Model.placement models
    let members : Members := ⟨links, joints, frames, models⟩
    if links.kept.isEmpty && models.kept.isEmpty then
      note (Journaled.report (.linkMissing p.name))
    note (Journaled.reportAll (joints.kept.flatMap (members.jointProblems p.name)))
    let g ← take (.graph members.records p.name)
    note (Journaled.log g.event)
    note (Journaled.reportAll g.problems)
    return assemble p isStatic members g) event

mutual

/-- Loads a model that nothing has been loaded into. -/
def loadFresh (options : Options) : Element → m Model
  | ⟨name, attributes, children, value, line⟩ =>
    loadWith options {} ⟨name, attributes, children, value, line⟩ (loadNested options children)

/-- The loads of the models among elements. -/
def loadNested (options : Options) : List Element → List (m Model)
  | [] => []
  | e :: more =>
    if e.name == Kind.model.tag then loadFresh options e :: loadNested options more
    else loadNested options more

end

theorem loadNested_eq (options : Options) (es : List Element) :
    loadNested (m := m) options es =
      (es.filter (·.name == Kind.model.tag)).map (loadFresh options) := by
  induction es with
  | nil => simp [loadNested]
  | cons e es ih => rw [loadNested]; split <;> simp [*]

/-- Loads a model. -/
def load (options : Options) (old : Model) (e : Element) : m Model :=
  loadWith options old e ((e.named Kind.model.tag).map (loadFresh options))

theorem loadFresh_eq_load (options : Options) (e : Element) :
    loadFresh (m := m) options e = load options {} e := by
  cases e
  simp [loadFresh, load, loadNested_eq, Element.named]

/-- The pose of a frame of the model in another. -/
def framePose (m : Model) (name relativeTo : String) : Except QueryError (Pose Float) :=
  match m.graph? with
  | some g => g.pose name relativeTo
  | none => .error (.notLoaded Kind.model.title m.placement.name)

/-- The declared pose, or the pose in a frame of the enclosing scope. -/
def pose (m : Model) (relativeTo? : Option String) : Except QueryError (Pose Float) :=
  match relativeTo? with
  | none => .ok m.placement.pose
  | some r => m.placement.poseIn .model r

end Model

end SceneFrames
