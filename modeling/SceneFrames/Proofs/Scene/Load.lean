import SceneFrames.Proofs.Scene.Siblings
import SceneFrames.Scene.Document

/-!
What each kind of entity is loaded as.

One equation for each loader says what it makes of an entity and an element of its kind, and
what it notes, part by part: `nameProblems`, `poseProblems` and so on. The element decides what is
noted; the entity that is loaded into shows only where the element leaves something open.
-/

namespace SceneFrames

open Journaled Loading

/-! ### Placements -/

/-- The frame that a pose element says its pose is relative to. -/
def Placement.baseOf (options : Options) (pose : Element) : String :=
  match pose.word? "relative_to" with
  | some base => base
  | none => if options.allowsLegacyBase then pose.word "frame" else rootFrame

namespace Element

def nameProblems (k : Kind) (e : Element) : List Problem :=
  if e.word "name" = "" then [.nameMissing k.tag] else []

/-- The first pose of the element has a text. -/
def givesPose (e : Element) : Bool := (e.first? "pose").any (·.value != "")

/-- The pose of an entity once the element is loaded. -/
def poseOver (e : Element) (old : Pose Float) : Pose Float :=
  if e.givesPose then (e.get .pose "pose" Pose.identity).value.1 else old

/-- The base of an entity once the element is loaded. -/
def baseOver (options : Options) (e : Element) (old : String) : String :=
  ((e.first? "pose").map (Placement.baseOf options)).getD old

def poseProblems (e : Element) : List Problem :=
  if e.givesPose then (e.get .pose "pose" Pose.identity).problems else []

end Element

namespace Placement

variable {options : Options} {e : Element} {k : Kind} (p : Placement)

/-- The placement once the name and the pose of an element are loaded. -/
def loaded (options : Options) (e : Element) (p : Placement) : Placement :=
  { p with
    name := e.word "name"
    pose := e.poseOver p.pose
    base := e.baseOver options p.base
    line := e.line }

lemma loadName_eq : p.loadName k e =
    ⟨{ p with name := e.word "name", line := e.line }, e.nameProblems k, []⟩ := by
  simp only [loadName, ite_report]
  apply Journaled.ext <;> simp [Element.nameProblems]

lemma loadBase_eq (pose : Element) :
    (loadBase options pose : Journaled String) = pure (baseOf options pose) := by
  simp only [loadBase, take_text, pure_bind, baseOf, Element.word]
  cases pose.word? "relative_to" with
  | none => cases options.allowsLegacyBase <;> rfl
  | some base => rfl

lemma loadPose_eq : p.loadPose options e =
    ⟨{ p with pose := e.poseOver p.pose, base := e.baseOver options p.base }, e.poseProblems,
      []⟩ := by
  unfold loadPose Element.poseOver Element.baseOver Element.poseProblems Element.givesPose
  cases e.first? "pose" with
  | none => rfl
  | some child =>
    by_cases h : child.value = "" <;> apply Journaled.ext <;> simp [h, loadBase_eq]

end Placement

/-! ### Shapes and links -/

namespace Shape

variable {options : Options} {e : Element} {k : Kind} {name : String} {old : Shape}

/-- The known shape that the geometry of an element begins with. -/
def known? (e : Element) : Option String :=
  (e.first? "geometry").bind fun g => (g.children.head?.map (·.name)).filter geometryTypes.contains

def geometryProblems (k : Kind) (name : String) (e : Element) : List Problem :=
  match e.first? "geometry" with
  | none => [.geometryMissing k.tag name]
  | some g =>
    match g.children with
    | [] => []
    | shape :: _ =>
      if geometryTypes.contains shape.name then [] else [.geometryUnknown k.tag name shape.name]

lemma loadGeometry_eq (old : String) : loadGeometry k name e old =
    ⟨(known? e).getD old, geometryProblems k name e, []⟩ := by
  unfold loadGeometry known? geometryProblems
  cases e.first? "geometry" with
  | none => rfl
  | some g =>
    cases hg : g.children with
    | nil =>
      simp [hg]
      rfl
    | cons shape more =>
      by_cases h : shape.name ∈ geometryTypes <;> simp [hg, h, Option.filter] <;> rfl

lemma load_eq (h : e.name = k.tag) : load k options old e =
    ⟨⟨old.placement.loaded options e, (known? e).getD old.geometry⟩,
      e.nameProblems k ++ e.poseProblems ++ geometryProblems k (e.word "name") e, []⟩ := by
  rw [load, loadAs_of_tag h]
  simp only [Placement.loadName_eq, Placement.loadPose_eq, loadGeometry_eq]
  apply Journaled.ext <;> simp [Placement.loaded]

lemma placement_load (options : Options) (old : Shape) (h : e.name = k.tag) :
    (load k options old e).value.placement = old.placement.loaded options e := by rw [load_eq h]

end Shape

namespace Link

variable {options : Options} {e : Element} {old : Link}

lemma value_loadShapes {k : Kind} {name : String} : (loadShapes k options name e).value =
    (Siblings.gather Shape.placement
      ((e.named k.tag).map fun c => (Shape.load k options {} c).value)).kept := by
  rw [loadShapes, Siblings.value_loadParts, List.map_map]
  rfl

lemma load_eq (h : e.name = Kind.link.tag) : load options old e =
    let visuals := loadShapes .visual options (e.word "name") e
    let collisions := loadShapes .collision options (e.word "name") e
    ⟨⟨old.placement.loaded options e, visuals.value, collisions.value⟩,
      e.nameProblems .link ++ e.poseProblems ++ visuals.problems ++ collisions.problems,
      visuals.events ++ collisions.events ++
        [.linkLoaded (e.word "name") visuals.value.length collisions.value.length]⟩ := by
  rw [load, loadAs_of_tag h]
  simp only [Placement.loadName_eq, Placement.loadPose_eq]
  apply Journaled.ext <;> simp [Placement.loaded]

lemma placement_load (options : Options) (old : Link) (h : e.name = Kind.link.tag) :
    (load options old e).value.placement = old.placement.loaded options e := by rw [load_eq h]

end Link

/-! ### Joints and frames -/

namespace Joint

variable {options : Options} {e : Element} {name : String} {side : JointEnd} {old : Joint}

def typeProblems (name : String) (e : Element) : List Problem :=
  if e.word "type" = "" then [.jointTypeMissing name]
  else if jointTypes.contains (e.word "type") then []
  else [.jointTypeUnknown name (e.word "type")]

def endProblems (name : String) (e : Element) (side : JointEnd) : List Problem :=
  if e.word side.key = "" then [.jointEndMissing name side] else []

/-- The axis of a joint once the element is loaded. -/
def axisOver (e : Element) (old : Option (Vec3 Float)) : Option (Vec3 Float) :=
  ((e.first? "axis").map fun axis => (loadAxis axis).value).or old

def axisProblems (e : Element) : List Problem :=
  ((e.first? "axis").map fun axis => (loadAxis axis).problems).getD []

lemma loadType_eq : loadType name e = ⟨e.word "type", typeProblems name e, []⟩ := by
  simp only [loadType, take_text, pure_bind, Element.getD_word?, Element.missing_iff, note_eq]
  unfold typeProblems
  by_cases hempty : e.word "type" = ""
  · simp [hempty]
    rfl
  · by_cases hknown : e.word "type" ∈ jointTypes <;> simp [hempty, hknown] <;> rfl

lemma loadEnd_eq : loadEnd name e side = ⟨e.word side.key, endProblems name e side, []⟩ := by
  simp only [loadEnd, take_text, pure_bind, Element.getD_word?, Element.missing_iff, note_eq,
    ite_report]
  apply Journaled.ext <;> simp [endProblems]

@[simp] lemma events_loadAxis : (loadAxis e).events = [] := by
  unfold loadAxis
  cases h : (e.getWith FieldKind.vector "xyz" none some).value.1 with
  | none => simp [h]
  | some v => cases hd : direction? v <;> simp [h, hd]

lemma load_eq (h : e.name = Kind.joint.tag) : load options old e =
    ⟨⟨old.placement.loaded options e, e.word "type", e.word "parent", e.word "child",
        axisOver e old.axis?⟩,
      e.nameProblems .joint ++ typeProblems (e.word "name") e ++
        endProblems (e.word "name") e .parent ++ endProblems (e.word "name") e .child ++
        axisProblems e ++ e.poseProblems,
      [.jointLoaded (e.word "type") (e.word "name") (e.word "parent") (e.word "child")]⟩ := by
  rw [load, loadAs_of_tag h]
  simp only [Placement.loadName_eq, Placement.loadPose_eq, loadType_eq, loadEnd_eq]
  cases ha : e.first? "axis" <;>
    apply Journaled.ext <;> simp [Placement.loaded, JointEnd.key, axisOver, axisProblems, ha]

lemma placement_load (options : Options) (old : Joint) (h : e.name = Kind.joint.tag) :
    (load options old e).value.placement = old.placement.loaded options e := by rw [load_eq h]

end Joint

namespace ExplicitFrame

variable {options : Options} {e : Element} {old : ExplicitFrame}

lemma load_eq (h : e.name = Kind.frame.tag) : load options old e =
    ⟨⟨old.placement.loaded options e, e.word "attached_to"⟩,
      e.nameProblems .frame ++ e.poseProblems, []⟩ := by
  rw [load, loadAs_of_tag h]
  simp only [Placement.loadName_eq, Placement.loadPose_eq]
  apply Journaled.ext <;> simp [Placement.loaded]

lemma placement_load (options : Options) (old : ExplicitFrame) (h : e.name = Kind.frame.tag) :
    (load options old e).value.placement = old.placement.loaded options e := by rw [load_eq h]

end ExplicitFrame

/-! ### Models and worlds -/

/-- The graph of the scope. -/
def Members.graph (m : Members) (scope : String) : SceneGraph := FrameGraph.build m.records scope

namespace Model

variable {options : Options} {e : Element} {old : Model}

/-- The members that a model gets from an element. -/
def members (options : Options) (e : Element) : Members where
  links := Siblings.gather Link.placement
    ((e.named Kind.link.tag).map fun c => (Link.load options {} c).value)
  joints := Siblings.gather Joint.placement
    ((e.named Kind.joint.tag).map fun c => (Joint.load options {} c).value)
  frames := Siblings.gather ExplicitFrame.placement
    ((e.named Kind.frame.tag).map fun c => (ExplicitFrame.load options {} c).value)
  models := Siblings.gather Model.placement
    ((e.named Kind.model.tag).map fun c => (Model.load options {} c).value)

/-- The problem that a model has neither links nor models inside it. -/
def emptyProblems (options : Options) (e : Element) : List Problem :=
  if (members options e).links.kept.isEmpty && (members options e).models.kept.isEmpty then
    [.linkMissing (e.word "name")]
  else []

/-- The problems with the ends of the joints of a model. -/
def jointProblems (options : Options) (e : Element) : List Problem :=
  (members options e).joints.kept.flatMap ((members options e).jointProblems (e.word "name"))

lemma value_load (h : e.name = Kind.model.tag) : (load options old e).value =
    assemble (old.placement.loaded options e) (e.get .flag "static" false).value.1
      (members options e) ((members options e).graph (e.word "name")) := by
  rw [load, loadWith, loadAs_of_tag h, funext (loadFresh_eq_load options), closing_eq]
  simp only [note_eq, Placement.loadName_eq, Placement.loadPose_eq, ite_report]
  simp [Siblings.value_loadMembers, Placement.loaded, members, Members.graph, Function.comp_def]

lemma placement_load (options : Options) (old : Model) (h : e.name = Kind.model.tag) :
    (load options old e).value.placement = old.placement.loaded options e := by
  rw [value_load h]
  rfl

lemma problems_load (h : e.name = Kind.model.tag) : (load options old e).problems =
    e.nameProblems .model ++ e.poseProblems ++ (e.get .flag "static" false).problems ++
      (e.named Kind.link.tag).flatMap (fun c => (Link.load options {} c).problems) ++
      (e.named Kind.joint.tag).flatMap (fun c => (Joint.load options {} c).problems) ++
      (e.named Kind.frame.tag).flatMap (fun c => (ExplicitFrame.load options {} c).problems) ++
      (e.named Kind.model.tag).flatMap (fun c => (Model.load options {} c).problems) ++
      emptyProblems options e ++ jointProblems options e ++
      ((members options e).graph (e.word "name")).problems := by
  rw [load, loadWith, loadAs_of_tag h, funext (loadFresh_eq_load options), closing_eq]
  simp only [note_eq, Placement.loadName_eq, Placement.loadPose_eq, ite_report]
  simp [Siblings.value_loadMembers, Siblings.problems_loadMembers, members, Function.comp_def,
    List.flatMap_map, emptyProblems, jointProblems, Members.graph]

/-- The element decides all of a model but for the placement. -/
lemma load_eq_map (h : e.name = Kind.model.tag) : load options old e =
    (fun m => { m with placement := old.placement.loaded options e }) <$> load options {} e := by
  apply Journaled.ext
  · rw [value_map, value_load h, value_load h]
    rfl
  · rw [problems_map, problems_load h, problems_load h]
  · rw [load, load, loadWith, loadWith, loadAs_of_tag h, loadAs_of_tag h, closing_eq, closing_eq]
    simp only [note_eq, Placement.loadName_eq, Placement.loadPose_eq, ite_report]
    simp [event, assemble]

end Model

namespace World

/-- The graph of the scope. -/
def graphOf (scope : String) (models : Siblings Model) (frames : Siblings ExplicitFrame) :
    SceneGraph :=
  FrameGraph.build (recordsOf models frames) scope

variable {options : Options} {e : Element} {old : World}

def memberModels (options : Options) (e : Element) : Siblings Model :=
  Siblings.gather Model.placement
    ((e.named Kind.model.tag).map fun c => (Model.load options {} c).value)

def memberFrames (options : Options) (e : Element) : Siblings ExplicitFrame :=
  Siblings.gather ExplicitFrame.placement
    ((e.named Kind.frame.tag).map fun c => (ExplicitFrame.load options {} c).value)

lemma problems_load (h : e.name = Kind.world.tag) : (load options old e).problems =
    e.nameProblems .world ++ (e.get .vector "gravity" old.gravity).problems ++
      (e.named Kind.model.tag).flatMap (fun c => (Model.load options {} c).problems) ++
      (e.named Kind.frame.tag).flatMap (fun c => (ExplicitFrame.load options {} c).problems) ++
      (graphOf (e.word "name") (memberModels options e) (memberFrames options e)).problems := by
  rw [load, loadAs_of_tag h]
  simp only [Placement.loadName_eq]
  simp [Siblings.value_loadMembers, Siblings.problems_loadMembers, memberModels, memberFrames,
    graphOf, Function.comp_def, List.flatMap_map]

lemma value_load (h : e.name = Kind.world.tag) : (load options old e).value =
    let g := graphOf (e.word "name") (memberModels options e) (memberFrames options e)
    { placement := { old.placement with name := e.word "name", line := e.line }
      gravity := (e.get .vector "gravity" old.gravity).value.1
      models := (memberModels options e).kept.map
        fun m => { m with placement := m.placement.attach g }
      frames := (memberFrames options e).kept.map
        fun f => { f with placement := f.placement.attach g }
      graph? := some g } := by
  rw [load, loadAs_of_tag h]
  simp only [Placement.loadName_eq]
  simp [Siblings.value_loadMembers, memberModels, memberFrames, graphOf, Function.comp_def]

/-- The element decides all of a world but for what a world keeps of its placement, and for
gravity that is not given. -/
lemma load_eq_map (h : e.name = Kind.world.tag) : load options old e =
    (fun w => { w with
      placement := { old.placement with name := e.word "name", line := e.line }
      gravity := (e.get .vector "gravity" old.gravity).value.1 }) <$> load options {} e := by
  have hgravity := congrArg Journaled.problems
    (Element.get_eq_map e .vector "gravity" old.gravity ({} : World).gravity)
  apply Journaled.ext
  · rw [value_map, value_load h, value_load h]
  · rw [problems_map, problems_load h, problems_load h, hgravity, problems_map]
  · rw [load, load, loadAs_of_tag h, loadAs_of_tag h]
    simp only [Placement.loadName_eq]
    simp

end World

/-! ### Documents -/

namespace Document

variable {e : Element}

def versionProblems (e : Element) : List Problem :=
  if e.word "version" = "" then [.versionMissing]
  else if supportedVersions.contains (e.word "version") then []
  else [.versionUnsupported (e.word "version")]

lemma loadVersion_eq : loadVersion e = ⟨e.word "version", versionProblems e, []⟩ := by
  simp only [loadVersion, take_text, pure_bind, Element.getD_word?, Element.missing_iff, note_eq]
  unfold versionProblems
  by_cases hempty : e.word "version" = ""
  · simp [hempty]
    rfl
  · by_cases hknown : e.word "version" ∈ supportedVersions <;> simp [hempty, hknown] <;> rfl

lemma settle_eq (x : Journaled Document) :
    settle x = { x with value := { x.value with problems := x.problems } } := by
  apply Journaled.ext <;> simp [settle]

end Document

end SceneFrames
