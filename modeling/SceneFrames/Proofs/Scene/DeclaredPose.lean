import SceneFrames.Proofs.Scene.Alike
import SceneFrames.Proofs.Scene.Blocks
import SceneFrames.Proofs.Scene.Opacity

/-!
Where the declared pose of an entity comes from.

Whether an entity declares a pose, and what the pose is relative to, is a matter of the first pose
element in its element. The text of the pose is that of the pose element too, unless the element
itself has an attribute of that name, which then takes its place. A text that is no pose leaves the
identity and is noted once; besides that the pose has no part in what is noted.
-/

namespace SceneFrames

open Journaled

variable {options : Options} {e : Element} {o k : Kind}

namespace Element

/-- The text of the first pose element, if there is one with a text. -/
def poseText? (e : Element) : Option String := ((e.first? "pose").map (·.value)).filter (· ≠ "")

/-- The problem that a text is no pose, if there is a text and it is none. -/
def poseFaults (e : Element) (text? : Option String) : List Problem :=
  match text?.map readPose with
  | some (.error fault) => [.unreadable "pose" e.name e.line fault]
  | _ => []

/-- The element without anything that could give it a pose. -/
def unposed (e : Element) : Element := e.without ["pose"]

/-- The pose of an entity is the one that a text says, or else the identity, and its base is the
one that the first pose element says, or else the root. That the text is no pose is noted once, and
is all that is noted because of the pose: the rest is what is noted without it. -/
structure DeclaresPose (options : Options) (k : Kind) (e : Element) (text? : Option String) :
    Prop where
  pose : (Entity.loaded options k e).placement.pose =
    (text?.bind fun text => (readPose text).toOption).getD Pose.identity
  base : (Entity.loaded options k e).placement.base =
    ((e.first? "pose").map (Placement.baseOf options)).getD rootFrame
  problems : ∃ before after, noted options (k, e) = before ++ e.poseFaults text? ++ after ∧
    noted options (k, e.unposed) = before ++ after

/-! ### The pose that is read -/

/-- The text that the pose of an element is read from. -/
def readPoseText? (e : Element) : Option String :=
  e.poseText?.map fun text => (e.attribute? "pose").getD text

lemma readPoseText?_of_no_attribute (h : e.attribute? "pose" = none) :
    e.readPoseText? = e.poseText? := by
  simp [readPoseText?, h]

/-- The element gives a pose where its first pose element has a text, and then the field has the
text that is read. -/
lemma readPoseText?_eq (e : Element) :
    e.readPoseText? = if e.givesPose then e.fieldText? "pose" else none := by
  unfold readPoseText? poseText? givesPose fieldText?
  cases e.first? "pose" with
  | none => simp
  | some child =>
    by_cases hvalue : child.value = ""
    · simp [hvalue]
    · cases e.attribute? "pose" <;> simp [hvalue, Option.filter]

lemma poseOver_identity (e : Element) : e.poseOver Pose.identity =
    (e.readPoseText?.bind fun text => (readPose text).toOption).getD Pose.identity := by
  rw [readPoseText?_eq, poseOver]
  split
  · unfold get getWith read?
    cases e.fieldText? "pose" with
    | none => rfl
    | some text => cases h : readPose text <;> simp [FieldKind.read, h, Except.toOption]
  · rfl

lemma poseProblems_eq (e : Element) : e.poseProblems = e.poseFaults e.readPoseText? := by
  rw [readPoseText?_eq, poseProblems]
  split
  · unfold get getWith read? poseFaults
    cases e.fieldText? "pose" with
    | none => rfl
    | some text => cases h : readPose text <;> simp [FieldKind.read, h]
  · rfl

/-! ### Elements without a pose -/

@[simp] lemma word_unposed {key : String} (h : key ≠ "pose") :
    e.unposed.word key = e.word key := by
  rw [word, word?, unposed, fieldText?_without (by simpa using h)]
  rfl

lemma get_unposed {key : String} (h : key ≠ "pose") (f : FieldKind) (default : f.Value) :
    e.unposed.get f key default = e.get f key default := by
  rw [get, getWith, read?, unposed, fieldText?_without (by simpa using h)]
  rfl

lemma first?_unposed {name : String} (h : name ≠ "pose") :
    e.unposed.first? name = e.first? name :=
  first?_without (by simpa using h)

lemma named_unposed (e : Element) (k : Kind) : e.unposed.named k.tag = e.named k.tag := by
  simp only [named, unposed, without, List.filter_filter]
  refine List.filter_congr fun c _ => ?_
  by_cases hc : c.name = k.tag <;> simp [hc, k.tag_ne_pose]

lemma poseProblems_unposed (e : Element) : e.unposed.poseProblems = [] := by
  have hnone : e.unposed.first? "pose" = none := by
    simp [first?, unposed, without]
  simp [poseProblems, givesPose, hnone]

lemma parts_unposed (e : Element) (o : Kind) : e.unposed.parts o = e.parts o := by
  have hparts (k : Kind) (earlier cs : List Element) :
      e.unposed.partsAfter o k earlier cs = e.partsAfter o k earlier cs := by
    induction cs generalizing earlier with
    | nil => rfl
    | cons c cs ih =>
      rw [partsAfter, partsAfter, ih, repeatProblems, repeatProblems, word_unposed (by decide)]
  simp only [parts, hparts, named_unposed]

lemma scopeRecords_unposed (options : Options) (kinds : List Kind) (e : Element) :
    e.unposed.scopeRecords options kinds = e.scopeRecords options kinds := by
  simp only [scopeRecords, keptChildren, leftOutChildren, named_unposed]

/-- Of what an entity notes itself, the problems with the pose are one stretch, and nothing else
changes without a pose. -/
lemma exists_ownProblems_eq (e : Element) (hk : k ≠ .world) :
    ∃ before after, e.ownProblems k = before ++ e.poseProblems ++ after ∧
      e.unposed.ownProblems k = before ++ after := by
  have hname : e.unposed.nameProblems k = e.nameProblems k := by
    rw [nameProblems, nameProblems, word_unposed (by decide)]
  have hnone := poseProblems_unposed e
  have hgeometry (k : Kind) : Shape.geometryProblems k (e.unposed.word "name") e.unposed =
      Shape.geometryProblems k (e.word "name") e := by
    rw [Shape.geometryProblems, Shape.geometryProblems, first?_unposed (by decide),
      word_unposed (by decide)]
  cases k with
  | world => exact absurd rfl hk
  | model =>
    refine ⟨e.nameProblems .model, (e.get .flag "static" false).problems, rfl, ?_⟩
    rw [ownProblems, hname, hnone, get_unposed (by decide), List.append_nil]
  | link =>
    refine ⟨e.nameProblems .link, [], by simp [ownProblems], ?_⟩
    rw [ownProblems, hname, hnone]
  | joint =>
    refine ⟨e.nameProblems .joint ++ Joint.typeProblems (e.word "name") e ++
      Joint.endProblems (e.word "name") e .parent ++ Joint.endProblems (e.word "name") e .child ++
      Joint.axisProblems e, [], by simp [ownProblems], ?_⟩
    simp (disch := decide) only [ownProblems, hname, hnone, Joint.typeProblems, Joint.endProblems,
      Joint.axisProblems, word_unposed, first?_unposed]
  | frame =>
    refine ⟨e.nameProblems .frame, [], by simp [ownProblems], ?_⟩
    rw [ownProblems, hname, hnone]
  | visual =>
    refine ⟨e.nameProblems .visual, Shape.geometryProblems .visual (e.word "name") e, rfl, ?_⟩
    rw [ownProblems, hname, hnone, hgeometry, List.append_nil]
  | collision =>
    refine ⟨e.nameProblems .collision, Shape.geometryProblems .collision (e.word "name") e, rfl, ?_⟩
    rw [ownProblems, hname, hnone, hgeometry, List.append_nil]

lemma referenceProblems_unposed (options : Options) (e : Element) (k : Kind) :
    referenceProblems options (k, e.unposed) = referenceProblems options (k, e) := by
  have hmembers : Model.members options e.unposed = Model.members options e := by
    simp only [Model.members, named_unposed]
  cases k with
  | model =>
    have hname : e.unposed.word "name" = e.word "name" := word_unposed (by decide)
    simp only [referenceProblems, Model.emptyProblems, Model.jointProblems, hmembers, hname]
  | _ => rfl

lemma graphProblems_unposed (options : Options) (h : e.name = k.tag) :
    (Entity.loaded options k e.unposed).graphProblems =
      (Entity.loaded options k e).graphProblems := by
  cases hscope : k.isScope with
  | false =>
    rw [graphProblems_of_not_scope options e hscope,
      graphProblems_of_not_scope options e.unposed hscope]
  | true =>
    have hunposed : e.unposed.name = k.tag := h
    rw [Entity.graphProblems, Entity.graphProblems, Entity.graph?_loaded options h hscope,
      Entity.graph?_loaded options hunposed hscope, scopeRecords_unposed,
      word_unposed (by decide)]

/-- **The declared pose** of an entity other than a world is what the text of the first pose element
says, if there is no attribute in its place. An attribute named for the pose takes the place of the
text where there is one, and is of no account where there is none. -/
theorem declaresPose_read (options : Options) (k : Kind) (e : Element) (h : e.name = k.tag)
    (hk : k ≠ .world) :
    e.DeclaresPose options k (e.poseText?.map fun text => (e.attribute? "pose").getD text) ∧
      (e.attribute? "pose" = none → e.DeclaresPose options k e.poseText?) := by
  have hdeclares : e.DeclaresPose options k e.readPoseText? := by
    have hplace := Entity.placement_loaded options h hk
    refine ⟨?_, ?_, ?_⟩
    · rw [hplace, ← poseOver_identity]
      rfl
    · rw [hplace]
      rfl
    · obtain ⟨before, after, hown, hunposed⟩ := exists_ownProblems_eq e hk
      have hunposedName : e.unposed.name = k.tag := h
      refine ⟨before, after ++ ((e.parts k).flatMap (MemberPart.block options) ++
        referenceProblems options (k, e) ++ (Entity.loaded options k e).graphProblems), ?_, ?_⟩
      · rw [noted, problems_load_eq options h, hown, ← poseProblems_eq]
        simp only [List.append_assoc]
      · rw [noted, problems_load_eq options hunposedName, hunposed, parts_unposed,
          referenceProblems_unposed, graphProblems_unposed options h]
        simp only [List.append_assoc]
  exact ⟨hdeclares, fun hnone => readPoseText?_of_no_attribute hnone ▸ hdeclares⟩

/-- A link with a pose in an attribute, which is none, and with a pose element. -/
def doublyPosed : Element :=
  { name := "link"
    attributes := [("name", "a"), ("pose", "x")]
    children := [{ name := "pose", value := "1 2 3 0 0 0" }] }

/-- A link with two pose elements, of which the first is no pose. -/
def twicePosed : Element :=
  { name := "link"
    attributes := [("name", "a")]
    children := [
      { name := "pose", attributes := [("relative_to", "b")], value := "1 2 3" },
      { name := "pose", attributes := [("relative_to", "c")], value := "1 2 3 0 0 0" }] }

theorem declaresPose_twicePosed : twicePosed.name = Kind.link.tag ∧ Kind.link ≠ .world ∧
    twicePosed.attribute? "pose" = none ∧ twicePosed.poseText? = some "1 2 3" ∧
    twicePosed.DeclaresPose {} .link (some "1 2 3") ∧
    (Entity.loaded {} .link twicePosed).placement.base = "b" := by
  have hdeclares := (declaresPose_read {} .link twicePosed rfl (by decide)).2 rfl
  exact ⟨rfl, by decide, rfl, rfl, hdeclares, hdeclares.base.trans (by decide)⟩

/-- An attribute takes the place of the text of the first pose element. -/
theorem attribute_before_pose : ¬ ∀ (options : Options) (k : Kind) (e : Element),
    e.name = k.tag → k ≠ .world → e.DeclaresPose options k e.poseText? := by
  intro h
  obtain ⟨before, after, hnoted, hunposed⟩ :=
    (h {} .link doublyPosed rfl (by decide)).problems
  have hreadable : doublyPosed.poseFaults doublyPosed.poseText? = [] := by decide
  rw [hreadable, List.append_nil, ← hunposed] at hnoted
  revert hnoted
  decide

end Element

end SceneFrames
