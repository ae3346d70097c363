import SceneFrames.Proofs.Field.Numbers
import SceneFrames.Scene.Document
import Mathlib.Logic.Relation

/-!
Well-formed documents.

What a document has to be is said here of its elements alone, kind by kind, and of nothing that
happens when they are loaded. Fields are the trimmed texts that elements give them, attributes
before children. A model is well formed if it is so itself, and if the models inside it are; so
the predicate for models is inductive, and those for the other kinds need not be.
-/

namespace SceneFrames

open Relation

/-! ### Fields -/

namespace Element

/-- The element has a name that is not blank. -/
def HasName (e : Element) : Prop := e.word "name" ≠ ""

/-- If the first pose of the element has a text, the pose lists six numbers. -/
def PoseReadable (e : Element) : Prop :=
  ∀ pose, e.first? "pose" = some pose → pose.value ≠ "" →
    ∃ text bs, e.fieldText? "pose" = some text ∧ ListsNumbers text bs ∧ bs.length = 6

/-- The field lists three numbers, if it is there. -/
def TripleReadable (e : Element) (key : String) : Prop :=
  ∀ text, e.fieldText? key = some text → ∃ x y z, ListsNumbers text [x, y, z]

/-- The frame that the first pose of the element is relative to: the one that the pose names, or
the one that it names by the old word if there is no other and the old word is allowed. It is the
root if the pose names none, or if there is no pose. -/
def declaredBase (options : Options) (e : Element) : String :=
  match e.first? "pose" with
  | none => rootFrame
  | some pose =>
    match pose.word? "relative_to", pose.word? "frame" with
    | some base, _ => base
    | none, some base => if options.allowsLegacyBase then base else rootFrame
    | none, none => rootFrame

/-- The names of the children of a kind. -/
def namesOf (e : Element) (k : Kind) : List String := (e.named k.tag).map (·.word "name")

/-- What the children of some kinds declare: each a name, and the frame it is relative to. -/
def declarations (options : Options) (kinds : List Kind) (e : Element) : List (String × String) :=
  (kinds.flatMap fun k => e.named k.tag).map fun c => (c.word "name", c.declaredBase options)

end Element

/-- Declarations that form a scope: no name is declared twice, everything is relative to the root
or to a declared name, and nothing is relative to itself, not even over others. -/
structure FormsScope (declarations : List (String × String)) : Prop where
  distinct : (declarations.map (·.1)).Nodup
  resolved : ∀ d ∈ declarations, d.2 = "" ∨ d.2 ∈ declarations.map (·.1)
  acyclic : ∀ x, ¬ TransGen (fun x y => (x, y) ∈ declarations) x x

/-! ### Kinds of entities -/

/-- A visual or a collision: its geometry is empty or begins with a known shape. -/
structure Shape.WellFormed (e : Element) : Prop where
  named : e.HasName
  posed : e.PoseReadable
  geometry : ∃ g, e.first? "geometry" = some g ∧
    ∀ shape, g.children.head? = some shape → shape.name ∈ geometryTypes

/-- A link, whose visuals have distinct names, and whose collisions have. -/
structure Link.WellFormed (e : Element) : Prop where
  named : e.HasName
  posed : e.PoseReadable
  visuals : ∀ s ∈ e.named Kind.visual.tag, Shape.WellFormed s
  collisions : ∀ s ∈ e.named Kind.collision.tag, Shape.WellFormed s
  visualNames : (e.namesOf .visual).Nodup
  collisionNames : (e.namesOf .collision).Nodup

/-- The length of a vector is not zero. It is the root of the sum of the squares as floating-point
numbers give it, so a vector of very small components, such as `1e-170 0 0`, has none. -/
def HasLength (x y z : Float) : Prop := (Float.sqrt (x * x + y * y + z * z) == 0) = false

/-- A joint of a known type with two ends. If its axis says a direction, that has a length. -/
structure Joint.WellFormed (e : Element) : Prop where
  named : e.HasName
  posed : e.PoseReadable
  type : e.word "type" ∈ jointTypes
  parent : e.word "parent" ≠ ""
  child : e.word "child" ≠ ""
  axis : ∀ axis, e.first? "axis" = some axis → ∀ text, axis.fieldText? "xyz" = some text →
    ∃ x y z, ListsNumbers text [x, y, z] ∧ HasLength x.toFloat y.toFloat z.toFloat

structure ExplicitFrame.WellFormed (e : Element) : Prop where
  named : e.HasName
  posed : e.PoseReadable

/-- A joint that fits into a model: it moves a link of the model, against another or against the
world. -/
structure Joint.FitsInto (model e : Element) : Prop where
  child : e.word "child" ∈ model.namesOf .link
  parent : e.word "parent" = worldFrame ∨ e.word "parent" ∈ model.namesOf .link
  differ : e.word "parent" ≠ e.word "child"

def Model.memberKinds : List Kind := [.link, .joint, .frame, .model]

/-- What is asked of a model besides what is asked of the models inside it. -/
structure Model.Proper (options : Options) (e : Element) : Prop where
  named : e.HasName
  posed : e.PoseReadable
  static : ∀ text, e.fieldText? "static" = some text → IsFlag text
  inhabited : e.named Kind.link.tag ≠ [] ∨ e.named Kind.model.tag ≠ []
  links : ∀ l ∈ e.named Kind.link.tag, Link.WellFormed l
  joints : ∀ j ∈ e.named Kind.joint.tag, Joint.WellFormed j ∧ Joint.FitsInto e j
  frames : ∀ f ∈ e.named Kind.frame.tag, ExplicitFrame.WellFormed f
  scope : FormsScope (e.declarations options memberKinds)

/-- A model, down to the models inside it. -/
inductive Model.WellFormed (options : Options) : Element → Prop
  | intro {e : Element} (proper : Model.Proper options e)
      (models : ∀ m ∈ e.named Kind.model.tag, Model.WellFormed options m) :
      Model.WellFormed options e

lemma Model.WellFormed.proper {options : Options} {e : Element} (h : Model.WellFormed options e) :
    Model.Proper options e := by
  cases h
  assumption

def World.memberKinds : List Kind := [.model, .frame]

structure World.WellFormed (options : Options) (e : Element) : Prop where
  named : e.HasName
  gravity : e.TripleReadable "gravity"
  models : ∀ m ∈ e.named Kind.model.tag, Model.WellFormed options m
  frames : ∀ f ∈ e.named Kind.frame.tag, ExplicitFrame.WellFormed f
  scope : FormsScope (e.declarations options memberKinds)

/-- A document: it is of a supported version, and holds at most one world or model. -/
structure Document.WellFormed (options : Options) (e : Element) : Prop where
  tagged : e.name = tag
  version : e.word "version" ∈ supportedVersions
  single : (e.children.filter isTopLevel).length ≤ 1
  world : ∀ w ∈ e.named Kind.world.tag, World.WellFormed options w
  model : ∀ m ∈ e.named Kind.model.tag, Model.WellFormed options m

end SceneFrames
