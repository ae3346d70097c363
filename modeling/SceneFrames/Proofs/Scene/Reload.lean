import SceneFrames.Proofs.Scene.Load
import SceneFrames.Scene.Entity

/-!
Loading into an entity that something has been loaded into before.

What is noted is the same as if nothing had been loaded before, and so is most of the entity.
What the element leaves open stays as the earlier loads have left it: the pose if none with a
text is given, the base without a pose element, gravity that is not given or not readable, the
axis without an axis element, the geometry unless it begins with a known shape. An element that
leaves nothing open makes the same of every entity, however many loads that has been through.
-/

namespace SceneFrames

open Journaled

namespace Element

/-- The element gives the field a value of the kind. -/
def gives (e : Element) (k : FieldKind) (key : String) : Bool :=
  match e.read? k key with
  | some (.ok _) => true
  | _ => false

lemma get_of_gives {e : Element} {k : FieldKind} {key : String} (h : e.gives k key = true)
    (default other : k.Value) : e.get k key default = e.get k key other := by
  unfold gives at h
  unfold get getWith
  split at h
  · rename_i v hv
    rw [hv]
  · simp at h

lemma value_get_of_not_gives {e : Element} {k : FieldKind} {key : String}
    (h : e.gives k key = false) (default : k.Value) :
    (e.get k key default).value.1 = default := by
  unfold gives at h
  unfold get getWith
  rcases hv : e.read? k key with _ | _ | v
  · rfl
  · rfl
  · simp [hv] at h

end Element

/-- The new placement, with what the element leaves open as it was in the old one. -/
def Placement.retained (e : Element) (old new : Placement) : Placement :=
  { new with
    pose := if e.givesPose then new.pose else old.pose
    base := if e.hasElement "pose" then new.base else old.base
    scope? := old.scope? }

lemma Placement.loaded_eq_retained (options : Options) (e : Element) (old : Placement) :
    old.loaded options e = old.retained e (Placement.loaded options e {}) := by
  unfold loaded retained Element.poseOver Element.baseOver Element.hasElement
  cases e.givesPose <;> cases e.first? "pose" <;> rfl

/-! ### Kind by kind

`retained` is the new entity, with what the element leaves open as it was in the old one. -/

section Kinds

variable {options : Options} {e : Element}

def Shape.retained (e : Element) (old new : Shape) : Shape where
  placement := old.placement.retained e new.placement
  geometry := if (Shape.known? e).isSome then new.geometry else old.geometry

lemma Shape.load_eq_retained {k : Kind} (h : e.name = k.tag) (old : Shape) :
    load k options old e = old.retained e <$> load k options {} e := by
  rw [load_eq h, load_eq h, Placement.loaded_eq_retained]
  apply Journaled.ext <;> cases hk : known? e <;> simp [retained, hk]

def Link.retained (e : Element) (old new : Link) : Link :=
  { new with placement := old.placement.retained e new.placement }

lemma Link.load_eq_retained (h : e.name = Kind.link.tag) (old : Link) :
    load options old e = old.retained e <$> load options {} e := by
  rw [load_eq h, load_eq h, Placement.loaded_eq_retained]
  apply Journaled.ext <;> simp [retained]

def Joint.retained (e : Element) (old new : Joint) : Joint :=
  { new with
    placement := old.placement.retained e new.placement
    axis? := if e.hasElement "axis" then new.axis? else old.axis? }

lemma Joint.load_eq_retained (h : e.name = Kind.joint.tag) (old : Joint) :
    load options old e = old.retained e <$> load options {} e := by
  rw [load_eq h, load_eq h, Placement.loaded_eq_retained]
  apply Journaled.ext <;>
    cases ha : e.first? "axis" <;> simp [retained, axisOver, Element.hasElement, ha]

def ExplicitFrame.retained (e : Element) (old new : ExplicitFrame) : ExplicitFrame :=
  { new with placement := old.placement.retained e new.placement }

lemma ExplicitFrame.load_eq_retained (h : e.name = Kind.frame.tag) (old : ExplicitFrame) :
    load options old e = old.retained e <$> load options {} e := by
  rw [load_eq h, load_eq h, Placement.loaded_eq_retained]
  apply Journaled.ext <;> simp [retained]

def Model.retained (e : Element) (old new : Model) : Model :=
  { new with placement := old.placement.retained e new.placement }

lemma Model.load_eq_retained (h : e.name = Kind.model.tag) (old : Model) :
    load options old e = old.retained e <$> load options {} e := by
  rw [load_eq_map h]
  apply Journaled.ext
  · simp [retained, placement_load options _ h,
      Placement.loaded_eq_retained options e old.placement]
  · simp
  · simp

/-- The new world, with what the element leaves open as it was in the old one. A world has no
pose of its own. -/
def World.retained (e : Element) (old new : World) : World :=
  { new with
    placement := { old.placement with name := new.placement.name, line := new.placement.line }
    gravity := if e.gives .vector "gravity" then new.gravity else old.gravity }

lemma World.load_eq_retained (h : e.name = Kind.world.tag) (old : World) :
    load options old e = old.retained e <$> load options {} e := by
  rw [load_eq_map h]
  apply Journaled.ext
  · cases hg : e.gives .vector "gravity" with
    | false => simp [retained, value_load h, hg, Element.value_get_of_not_gives hg]
    | true =>
      simp [retained, value_load h, hg, Element.get_of_gives hg old.gravity ({} : World).gravity]
  · simp
  · simp

/-! ### Elements that leave nothing open -/

/-- The element leaves nothing of an entity of the kind open. -/
def Element.decides (e : Element) : Kind → Bool
  | .world => e.gives .vector "gravity"
  | .joint => e.givesPose && e.hasElement "axis"
  | .visual | .collision => e.givesPose && (Shape.known? e).isSome
  | .model | .link | .frame => e.givesPose

lemma Placement.retained_eq {old new : Placement} (h : e.givesPose = true)
    (hscope : old.scope? = new.scope?) : old.retained e new = new := by
  have hpose : e.hasElement "pose" = true := by
    unfold Element.givesPose at h
    unfold Element.hasElement
    cases hp : e.first? "pose" <;> simp_all
  simp [retained, h, hpose, hscope]

lemma Shape.retained_eq {old new : Shape}
    (h : (e.givesPose && (known? e).isSome) = true)
    (hscope : old.placement.scope? = new.placement.scope?) : old.retained e new = new := by
  rw [Bool.and_eq_true] at h
  simp [retained, Placement.retained_eq h.1 hscope, h.2]

lemma Link.retained_eq {old new : Link} (h : e.givesPose = true)
    (hscope : old.placement.scope? = new.placement.scope?) : old.retained e new = new := by
  simp [retained, Placement.retained_eq h hscope]

lemma Joint.retained_eq {old new : Joint} (h : (e.givesPose && e.hasElement "axis") = true)
    (hscope : old.placement.scope? = new.placement.scope?) : old.retained e new = new := by
  rw [Bool.and_eq_true] at h
  simp [retained, Placement.retained_eq h.1 hscope, h.2]

lemma ExplicitFrame.retained_eq {old new : ExplicitFrame} (h : e.givesPose = true)
    (hscope : old.placement.scope? = new.placement.scope?) : old.retained e new = new := by
  simp [retained, Placement.retained_eq h hscope]

lemma Model.retained_eq {old new : Model} (h : e.givesPose = true)
    (hscope : old.placement.scope? = new.placement.scope?) : old.retained e new = new := by
  rw [retained, Placement.retained_eq h hscope]
  cases new
  rfl

lemma World.retained_eq {old new : World} (h : e.gives .vector "gravity" = true)
    (hpose : old.placement.pose = new.placement.pose)
    (hbase : old.placement.base = new.placement.base)
    (hscope : old.placement.scope? = new.placement.scope?) : old.retained e new = new := by
  simp [retained, h, hpose, hbase, hscope]

end Kinds

/-! ### All kinds -/

namespace Entity

variable {options : Options} {e : Element} {k : Kind}

/-- The new entity, with what the element leaves open as it was in the old one of its kind. -/
def retained (e : Element) : Entity → Entity → Entity
  | world old, world new => world (old.retained e new)
  | model old, model new => model (old.retained e new)
  | link old, link new => link (old.retained e new)
  | joint old, joint new => joint (old.retained e new)
  | frame old, frame new => frame (old.retained e new)
  | visual old, visual new => visual (old.retained e new)
  | collision old, collision new => collision (old.retained e new)
  | _, new => new

/-- A load notes what it would note of a new entity, and makes the same of the entity but for
what the element leaves open. -/
lemma load_eq_retained (options : Options) (old : Entity) (h : e.name = old.kind.tag) :
    old.load options e = old.retained e <$> (fresh old.kind).load options e := by
  cases old with
  | world old =>
    rw [load, World.load_eq_retained h]
    apply Journaled.ext <;> simp [load, fresh, kind, retained]
  | model old =>
    rw [load, Model.load_eq_retained h]
    apply Journaled.ext <;> simp [load, fresh, kind, retained]
  | link old =>
    rw [load, Link.load_eq_retained h]
    apply Journaled.ext <;> simp [load, fresh, kind, retained]
  | joint old =>
    rw [load, Joint.load_eq_retained h]
    apply Journaled.ext <;> simp [load, fresh, kind, retained]
  | frame old =>
    rw [load, ExplicitFrame.load_eq_retained h]
    apply Journaled.ext <;> simp [load, fresh, kind, retained]
  | visual old =>
    rw [load, Shape.load_eq_retained (k := .visual) h]
    apply Journaled.ext <;> simp [load, fresh, kind, retained]
  | collision old =>
    rw [load, Shape.load_eq_retained (k := .collision) h]
    apply Journaled.ext <;> simp [load, fresh, kind, retained]

/-- A load leaves an entity alone whose kind is not that of the element. -/
lemma value_load_of_other (x : Entity) (h : e.name ≠ x.kind.tag) :
    (x.load options e).value = x := by
  cases x with
  | world w => exact congrArg (fun y => world y.value) (loadAs_of_other h)
  | model m => exact congrArg (fun y => model y.value) (loadAs_of_other h)
  | link l => exact congrArg (fun y => link y.value) (loadAs_of_other h)
  | joint j => exact congrArg (fun y => joint y.value) (loadAs_of_other h)
  | frame f => exact congrArg (fun y => frame y.value) (loadAs_of_other h)
  | visual s => exact congrArg (fun y => visual y.value) (loadAs_of_other (k := .visual) h)
  | collision s =>
    exact congrArg (fun y => collision y.value) (loadAs_of_other (k := .collision) h)

/-- An entity that has been through loads, each with its options. -/
def after (x : Entity) (history : List (Options × Element)) : Entity :=
  history.foldl (fun x o => (x.load o.1 o.2).value) x

/-- What no load changes: a member of no scope stays that, and a world keeps its place. -/
structure Unplaced (k : Kind) (x : Entity) : Prop where
  kind : x.kind = k
  scope : x.placement.scope? = none
  world : k = .world → x.placement.pose = Pose.identity ∧ x.placement.base = rootFrame

lemma unplaced_fresh (k : Kind) : Unplaced k (fresh k) := by
  cases k <;> exact ⟨rfl, rfl, by simp [fresh, placement]⟩

lemma Unplaced.load {x : Entity} (hx : Unplaced k x) (options : Options) (e : Element) :
    Unplaced k (x.load options e).value := by
  by_cases h : e.name = x.kind.tag
  · rw [load_eq_retained options x h, value_map]
    obtain ⟨rfl, hscope, hworld⟩ := hx
    cases x with
    | world w => exact ⟨rfl, hscope, hworld⟩
    | model m => exact ⟨rfl, hscope, by simp [Entity.kind]⟩
    | link l => exact ⟨rfl, hscope, by simp [Entity.kind]⟩
    | joint j => exact ⟨rfl, hscope, by simp [Entity.kind]⟩
    | frame f => exact ⟨rfl, hscope, by simp [Entity.kind]⟩
    | visual s => exact ⟨rfl, hscope, by simp [Entity.kind]⟩
    | collision s => exact ⟨rfl, hscope, by simp [Entity.kind]⟩
  · rwa [value_load_of_other x h]

lemma Unplaced.after {x : Entity} (hx : Unplaced k x) (history : List (Options × Element)) :
    Unplaced k (x.after history) := by
  induction history generalizing x with
  | nil => exact hx
  | cons o history ih => exact ih (hx.load o.1 o.2)

/-- An element that leaves nothing open makes the same of all entities of its kind. -/
lemma load_eq_fresh {x : Entity} (hx : Unplaced k x) (htag : e.name = k.tag)
    (h : e.decides k = true) : x.load options e = (fresh k).load options e := by
  have hnew := (unplaced_fresh k).load options e
  obtain ⟨rfl, hscope, hworld⟩ := hx
  rw [load_eq_retained options x htag]
  refine Journaled.ext ?_ (by simp) (by simp)
  rw [value_map]
  cases x with
  | world w =>
    obtain ⟨hpose, hbase⟩ := hworld rfl
    obtain ⟨hpose', hbase'⟩ := hnew.world rfl
    exact congrArg world (World.retained_eq h (hpose.trans hpose'.symm) (hbase.trans hbase'.symm)
      (hscope.trans hnew.scope.symm))
  | model m => exact congrArg model (Model.retained_eq h (hscope.trans hnew.scope.symm))
  | link l => exact congrArg link (Link.retained_eq h (hscope.trans hnew.scope.symm))
  | joint j => exact congrArg joint (Joint.retained_eq h (hscope.trans hnew.scope.symm))
  | frame f => exact congrArg frame (ExplicitFrame.retained_eq h (hscope.trans hnew.scope.symm))
  | visual s => exact congrArg visual (Shape.retained_eq h (hscope.trans hnew.scope.symm))
  | collision s => exact congrArg collision (Shape.retained_eq h (hscope.trans hnew.scope.symm))

/-- **Reloading.** Whatever has been loaded into an entity before, a load of an element of its
kind notes what it notes of a new entity, and makes the same of it but for what the element
leaves open. If that is nothing, no earlier load shows. -/
theorem load_after (k : Kind) (history : List (Options × Element)) (options : Options)
    (e : Element) (h : e.name = k.tag) :
    let x := (fresh k).after history
    x.load options e = x.retained e <$> (fresh k).load options e ∧
      (e.decides k = true → x.load options e = (fresh k).load options e) := by
  have hx : Unplaced k ((fresh k).after history) := (unplaced_fresh k).after history
  refine ⟨?_, load_eq_fresh hx h⟩
  have hload := load_eq_retained options ((fresh k).after history) (hx.kind ▸ h)
  rwa [hx.kind] at hload

/-- A link, and what its pose is relative to. -/
def placedLink : Element :=
  { name := "link"
    attributes := [("name", "a")]
    children := [{ name := "pose", attributes := [("relative_to", "b")] }] }

/-- A link with a pose. -/
def posedLink : Element :=
  { name := "link"
    attributes := [("name", "a")]
    children := [{ name := "pose", value := "1 2 3 0 0 0" }] }

/-- A link of which nothing is said but its name. -/
def bareLink : Element := { name := "link", attributes := [("name", "a")] }

theorem load_after_posed : posedLink.name = Kind.link.tag ∧ posedLink.decides .link = true ∧
    ((fresh .link).after [({}, placedLink)]).load {} posedLink =
      (fresh .link).load {} posedLink := by
  refine ⟨by decide, by decide, ?_⟩
  exact (load_after .link [({}, placedLink)] {} posedLink (by decide)).2 (by decide)

/-- Where the element leaves something open, earlier loads show: a base stays. -/
theorem base_outlives_load : ¬ ∀ (k : Kind) (history : List (Options × Element))
    (options : Options) (e : Element), e.name = k.tag →
      ((fresh k).after history).load options e = (fresh k).load options e := by
  intro h
  have hbase := congrArg (·.value.placement.base)
    (h .link [({}, placedLink)] {} bareLink (by decide))
  revert hbase
  decide

end Entity

end SceneFrames
