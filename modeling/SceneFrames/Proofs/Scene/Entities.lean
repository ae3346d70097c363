import SceneFrames.Proofs.Scene.Members
import SceneFrames.Scene.Entity

/-!
Entities that are loaded afresh.

What links, models and worlds make of their children is said here of all of them alike. The
members of a kind are loaded from the first uses of names among the children of that kind, and are
attached to the graph of the scope if the entity is one; and that graph is built from the frames
of the children.
-/

namespace SceneFrames

variable {options : Options} {e c : Element} {o k : Kind}

namespace Kind

/-- The kinds of members that an entity of a kind has. -/
def memberKinds : Kind → List Kind
  | world => World.memberKinds
  | model => Model.memberKinds
  | link => [visual, collision]
  | _ => []

lemma ne_world_of_mem_memberKinds (h : k ∈ o.memberKinds) : k ≠ world := by
  rintro rfl
  cases o <;> revert h <;> decide

/-- The entities of the kind are scopes. -/
def isScope (k : Kind) : Bool := k = world || k = model

end Kind

open Element (name_of_mem_named)

namespace Entity

/-- The entity that is loaded from an element. -/
def loaded (options : Options) (k : Kind) (e : Element) : Entity :=
  ((fresh k).load options e).value

/-- The entity with another placement. -/
def withPlacement (p : Placement) : Entity → Entity
  | world w => world { w with placement := p }
  | model m => model { m with placement := p }
  | link l => link { l with placement := p }
  | joint j => joint { j with placement := p }
  | frame f => frame { f with placement := p }
  | visual s => visual { s with placement := p }
  | collision s => collision { s with placement := p }

/-- The entity as a member of a scope, or of none. -/
def inScope (x : Entity) (g? : Option SceneGraph) : Entity :=
  x.withPlacement { x.placement with scope? := g? }

@[simp] lemma kind_inScope (x : Entity) (g? : Option SceneGraph) :
    (x.inScope g?).kind = x.kind := by
  cases x <;> rfl

@[simp] lemma placement_inScope (x : Entity) (g? : Option SceneGraph) :
    (x.inScope g?).placement = { x.placement with scope? := g? } := by
  cases x <;> rfl

@[simp] lemma name_inScope (x : Entity) (g? : Option SceneGraph) :
    (x.inScope g?).name = x.name := by
  cases x <;> rfl

@[simp] lemma graph?_inScope (x : Entity) (g? : Option SceneGraph) :
    (x.inScope g?).graph? = x.graph? := by
  cases x <;> rfl

@[simp] lemma members?_inScope (x : Entity) (g? : Option SceneGraph) (k : Kind) :
    (x.inScope g?).members? k = x.members? k := by
  cases x <;> cases k <;> rfl

@[simp] lemma kind_loaded (options : Options) (k : Kind) (e : Element) :
    (loaded options k e).kind = k := by
  cases k <;> rfl

/-- Entities but for worlds are placed as their elements say. -/
lemma placement_loaded (options : Options) (h : e.name = k.tag) (hk : k ≠ .world) :
    (loaded options k e).placement = Placement.loaded options e {} := by
  cases k with
  | world => exact absurd rfl hk
  | model => exact Model.placement_load options {} h
  | link => exact Link.placement_load options {} h
  | joint => exact Joint.placement_load options {} h
  | frame => exact ExplicitFrame.placement_load options {} h
  | visual => exact Shape.placement_load (k := .visual) options {} h
  | collision => exact Shape.placement_load (k := .collision) options {} h

lemma name_loaded (options : Options) (h : e.name = k.tag) :
    (loaded options k e).name = e.word "name" := by
  by_cases hk : k = .world
  · subst hk
    have hworld : (World.load options {} e).value = _ := World.value_load h
    exact congrArg (·.placement.name) hworld
  · rw [name, placement_loaded options h hk]
    rfl

/-- **The graph of a scope** is built from the frames of the children. -/
theorem graph?_loaded (options : Options) (h : e.name = o.tag) (ho : o.isScope = true) :
    (loaded options o e).graph? =
      some (FrameGraph.build (e.scopeRecords options o.memberKinds) (e.word "name")) := by
  cases o with
  | world =>
    rw [Kind.memberKinds, ← World.graphOf_eq]
    have hworld : (World.load options {} e).value = _ := World.value_load h
    exact congrArg (·.graph?) hworld
  | model =>
    rw [Kind.memberKinds, ← Model.graph_eq]
    have hmodel : (Model.load options {} e).value = _ := Model.value_load h
    exact congrArg (·.graph?) hmodel
  | _ => simp [Kind.isScope] at ho

/-- An entity that is loaded is a member of no scope yet. -/
lemma inScope_loaded_none (options : Options) (h : e.name = k.tag) :
    (loaded options k e).inScope none = loaded options k e := by
  have hscope : (loaded options k e).placement.scope? = none := by
    by_cases hk : k = .world
    · subst hk
      have hworld : (World.load options {} e).value = _ := World.value_load h
      exact congrArg (·.placement.scope?) hworld
    · rw [placement_loaded options h hk]
      rfl
  generalize loaded options k e = x at hscope
  unfold inScope
  rw [← hscope]
  cases x with
  | model m => cases m; rfl
  | _ => rfl

/-- Siblings that are kept, each as a member of a scope. -/
lemma members_of_gather {α : Type} {place : α → Placement} {load : Element → α}
    {g? : Option SceneGraph} {entity : α → Entity}
    (hplace : ∀ c ∈ e.named k.tag, place (load c) = Placement.loaded options c {})
    (hentity : ∀ c ∈ e.named k.tag, entity (load c) = (loaded options k c).inScope g?) :
    (Siblings.gather place ((e.named k.tag).map load)).kept.map entity =
      (firstUses (·.word "name") (e.named k.tag)).map fun c => (loaded options k c).inScope g? := by
  have hname : ∀ c ∈ e.named k.tag, (place (load c)).name = c.word "name" := fun c hc => by
    rw [hplace c hc]
    rfl
  rw [gather_map hname, List.map_map]
  exact List.map_congr_left fun c hc => hentity c (mem_of_mem_firstUses hc)

lemma members?_loaded_world (options : Options) (h : e.name = Kind.world.tag)
    (hk : k ∈ World.memberKinds) : (loaded options .world e).members? k =
      some ((firstUses (·.word "name") (e.named k.tag)).map fun c =>
        (loaded options k c).inScope (loaded options .world e).graph?) := by
  have hworld : (World.load options {} e).value = _ := World.value_load h
  have hx : loaded options .world e = _ := congrArg world hworld
  rw [hx]
  simp only [World.memberKinds, List.mem_cons, List.not_mem_nil, or_false] at hk
  rcases hk with rfl | rfl
  · exact congrArg some ((List.map_map ..).trans (members_of_gather (fun c hc =>
      Model.placement_load options {} (name_of_mem_named hc)) fun _ _ => rfl))
  · exact congrArg some ((List.map_map ..).trans (members_of_gather (fun c hc =>
      ExplicitFrame.placement_load options {} (name_of_mem_named hc)) fun _ _ => rfl))

lemma members?_loaded_model (options : Options) (h : e.name = Kind.model.tag)
    (hk : k ∈ Model.memberKinds) : (loaded options .model e).members? k =
      some ((firstUses (·.word "name") (e.named k.tag)).map fun c =>
        (loaded options k c).inScope (loaded options .model e).graph?) := by
  have hmodel : (Model.load options {} e).value = _ := Model.value_load h
  have hx : loaded options .model e = _ := congrArg model hmodel
  rw [hx]
  simp only [Model.memberKinds, List.mem_cons, List.not_mem_nil, or_false] at hk
  rcases hk with rfl | rfl | rfl | rfl
  · exact congrArg some ((List.map_map ..).trans (members_of_gather (fun c hc =>
      Link.placement_load options {} (name_of_mem_named hc)) fun _ _ => rfl))
  · exact congrArg some ((List.map_map ..).trans (members_of_gather (fun c hc =>
      Joint.placement_load options {} (name_of_mem_named hc)) fun _ _ => rfl))
  · exact congrArg some ((List.map_map ..).trans (members_of_gather (fun c hc =>
      ExplicitFrame.placement_load options {} (name_of_mem_named hc)) fun _ _ => rfl))
  · exact congrArg some ((List.map_map ..).trans (members_of_gather (fun c hc =>
      Model.placement_load options {} (name_of_mem_named hc)) fun _ _ => rfl))

/-- The shapes of a link are members of no scope. -/
lemma shapes_loaded (options : Options) (k : Kind) (e : Element) (name : String)
    {shape : Shape → Entity}
    (hshape : ∀ c, shape (Shape.load k options {} c).value = loaded options k c) :
    (Link.loadShapes k options name e).value.map shape =
      (firstUses (·.word "name") (e.named k.tag)).map fun c =>
        (loaded options k c).inScope none := by
  rw [Link.value_loadShapes]
  refine members_of_gather
    (fun c hc => Shape.placement_load options {} (name_of_mem_named hc)) fun c hc => ?_
  rw [hshape, inScope_loaded_none options (name_of_mem_named hc)]

lemma members?_loaded_link (options : Options) (h : e.name = Kind.link.tag)
    (hk : k ∈ Kind.link.memberKinds) : (loaded options .link e).members? k =
      some ((firstUses (·.word "name") (e.named k.tag)).map fun c =>
        (loaded options k c).inScope (loaded options .link e).graph?) := by
  have hx : loaded options .link e = link ⟨Placement.loaded options e {},
      (Link.loadShapes .visual options (e.word "name") e).value,
      (Link.loadShapes .collision options (e.word "name") e).value⟩ := by
    simp [loaded, load, fresh, Link.load_eq h]
  rw [hx]
  simp only [Kind.memberKinds, List.mem_cons, List.not_mem_nil, or_false] at hk
  rcases hk with rfl | rfl
  · exact congrArg some (shapes_loaded options .visual e (e.word "name") fun _ => rfl)
  · exact congrArg some (shapes_loaded options .collision e (e.word "name") fun _ => rfl)

/-- **The members of a kind** are loaded from the first uses of names among the children of the
kind, and are attached to the graph. -/
theorem members?_loaded (options : Options) (h : e.name = o.tag) (hk : k ∈ o.memberKinds) :
    (loaded options o e).members? k =
      some ((firstUses (·.word "name") (e.named k.tag)).map fun c =>
        (loaded options k c).inScope (loaded options o e).graph?) := by
  cases o with
  | world => exact members?_loaded_world options h hk
  | model => exact members?_loaded_model options h hk
  | link => exact members?_loaded_link options h hk
  | _ => simp [Kind.memberKinds] at hk

/-- The members of a kind have the names that are used first. -/
lemma names_of_members {ys : List Entity} (h : e.name = o.tag) (hk : k ∈ o.memberKinds)
    (hys : (loaded options o e).members? k = some ys) :
    ys.map (·.name) = (firstUses (·.word "name") (e.named k.tag)).map (·.word "name") := by
  rw [members?_loaded options h hk] at hys
  rw [← Option.some.inj hys, List.map_map]
  refine List.map_congr_left fun c hc => ?_
  exact (name_inScope ..).trans (name_loaded options (name_of_mem_named (mem_of_mem_firstUses hc)))

/-! ### Answers -/

/-- What is asked of a scope is answered by its graph. -/
lemma framePose?_of_graph? {x : Entity} {g : SceneGraph} (hg : x.graph? = some g)
    (name relativeTo : String) : x.framePose? name relativeTo = some (g.pose name relativeTo) := by
  cases x with
  | world w =>
    have hw : w.graph? = some g := hg
    simp [framePose?, World.framePose, hw]
  | model m =>
    have hm : m.graph? = some g := hg
    simp [framePose?, Model.framePose, hm]
  | _ => simp [graph?] at hg

/-- The pose in a frame of the scope is a matter of the placement. -/
@[simp] lemma pose_some (x : Entity) (r : String) :
    x.pose (some r) = x.placement.poseIn x.kind r := by
  cases x <;> rfl

/-- What the members of a kind answer is a matter of what the first uses of names declare, and of
the graph. -/
lemma answers_of_members {ys : List Entity} (h : e.name = o.tag) (hk : k ∈ o.memberKinds)
    (hys : (loaded options o e).members? k = some ys) (r : String) :
    (ys.map fun y => (y.name, y.pose (some r))) =
      (firstUses (·.name) (e.placements options k)).map fun p =>
        (p.name, { p with scope? := (loaded options o e).graph? }.poseIn k r) := by
  rw [members?_loaded options h hk] at hys
  rw [← Option.some.inj hys, Element.placements, firstUses_map, List.map_map, List.map_map]
  refine List.map_congr_left fun c hc => ?_
  have hplace := placement_loaded options (name_of_mem_named (mem_of_mem_firstUses hc))
    (Kind.ne_world_of_mem_memberKinds hk)
  simp [name, hplace]

end Entity

end SceneFrames
