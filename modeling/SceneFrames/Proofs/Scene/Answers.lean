import SceneFrames.Proofs.Frame.Relative
import SceneFrames.Proofs.Scene.Entities
import SceneFrames.Proofs.Scene.History

/-!
Who answers for the pose of a member.

At whatever depth a scope is found in a document, its graph is built from what its own children
declare, and its members are attached to that graph and to no other. So the graph of the scope
alone decides what a member answers: that it has no name, that the scope has problems, that there
is no such frame, or else its own declared pose seen from the frame. What is wrong in any other
scope does not show.
-/

namespace SceneFrames

open Relation
open Element (name_of_mem_named)

variable {options : Options} {e top c : Element} {o k : Kind} {x y : Entity} {ys : List Entity}

namespace Entity

/-- The root of a scope, or the name of one of its members. -/
def HasFrame (x : Entity) (name : String) : Prop :=
  name = "" ∨ ∃ k ys, x.members? k = some ys ∧ ∃ y ∈ ys, y.name = name

@[simp] lemma hasFrame_inScope (x : Entity) (g? : Option SceneGraph) (name : String) :
    (x.inScope g?).HasFrame name ↔ x.HasFrame name := by
  simp only [HasFrame, members?_inScope]

lemma mem_memberKinds_of_members? (h : x.members? k = some ys) : k ∈ x.kind.memberKinds := by
  cases x <;> cases k <;>
    simp [members?, kind, Kind.memberKinds, World.memberKinds, Model.memberKinds] at h ⊢

/-- The frames of a scope are those that its children declare. -/
lemma hasFrame_iff (options : Options) (h : e.name = o.tag) {name : String} :
    (loaded options o e).HasFrame name ↔
      IsDeclared (e.scopeRecords options o.memberKinds) name := by
  have hdeclared : (∃ r ∈ e.scopeRecords options o.memberKinds, r.name = name) ↔
      ∃ k ∈ o.memberKinds, name ∈ e.namesOf k := by
    rw [← List.mem_map, (e.map_name_scopeRecords options o.memberKinds).mem_iff,
      Element.childNames, List.mem_flatMap]
  rw [HasFrame, IsDeclared, hdeclared]
  refine or_congr_right ?_
  have hname {k : Kind} {ys : List Entity} (hk : k ∈ o.memberKinds)
      (hys : (loaded options o e).members? k = some ys) :
      (∃ y ∈ ys, y.name = name) ↔ name ∈ e.namesOf k := by
    rw [← List.mem_map, names_of_members h hk hys, mem_map_firstUses, Element.namesOf]
  constructor
  · rintro ⟨k, ys, hys, hy⟩
    have hk := mem_memberKinds_of_members? hys
    rw [kind_loaded] at hk
    exact ⟨k, hk, (hname hk hys).mp hy⟩
  · rintro ⟨k, hk, hn⟩
    have hys := members?_loaded options h hk
    exact ⟨k, _, hys, (hname hk hys).mpr hn⟩

/-- A member of a scope answers by the graph of the scope, unless it has no name. -/
lemma pose_of_inScope {g : SceneGraph} (hg : x.placement.scope? = some g) (r : String) :
    x.pose (some r) =
      if x.name = "" then .error (.nameless x.kind.tag g.scope) else g.pose x.name r := by
  rw [pose_some, Placement.poseIn, hg]
  rfl

section Scope

variable (options : Options) (hk : k ∈ o.memberKinds)
  (hc : c ∈ firstUses (·.word "name") (e.named k.tag))

include hk hc

/-- The frame of a child that is kept is among those that the scope gets. -/
lemma frameOf_mem_scopeRecords :
    Element.frameOf options (k, c) ∈ e.scopeRecords options o.memberKinds := by
  refine List.mem_map_of_mem (List.mem_append_left _ ?_)
  exact List.mem_flatMap.mpr ⟨k, hk, List.mem_map_of_mem hc⟩

/-- A kept child with a name is asked for its pose in a frame. In a scope without problems that
has no such frame, the answer says so; in one that has, the answer is the declared pose of the
child over the root pose of the declared base, as seen from the frame. -/
lemma pose_of_kept (h : e.name = o.tag) (hn : c.word "name" ≠ "") {g : SceneGraph}
    (hg : g = FrameGraph.build (e.scopeRecords options o.memberKinds) (e.word "name"))
    (hproblems : g.problems = []) (r : String) :
    (¬ (loaded options o e).HasFrame r →
      g.pose (c.word "name") r = .error (.unknownFrame g.scope r)) ∧
    ((loaded options o e).HasFrame r → ∃ b q,
      g.rootPose (Placement.loaded options c {}).base = .ok b ∧ g.rootPose r = .ok q ∧
      g.pose (c.word "name") r = .ok (RigidMotion.compose (RigidMotion.inverse q)
        (RigidMotion.compose b (Placement.loaded options c {}).pose))) := by
  have hmem := frameOf_mem_scopeRecords options hk hc
  have hvalid : g.valid = true := List.isEmpty_iff.mpr hproblems
  subst hg
  rw [hasFrame_iff options h]
  refine ⟨fun hr => ?_, fun hr => ?_⟩
  · exact FrameGraph.pose_of_undeclared hvalid (Or.inr ⟨_, hmem, rfl⟩) hr
  · exact FrameGraph.pose_of_mem hvalid hmem hn hr

end Scope

end Entity

/-! ### What a document holds -/

namespace Document

/-- What a document holds at any depth: its worlds and models, and the members of what it
holds. -/
inductive Holds (d : Document) : Entity → Prop
  | world {w : World} (h : w ∈ d.worlds) : Holds d (.world w)
  | model {m : Model} (h : m ∈ d.models) : Holds d (.model m)
  | member {x y : Entity} {k : Kind} {ys : List Entity} (hx : Holds d x)
      (hys : x.members? k = some ys) (hy : y ∈ ys) : Holds d y

/-- The world or the model of a document is loaded from a child of the top element. -/
lemma source_of_topLevel (hx : x ∈ (loadTopLevel options top).value.1.map Entity.world ++
      (loadTopLevel options top).value.2.map Entity.model) :
    ∃ c ∈ top.children, c.name = x.kind.tag ∧ x = Entity.loaded options x.kind c := by
  unfold loadTopLevel at hx
  cases hfilter : top.children.filter isTopLevel with
  | nil => simp [hfilter] at hx
  | cons first surplus =>
    have hfirst := List.mem_filter.mp (hfilter ▸ List.mem_cons_self :
      first ∈ top.children.filter isTopLevel)
    by_cases hworld : first.name = Kind.world.tag
    · obtain rfl : x = .world (World.load options {} first).value := by
        simpa [hfilter, hworld] using hx
      exact ⟨first, hfirst.1, hworld, rfl⟩
    · obtain rfl : x = .model (Model.load options {} first).value := by
        simpa [hfilter, hworld] using hx
      have hmodel : first.name = Kind.model.tag := by
        simpa [isTopLevel, hworld] using hfirst.2
      exact ⟨first, hfirst.1, hmodel, rfl⟩

/-- The worlds and models of a new document once an element is loaded are those of the element,
if that is one for a document. -/
lemma contents_loadElement_new (options : Options) (top : Element) :
    ((new options).loadElement top).value.worlds =
        (if top.name = tag then (loadTopLevel options top).value.1 else []) ∧
      ((new options).loadElement top).value.models =
        if top.name = tag then (loadTopLevel options top).value.2 else [] := by
  by_cases h : top.name = tag <;> simp [loadElement, settle_eq, new, h]

/-- The members of what is loaded from an element are loaded from children of it, and are attached
to its graph. -/
lemma source_of_member {g? : Option SceneGraph} (h : e.name = x.kind.tag)
    (hx : x = (Entity.loaded options x.kind e).inScope g?) (hys : x.members? k = some ys)
    (hy : y ∈ ys) :
    k ∈ x.kind.memberKinds ∧ ∃ c ∈ firstUses (·.word "name") (e.named k.tag),
      y = (Entity.loaded options k c).inScope x.graph? := by
  have hk := Entity.mem_memberKinds_of_members? hys
  have hgraph : x.graph? = (Entity.loaded options x.kind e).graph? :=
    (congrArg Entity.graph? hx).trans (Entity.graph?_inScope ..)
  have hmembers : x.members? k = (Entity.loaded options x.kind e).members? k :=
    (congrArg (·.members? k) hx).trans (Entity.members?_inScope ..)
  rw [hmembers, Entity.members?_loaded options h hk] at hys
  rw [← Option.some.inj hys, List.mem_map] at hy
  obtain ⟨c, hc, rfl⟩ := hy
  exact ⟨hk, c, hc, by rw [hgraph]⟩

/-- Whatever a new document holds once an element is loaded, is loaded from an element inside
that. -/
lemma Holds.source (hx : ((new options).loadElement top).value.Holds x) :
    ∃ e g?, ReflTransGen (fun e c => c ∈ e.children) top e ∧ e.name = x.kind.tag ∧
      x = (Entity.loaded options x.kind e).inScope g? := by
  obtain ⟨hworlds, hmodels⟩ := contents_loadElement_new options top
  -- worlds and models come first: they are members of no scope
  have htop {x : Entity} (hx : x ∈ (loadTopLevel options top).value.1.map Entity.world ++
      (loadTopLevel options top).value.2.map Entity.model) :
      ∃ e g?, ReflTransGen (fun e c => c ∈ e.children) top e ∧ e.name = x.kind.tag ∧
        x = (Entity.loaded options x.kind e).inScope g? := by
    obtain ⟨c, hc, htag, hload⟩ := source_of_topLevel hx
    exact ⟨c, none, .single hc, htag, by rwa [Entity.inScope_loaded_none options htag]⟩
  induction hx with
  | @world w hw =>
    rw [hworlds] at hw
    split at hw
    · exact htop (by simp [hw])
    · simp at hw
  | @model m hm =>
    rw [hmodels] at hm
    split at hm
    · exact htop (by simp [hm])
    · simp at hm
  | @member x y k ys _ hys hy ih =>
    obtain ⟨e, g?, hpath, htag, hx⟩ := ih
    obtain ⟨-, c, hc, rfl⟩ := source_of_member htag hx hys hy
    have hchild := Element.mem_named.mp (mem_of_mem_firstUses hc)
    refine ⟨c, x.graph?, hpath.tail hchild.1, ?_, ?_⟩
    · rw [Entity.kind_inScope, Entity.kind_loaded, hchild.2]
    · rw [Entity.kind_inScope, Entity.kind_loaded]

/-- What a member of a scope answers is a matter of its kind, its name and the graph of the scope
that holds it. -/
lemma Holds.pose_of_member {g : SceneGraph} (hx : ((new options).loadElement top).value.Holds x)
    (hgraph : x.graph? = some g) (hys : x.members? k = some ys) (hy : y ∈ ys) (r : String) :
    y.pose (some r) =
      if y.name = "" then .error (.nameless k.tag g.scope) else g.pose y.name r := by
  obtain ⟨e, g?, -, htag, hsource⟩ := hx.source
  obtain ⟨-, c, -, rfl⟩ := source_of_member htag hsource hys hy
  rw [Entity.pose_of_inScope (g := g) (by rw [Entity.placement_inScope, hgraph])]
  rw [Entity.kind_inScope, Entity.kind_loaded]

/-- **Members answer by their own scope.** A scope that a document holds at any depth is loaded
from an element inside the top element, and its graph is built from what the children of that
element declare. A member without a name has no frame. Any other member fails with the problems
of the graph, if there are any, and else with a frame that the scope does not have; and else it
answers as the scope does, with its own declared pose over its own declared base. Nothing else in
a document makes a difference: where a scope of any document has the same graph, a member of the
kind and the name answers alike. -/
theorem members_answer_by_scope (options : Options) (top : Element) {x y : Entity} {k : Kind}
    {ys : List Entity} (hx : ((new options).loadElement top).value.Holds x)
    (hscope : x.kind.isScope = true) (hys : x.members? k = some ys) (hy : y ∈ ys) :
    ∃ e c g, ReflTransGen (fun e c => c ∈ e.children) top e ∧ e.name = x.kind.tag ∧
      c ∈ e.named k.tag ∧ y = (Entity.loaded options k c).inScope (some g) ∧
      x.graph? = some g ∧
      g = FrameGraph.build (e.scopeRecords options x.kind.memberKinds) (e.word "name") ∧
      ∀ r,
        (y.name = "" → y.pose (some r) = .error (.nameless k.tag g.scope)) ∧
        (y.name ≠ "" → x.framePose? y.name r = some (y.pose (some r)) ∧
          (g.problems ≠ [] → y.pose (some r) = .error (.faultyGraph g.scope g.problems)) ∧
          (g.problems = [] → ¬ x.HasFrame r →
            y.pose (some r) = .error (.unknownFrame g.scope r)) ∧
          (g.problems = [] → x.HasFrame r → ∃ b q,
            g.rootPose y.placement.base = .ok b ∧ g.rootPose r = .ok q ∧
            y.pose (some r) = .ok (RigidMotion.compose (RigidMotion.inverse q)
              (RigidMotion.compose b y.placement.pose)))) ∧
        ∀ (options' : Options) (top' : Element) {x' y' : Entity} {ys' : List Entity},
          ((new options').loadElement top').value.Holds x' → x'.graph? = some g →
          x'.members? k = some ys' → y' ∈ ys' → y'.name = y.name →
          y'.pose (some r) = y.pose (some r) := by
  obtain ⟨e, g?, hpath, htag, hsource⟩ := hx.source
  have hgraph : x.graph? = _ := (congrArg Entity.graph? hsource).trans
    ((Entity.graph?_inScope ..).trans (Entity.graph?_loaded options htag hscope))
  obtain ⟨hk, c, hc, hload⟩ := source_of_member htag hsource hys hy
  have hchild := mem_of_mem_firstUses hc
  have hname : y.name = c.word "name" := by
    rw [hload, Entity.name_inScope, Entity.name_loaded options (name_of_mem_named hchild)]
  have hplace : y.placement.pose = (Placement.loaded options c {}).pose ∧
      y.placement.base = (Placement.loaded options c {}).base := by
    rw [hload, Entity.placement_inScope, Entity.placement_loaded options
      (name_of_mem_named hchild) (Kind.ne_world_of_mem_memberKinds hk)]
    exact ⟨rfl, rfl⟩
  have hframe (r : String) : x.HasFrame r ↔ (Entity.loaded options x.kind e).HasFrame r :=
    (iff_of_eq (congrArg (·.HasFrame r) hsource)).trans (Entity.hasFrame_inScope ..)
  refine ⟨e, c, _, hpath, htag, hchild, hgraph ▸ hload, hgraph, rfl, fun r => ?_⟩
  have hanswer := hx.pose_of_member hgraph hys hy r
  refine ⟨fun hn => ?_, fun hn => ?_, ?_⟩
  · rw [hanswer, if_pos hn]
  · rw [if_neg hn] at hanswer
    have hkept := Entity.pose_of_kept options hk hc htag (hname ▸ hn) rfl
    rw [hanswer, hframe, hname, hplace.1, hplace.2]
    refine ⟨Entity.framePose?_of_graph? hgraph _ r, fun h => FrameGraph.pose_of_faulty h _ r,
      fun h => (hkept h r).1, fun h => (hkept h r).2⟩
  · intro options' top' x' y' ys' hx' hgraph' hys' hy' hsame
    rw [hanswer, hx'.pose_of_member hgraph' hys' hy' r, hsame]

/-- A model with two links of one name, and inside it a model without a fault. -/
def faultyOutside : Element :=
  { name := "sdf"
    attributes := [("version", "1.7")]
    children := [{
      name := "model"
      attributes := [("name", "outer")]
      children := [
        { name := "link", attributes := [("name", "a")] },
        { name := "link", attributes := [("name", "a")] },
        { name := "model"
          attributes := [("name", "inner")]
          children := [
            { name := "link", attributes := [("name", "l")] },
            { name := "frame"
              attributes := [("name", "f")]
              children := [{ name := "pose", attributes := [("relative_to", "l")] }] }] }] }] }

theorem members_answer_inside : ∃ x y ys,
    ((new {}).loadElement faultyOutside).value.Holds x ∧ x.kind.isScope = true ∧
      x.members? .frame = some ys ∧ y ∈ ys ∧ y.name = "f" ∧
      ((new {}).loadElement faultyOutside).problems ≠ [] ∧ ∃ p, y.pose (some "l") = .ok p := by
  have hinner : (((new {}).loadElement faultyOutside : Journaled Document).value.models.flatMap
      (·.models)).map (fun m => (m.links.map (·.placement.name), m.frames.map (·.placement.name),
        m.graph?.map (·.problems.length))) = [(["l"], ["f"], some 0)] := by decide +kernel
  obtain ⟨inner, hmodels, hparts⟩ := List.map_eq_singleton_iff.mp hinner
  simp only [Prod.mk.injEq] at hparts
  obtain ⟨hlinks, hframes, hfaults⟩ := hparts
  obtain ⟨l, hl, hlname⟩ := List.map_eq_singleton_iff.mp hlinks
  obtain ⟨f, hf, hfname⟩ := List.map_eq_singleton_iff.mp hframes
  obtain ⟨outer, houter, hin⟩ := List.mem_flatMap.mp (hmodels ▸ List.mem_singleton_self inner)
  have hholds : ((new {}).loadElement faultyOutside).value.Holds (.model inner) :=
    .member (.model houter) (k := .model) rfl (List.mem_map_of_mem hin)
  have hmem : Entity.frame f ∈ inner.frames.map Entity.frame := by simp [hf]
  obtain ⟨e, c, g, -, -, -, -, hgraph, -, hanswers⟩ :=
    members_answer_by_scope {} faultyOutside (k := .frame) hholds rfl rfl hmem
  have hvalid : g.problems = [] := by
    have hsome : inner.graph? = some g := hgraph
    simpa [hsome] using hfaults
  have hnamed : (Entity.frame f).name ≠ "" := by
    rw [show (Entity.frame f).name = "f" from hfname]
    decide
  have hl' : (Entity.model inner).HasFrame "l" :=
    Or.inr ⟨.link, _, rfl, .link l, by simp [hl], hlname⟩
  obtain ⟨-, -, -, hok⟩ := (hanswers "l").2.1 hnamed
  obtain ⟨b, q, -, -, hpose⟩ := hok hvalid hl'
  exact ⟨_, _, _, hholds, rfl, rfl, hmem, hfname, by decide +kernel, _, hpose⟩

end Document

end SceneFrames
