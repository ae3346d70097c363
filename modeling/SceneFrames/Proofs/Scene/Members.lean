import SceneFrames.Proofs.Scene.Load
import SceneFrames.Proofs.Scene.Scope

/-!
The members of a scope and the elements that they are loaded from.

A member that is loaded afresh has the name and the base that its element declares. So the members
that are kept are those whose elements are first uses of names; a scope gets the frames of the
elements in another order, first uses before later ones; and where the elements form a scope, all
members are kept.
-/

namespace SceneFrames

variable {options : Options} {e : Element} {k : Kind}

namespace Element

/-- The placements that the children of a kind declare. -/
def placements (options : Options) (k : Kind) (e : Element) : List Placement :=
  (e.named k.tag).map fun c => Placement.loaded options c {}

/-- The frames of the children of some kinds. -/
def memberRecords (options : Options) (kinds : List Kind) (e : Element) :
    List (FrameRecord (Pose Float)) :=
  kinds.flatMap fun k => (e.named k.tag).map fun c => (Placement.loaded options c {}).record k

/-- The children of some kinds that are first uses of names among those of their kind. -/
def keptChildren (kinds : List Kind) (e : Element) : List (Kind × Element) :=
  kinds.flatMap fun k => (firstUses (·.word "name") (e.named k.tag)).map fun c => (k, c)

/-- The children of some kinds that repeat the name of an earlier one of their kind. -/
def leftOutChildren (kinds : List Kind) (e : Element) : List (Kind × Element) :=
  kinds.flatMap fun k => (laterUses (·.word "name") (e.named k.tag)).map fun c => (k, c)

/-- The frame of a child of a kind. -/
def frameOf (options : Options) (child : Kind × Element) : FrameRecord (Pose Float) :=
  (Placement.loaded options child.2 {}).record child.1

/-- The frames of the children of some kinds in the order in which a scope gets them. -/
def scopeRecords (options : Options) (kinds : List Kind) (e : Element) :
    List (FrameRecord (Pose Float)) :=
  (e.keptChildren kinds ++ e.leftOutChildren kinds).map (frameOf options)

/-- A scope gets the frames of all its children. -/
lemma scopeRecords_perm (options : Options) (kinds : List Kind) (e : Element) :
    (e.scopeRecords options kinds).Perm (e.memberRecords options kinds) := by
  have hchildren : (e.keptChildren kinds ++ e.leftOutChildren kinds).Perm
      (kinds.flatMap fun k => (e.named k.tag).map fun c => (k, c)) := by
    refine (List.flatMap_append_perm kinds _ _).trans (List.Perm.flatMap_left kinds fun k _ => ?_)
    rw [← List.map_append]
    exact (uses_perm _ _).map _
  refine (hchildren.map (frameOf options)).trans (List.Perm.of_eq ?_)
  rw [List.map_flatMap, memberRecords]
  exact List.flatMap_congr fun k _ => List.map_map

/-- The names of the children of some kinds. -/
def childNames (kinds : List Kind) (e : Element) : List String := kinds.flatMap e.namesOf

/-- A scope gets frames of the names of its children. -/
lemma map_name_scopeRecords (options : Options) (kinds : List Kind) (e : Element) :
    ((e.scopeRecords options kinds).map (·.name)).Perm (e.childNames kinds) := by
  refine ((e.scopeRecords_perm options kinds).map _).trans (List.Perm.of_eq ?_)
  rw [memberRecords, childNames, List.map_flatMap]
  exact List.flatMap_congr fun k _ => List.map_map

/-- A freshly loaded entity has the base that its element declares. -/
lemma declaredBase_eq (options : Options) (e : Element) :
    e.declaredBase options = (Placement.loaded options e {}).base := by
  unfold declaredBase Placement.loaded baseOver
  cases e.first? "pose" with
  | none => rfl
  | some pose =>
    simp only [Placement.baseOf, word, Option.map_some, Option.getD_some]
    cases pose.word? "relative_to" <;> cases pose.word? "frame" <;> simp [rootFrame]

/-- What freshly loaded entities declare is what their elements declare. -/
lemma map_declaration_scopeRecords (options : Options) (kinds : List Kind) (e : Element) :
    ((e.scopeRecords options kinds).map (·.declaration)).Perm (e.declarations options kinds) := by
  refine ((e.scopeRecords_perm options kinds).map _).trans (List.Perm.of_eq ?_)
  rw [memberRecords, declarations, List.map_flatMap, List.map_flatMap]
  simp only [declaredBase_eq]
  exact List.flatMap_congr fun k _ => List.map_map

/-- Children with names declare them. -/
lemma name_ne_of_mem_declarations {kinds : List Kind}
    (hnamed : ∀ k ∈ kinds, ∀ c ∈ e.named k.tag, c.HasName) :
    ∀ d ∈ e.declarations options kinds, d.1 ≠ "" := by
  simp only [declarations, List.forall_mem_map, List.mem_flatMap]
  rintro c ⟨k, hk, hc⟩
  exact hnamed k hk c hc

end Element

section Gather

variable {α : Type} {place : α → Placement} {load : Element → α} {cs : List Element}

/-- The names that loaded siblings are given are those that their elements give. -/
lemma givenNames_map
    (hname : ∀ c ∈ cs, (place (load c)).name = c.word "name") :
    Siblings.givenNames place (cs.map load) = (cs.map (·.word "name")).filter (· ≠ "") := by
  rw [Siblings.givenNames, List.map_map]
  congr 1
  exact List.map_congr_left hname

/-- Elements with names give all of them. -/
lemma filter_words (hnamed : ∀ c ∈ cs, c.HasName) :
    (cs.map (·.word "name")).filter (· ≠ "") = cs.map (·.word "name") := by
  simpa [List.filter_eq_self, Element.HasName] using hnamed

/-- Of loaded siblings, those are kept whose elements are first uses of names. -/
lemma gather_map (hname : ∀ c ∈ cs, (place (load c)).name = c.word "name") :
    Siblings.gather place (cs.map load) =
      ⟨(firstUses (·.word "name") cs).map load, (laterUses (·.word "name") cs).map load⟩ := by
  rw [Siblings.gather_eq, firstUses_map, laterUses_map, firstUses_congr hname,
    laterUses_congr hname]

/-- Gathered siblings declare what their elements declare. -/
lemma records_gather (options : Options) (k : Kind)
    (hplace : ∀ c ∈ cs, place (load c) = Placement.loaded options c {}) :
    ((Siblings.gather place (cs.map load)).kept.map fun a => (place a).record k) =
        ((firstUses (·.word "name") cs).map fun c => (Placement.loaded options c {}).record k) ∧
      ((Siblings.gather place (cs.map load)).repeated.map fun a => (place a).record k) =
        (laterUses (·.word "name") cs).map fun c => (Placement.loaded options c {}).record k := by
  rw [gather_map fun c hc => by rw [hplace c hc]; rfl, List.map_map, List.map_map]
  exact ⟨List.map_congr_left fun c hc => by simp [hplace c (mem_of_mem_firstUses hc)],
    List.map_congr_left fun c hc => by simp [hplace c (mem_of_mem_laterUses hc)]⟩

/-- In a scope all children of a kind are kept. -/
lemma FormsScope.gather_eq {kinds : List Kind} (h : FormsScope (e.declarations options kinds))
    (hk : k ∈ kinds) (hname : ∀ c ∈ e.named k.tag, (place (load c)).name = c.word "name") :
    Siblings.gather place ((e.named k.tag).map load) = ⟨(e.named k.tag).map load, []⟩ := by
  refine Siblings.gather_of_nodup ?_
  rw [givenNames_map hname]
  exact (h.nodup_namesOf hk).filter _

end Gather

/-! ### Models and worlds -/

open Element (name_of_mem_named)

namespace Model

/-- The scope of a model gets the frames of its children. -/
lemma graph_eq (options : Options) (e : Element) (scope : String) :
    (members options e).graph scope =
      FrameGraph.build (e.scopeRecords options memberKinds) scope := by
  obtain ⟨hlinks, hlinks'⟩ := records_gather options .link fun c hc =>
    Link.placement_load options {} (name_of_mem_named (e := e) (c := c) hc)
  obtain ⟨hjoints, hjoints'⟩ := records_gather options .joint fun c hc =>
    Joint.placement_load options {} (name_of_mem_named (e := e) (c := c) hc)
  obtain ⟨hframes, hframes'⟩ := records_gather options .frame fun c hc =>
    ExplicitFrame.placement_load options {} (name_of_mem_named (e := e) (c := c) hc)
  obtain ⟨hmodels, hmodels'⟩ := records_gather options .model fun c hc =>
    Model.placement_load options {} (name_of_mem_named (e := e) (c := c) hc)
  simp only [Members.graph, Members.records, Members.keptRecords, Members.repeatedRecords, members,
    hlinks, hjoints, hframes, hmodels, hlinks', hjoints', hframes', hmodels']
  simp [Element.scopeRecords, Element.keptChildren, Element.leftOutChildren, memberKinds]
  rfl

/-- In a scope all members are kept. -/
lemma members_of_scope (h : FormsScope (e.declarations options memberKinds)) :
    members options e =
      { links := ⟨(e.named Kind.link.tag).map fun c => (Link.load options {} c).value, []⟩
        joints := ⟨(e.named Kind.joint.tag).map fun c => (Joint.load options {} c).value, []⟩
        frames :=
          ⟨(e.named Kind.frame.tag).map fun c => (ExplicitFrame.load options {} c).value, []⟩
        models :=
          ⟨(e.named Kind.model.tag).map fun c => (Model.load options {} c).value, []⟩ } := by
  unfold members
  rw [h.gather_eq (k := .link) (by decide) fun c hc => by
      rw [Link.placement_load options {} (name_of_mem_named hc)]; rfl,
    h.gather_eq (k := .joint) (by decide) fun c hc => by
      rw [Joint.placement_load options {} (name_of_mem_named hc)]; rfl,
    h.gather_eq (k := .frame) (by decide) fun c hc => by
      rw [ExplicitFrame.placement_load options {} (name_of_mem_named hc)]; rfl,
    h.gather_eq (k := .model) (by decide) fun c hc => by
      rw [Model.placement_load options {} (name_of_mem_named hc)]; rfl]

/-- The graph of a model whose members have names has no problems exactly when they form a
scope. -/
lemma problems_graph_eq_nil_iff (scope : String)
    (hnamed : ∀ k ∈ memberKinds, ∀ c ∈ e.named k.tag, c.HasName) :
    ((members options e).graph scope).problems = [] ↔
      FormsScope (e.declarations options memberKinds) := by
  rw [graph_eq]
  exact problems_build_eq_nil_iff scope (e.map_declaration_scopeRecords options memberKinds)
    (Element.name_ne_of_mem_declarations hnamed)

end Model

namespace World

/-- The scope of a world gets the frames of its children. -/
lemma graphOf_eq (options : Options) (e : Element) (scope : String) :
    graphOf scope (memberModels options e) (memberFrames options e) =
      FrameGraph.build (e.scopeRecords options memberKinds) scope := by
  obtain ⟨hmodels, hmodels'⟩ := records_gather options .model fun c hc =>
    Model.placement_load options {} (name_of_mem_named (e := e) (c := c) hc)
  obtain ⟨hframes, hframes'⟩ := records_gather options .frame fun c hc =>
    ExplicitFrame.placement_load options {} (name_of_mem_named (e := e) (c := c) hc)
  simp only [graphOf, recordsOf, memberModels, memberFrames, hmodels, hframes, hmodels', hframes']
  simp [Element.scopeRecords, Element.keptChildren, Element.leftOutChildren, memberKinds]
  rfl

/-- The graph of a world whose members have names has no problems exactly when they form a
scope. -/
lemma problems_graphOf_eq_nil_iff (scope : String)
    (hnamed : ∀ k ∈ memberKinds, ∀ c ∈ e.named k.tag, c.HasName) :
    (graphOf scope (memberModels options e) (memberFrames options e)).problems = [] ↔
      FormsScope (e.declarations options memberKinds) := by
  rw [graphOf_eq]
  exact problems_build_eq_nil_iff scope (e.map_declaration_scopeRecords options memberKinds)
    (Element.name_ne_of_mem_declarations hnamed)

end World

end SceneFrames
