import SceneFrames.Proofs.Scene.Acceptance
import SceneFrames.Proofs.Scene.Entities
import SceneFrames.Proofs.Scene.History
import Mathlib.Data.List.Find

/-!
The problems of a load, block by block.

A load notes the problems of the entity itself, then those of its children kind by kind, and then
those that show only when all children are there: with joints that name no links, and with the
graph. What is noted of a child is what a load of the child alone notes. So below the top of a
document every element that something is loaded from has a block of its own in the problems of the
document: inside the block of the element around it, and after the blocks of earlier siblings.
-/

namespace SceneFrames

open Journaled
open Element (name_of_mem_named)

variable {options : Options} {e : Element} {o k : Kind}

/-- A kind, and an element that an entity of the kind is loaded from. -/
abbrev Source := Kind × Element

/-- A child that a member is loaded from, and what the entity around it notes right after that. -/
structure MemberPart where
  source : Source
  repetition : List Problem

namespace Element

/-- What an entity of a kind notes before it comes to its children. -/
def ownProblems (e : Element) : Kind → List Problem
  | .world => e.nameProblems .world ++ (e.get .vector "gravity" ({} : World).gravity).problems
  | .model => e.nameProblems .model ++ e.poseProblems ++ (e.get .flag "static" false).problems
  | .link => e.nameProblems .link ++ e.poseProblems
  | .joint => e.nameProblems .joint ++ Joint.typeProblems (e.word "name") e ++
      Joint.endProblems (e.word "name") e .parent ++ Joint.endProblems (e.word "name") e .child ++
      Joint.axisProblems e ++ e.poseProblems
  | .frame => e.nameProblems .frame ++ e.poseProblems
  | .visual => e.nameProblems .visual ++ e.poseProblems ++
      Shape.geometryProblems .visual (e.word "name") e
  | .collision => e.nameProblems .collision ++ e.poseProblems ++
      Shape.geometryProblems .collision (e.word "name") e

/-- That a child repeats the name of an earlier one of the kind. A scope leaves it to its graph to
say so. -/
def repeatProblems (e : Element) (o k : Kind) (earlier : List Element) (c : Element) :
    List Problem :=
  if o.isScope || c.word "name" == "" then []
  else
    match earlier.find? (·.word "name" == c.word "name") with
    | some first => [.siblingRepeated k.tag (c.word "name") c.line first.line o.tag (e.word "name")]
    | none => []

/-- Children of a kind, of which some are given and others come after them. -/
def partsAfter (e : Element) (o k : Kind) : List Element → List Element → List MemberPart
  | _, [] => []
  | earlier, c :: cs =>
    ⟨(k, c), e.repeatProblems o k earlier c⟩ :: partsAfter e o k (earlier ++ [c]) cs

/-- The children that members are loaded from: kind by kind, and in each kind in order. -/
def parts (e : Element) (o : Kind) : List MemberPart :=
  o.memberKinds.flatMap fun k => e.partsAfter o k [] (e.named k.tag)

lemma map_source_partsAfter (e : Element) (o k : Kind) (earlier cs : List Element) :
    (e.partsAfter o k earlier cs).map (·.source) = cs.map fun c => (k, c) := by
  induction cs generalizing earlier with
  | nil => rfl
  | cons c cs ih => simp [partsAfter, ih]

lemma map_source_parts (e : Element) (o : Kind) : (e.parts o).map (·.source) =
    o.memberKinds.flatMap fun k => (e.named k.tag).map fun c => (k, c) := by
  rw [parts, List.map_flatMap]
  simp only [map_source_partsAfter]

lemma exists_mem_parts_iff {x : Source} : (∃ p ∈ e.parts o, p.source = x) ↔
    x.1 ∈ o.memberKinds ∧ x.2 ∈ e.named x.1.tag := by
  rw [← List.mem_map, map_source_parts]
  obtain ⟨k, c⟩ := x
  simp

lemma name_of_mem_parts {p : MemberPart} (h : p ∈ e.parts o) : p.source.2.name = p.source.1.tag :=
  name_of_mem_named (exists_mem_parts_iff.mp ⟨p, h, rfl⟩).2

end Element

/-- What a load into a new entity notes. -/
def noted (options : Options) (x : Source) : List Problem :=
  ((Entity.fresh x.1).load options x.2).problems

/-- What is noted of a child. -/
def MemberPart.block (options : Options) (p : MemberPart) : List Problem :=
  noted options p.source ++ p.repetition

/-- What a model notes of the references between its members: that it has no link, and that joints
name no links of it. -/
def referenceProblems (options : Options) (x : Source) : List Problem :=
  match x.1 with
  | .model => Model.emptyProblems options x.2 ++ Model.jointProblems options x.2
  | _ => []

/-- The problems of the graph of an entity, if it is a scope. -/
def Entity.graphProblems (x : Entity) : List Problem := (x.graph?.map (·.problems)).getD []

/-! ### One entity -/

/-- A scope notes of its children what they note themselves. -/
lemma blocks_of_scope (ho : o.isScope = true) (earlier cs : List Element) :
    (e.partsAfter o k earlier cs).flatMap (MemberPart.block options) =
      cs.flatMap fun c => noted options (k, c) := by
  induction cs generalizing earlier with
  | nil => rfl
  | cons c cs ih =>
    have hquiet : e.repeatProblems o k earlier c = [] := by simp [Element.repeatProblems, ho]
    rw [Element.partsAfter, List.flatMap_cons, List.flatMap_cons, ih, MemberPart.block, hquiet,
      List.append_nil]

section Link

variable {earlier cs : List Element} {c : Element}

/-- The shapes that are loaded from elements, gathered. -/
def Shape.gathered (options : Options) (k : Kind) (cs : List Element) : Siblings Shape :=
  Siblings.gather Shape.placement (cs.map fun c => (Shape.load k options {} c).value)

lemma Shape.gathered_concat (options : Options) (k : Kind) (cs : List Element) (c : Element) :
    (gathered options k cs).push Shape.placement (Shape.load k options {} c).value =
      gathered options k (cs ++ [c]) := by
  rw [gathered, gathered, List.map_append, List.map_singleton, Siblings.gather_concat]

/-- The first of the earlier shapes of a name. -/
lemma Shape.first?_gathered (hearlier : ∀ d ∈ earlier, d.name = k.tag) (hc : c.name = k.tag) :
    (gathered options k earlier).first? Shape.placement (Shape.load k options {} c).value =
      if c.word "name" = "" then none
      else (earlier.find? (·.word "name" == c.word "name")).map
        fun d => (Shape.load k options {} d).value := by
  have hname {d : Element} (hd : d.name = k.tag) :
      (Shape.load k options {} d).value.placement.name = d.word "name" :=
    congrArg Placement.name (Shape.placement_load options {} hd)
  rw [gathered, Siblings.first?_gather, hname hc, List.find?_map]
  congr 2
  exact List.find?_congr fun d hd => by rw [Function.comp_apply, hname (hearlier d hd)]

/-- One more shape: a repeated name is noted of the first shape that has it. -/
lemma Shape.problems_add_gathered (hearlier : ∀ d ∈ earlier, d.name = k.tag)
    (hc : c.name = k.tag) :
    ((gathered options k earlier).add Shape.placement
        (Siblings.noteRepetition k Shape.placement .link (e.word "name"))
        (Shape.load k options {} c).value).problems = e.repeatProblems .link k earlier c := by
  have hplace {d : Element} (hd : d.name = k.tag) := Shape.placement_load options {} hd
  have hkept : (gathered options k earlier).first? placement
      (Shape.load k options {} c).value = _ := first?_gathered hearlier hc
  rw [Siblings.problems_add, hkept, Element.repeatProblems]
  by_cases hempty : c.word "name" = ""
  · simp [hempty]
  · cases hfind : earlier.find? (·.word "name" == c.word "name") with
    | none => simp [hempty, Kind.isScope]
    | some first =>
      have hfirst := hearlier first (List.mem_of_find?_eq_some hfind)
      rw [if_neg hempty, hfind, Option.map_some] at hkept
      simp [hempty, Kind.isScope, Siblings.noteRepetition_of_first? hkept, Siblings.repetition,
        hplace hc, hplace hfirst, Placement.loaded]

variable (hnoted : ∀ c, noted options (k, c) = (Shape.load k options {} c).problems)

include hnoted

/-- Shapes are noted block by block, each with the repetition of a name right after it. By
induction on the shapes that are still to come. -/
lemma Link.problems_loadAll_gathered (hearlier : ∀ d ∈ earlier, d.name = k.tag)
    (hcs : ∀ c ∈ cs, c.name = k.tag) :
    (Siblings.loadAll Shape.placement
        (Siblings.noteRepetition k Shape.placement .link (e.word "name"))
        (Shape.gathered options k earlier) (cs.map (Shape.load k options {}))).problems =
      (e.partsAfter .link k earlier cs).flatMap (MemberPart.block options) := by
  induction cs generalizing earlier with
  | nil => rfl
  | cons c cs ih =>
    obtain ⟨hc, hcs⟩ := List.forall_mem_cons.mp hcs
    have hearlier' : ∀ d ∈ earlier ++ [c], d.name = k.tag := by
      rw [List.forall_mem_append, List.forall_mem_singleton]
      exact ⟨hearlier, hc⟩
    -- the shape joins the earlier ones whether or not it is kept, so the rest is a run of its own
    rw [List.map_cons, Siblings.loadAll, problems_bind, problems_bind, Siblings.value_add,
      Shape.gathered_concat, ih hearlier' hcs, Shape.problems_add_gathered hearlier hc,
      Element.partsAfter, List.flatMap_cons, MemberPart.block, hnoted, List.append_assoc]

lemma Link.problems_loadShapes : (loadShapes k options (e.word "name") e).problems =
    (e.partsAfter .link k [] (e.named k.tag)).flatMap (MemberPart.block options) := by
  have hall := problems_loadAll_gathered hnoted (e := e) (List.forall_mem_nil _)
    fun c hc => name_of_mem_named (e := e) hc
  rw [← hall, loadShapes, Siblings.loadParts, problems_bind, problems_pure, List.append_nil]
  rfl

end Link

lemma graphProblems_of_not_scope (options : Options) (e : Element) (ho : o.isScope = false) :
    (Entity.loaded options o e).graphProblems = [] := by
  cases o with
  | world => simp [Kind.isScope] at ho
  | model => simp [Kind.isScope] at ho
  | _ => rfl

/-- **What an entity notes**: its own problems, those of each child, those of the references
between members, and those of its graph. -/
lemma problems_load_eq (options : Options) (h : e.name = o.tag) :
    ((Entity.fresh o).load options e).problems =
      e.ownProblems o ++ (e.parts o).flatMap (MemberPart.block options) ++
        referenceProblems options (o, e) ++ (Entity.loaded options o e).graphProblems := by
  cases o with
  | world =>
    have hload : ((Entity.fresh .world).load options e).problems = _ :=
      (problems_map ..).trans (World.problems_load h)
    have hgraph : (Entity.loaded options .world e).graph? = _ :=
      Entity.graph?_loaded options h rfl
    rw [hload, Entity.graphProblems, hgraph, World.graphOf_eq]
    simp [Element.ownProblems, Element.parts, Kind.memberKinds, World.memberKinds,
      blocks_of_scope, Kind.isScope, referenceProblems, noted, Entity.load, Entity.fresh]
  | model =>
    have hload : ((Entity.fresh .model).load options e).problems = _ :=
      (problems_map ..).trans (Model.problems_load h)
    have hgraph : (Entity.loaded options .model e).graph? = _ :=
      Entity.graph?_loaded options h rfl
    rw [hload, Entity.graphProblems, hgraph, Model.graph_eq]
    simp [Element.ownProblems, Element.parts, Kind.memberKinds, Model.memberKinds,
      blocks_of_scope, Kind.isScope, referenceProblems, noted, Entity.load, Entity.fresh]
  | link =>
    have hload : ((Entity.fresh .link).load options e).problems =
        e.nameProblems .link ++ e.poseProblems ++
          (Link.loadShapes .visual options (e.word "name") e).problems ++
          (Link.loadShapes .collision options (e.word "name") e).problems :=
      (problems_map ..).trans (congrArg (·.problems) (Link.load_eq h))
    have hvisual (c : Element) : noted options (.visual, c) = _ := problems_map ..
    have hcollision (c : Element) : noted options (.collision, c) = _ := problems_map ..
    rw [hload, Link.problems_loadShapes hvisual, Link.problems_loadShapes hcollision,
      graphProblems_of_not_scope options e rfl]
    simp [Element.ownProblems, Element.parts, Kind.memberKinds, referenceProblems]
  | joint =>
    rw [graphProblems_of_not_scope options e rfl]
    simp [Entity.load, Entity.fresh, Joint.load_eq h, Element.ownProblems,
      Element.parts, Kind.memberKinds, referenceProblems]
  | frame =>
    rw [graphProblems_of_not_scope options e rfl]
    simp [Entity.load, Entity.fresh, ExplicitFrame.load_eq h, Element.ownProblems,
      Element.parts, Kind.memberKinds, referenceProblems]
  | visual =>
    rw [graphProblems_of_not_scope options e rfl]
    simp [Entity.load, Entity.fresh, Shape.load_eq (k := .visual) h, Element.ownProblems,
      Element.parts, Kind.memberKinds, referenceProblems]
  | collision =>
    rw [graphProblems_of_not_scope options e rfl]
    simp [Entity.load, Entity.fresh, Shape.load_eq (k := .collision) h, Element.ownProblems,
      Element.parts, Kind.memberKinds, referenceProblems]

/-! ### Blocks inside blocks -/

namespace Source

/-- The element that is reached by numbers of children, each among those that members are loaded
from. -/
def descend? (x : Source) : List Nat → Option Source
  | [] => some x
  | i :: is => ((x.2.parts x.1)[i]?).bind fun p => descend? p.source is

/-- The problems that are noted before those of the child of a number. -/
def problemsBefore (options : Options) (x : Source) (i : Nat) : List Problem :=
  x.2.ownProblems x.1 ++ ((x.2.parts x.1).take i).flatMap (MemberPart.block options)

/-- Where the block of an element begins in the problems of an element around it. -/
def blockStart (options : Options) (x : Source) : List Nat → Nat
  | [] => 0
  | i :: is => (problemsBefore options x i).length +
      (((x.2.parts x.1)[i]?).map fun p => blockStart options p.source is).getD 0

variable {x y c : Source} {i : Nat} {is js : List Nat} {p : MemberPart}

lemma descend?_cons_eq_some_iff : x.descend? (i :: is) = some y ↔
    ∃ p, (x.2.parts x.1)[i]? = some p ∧ descend? p.source is = some y :=
  Option.bind_eq_some_iff

lemma descend?_singleton_eq_some_iff : x.descend? [i] = some c ↔
    ∃ p, (x.2.parts x.1)[i]? = some p ∧ p.source = c := by
  rw [descend?_cons_eq_some_iff]
  simp only [descend?, Option.some.injEq]

lemma descend?_append (x : Source) (is js : List Nat) :
    x.descend? (is ++ js) = (x.descend? is).bind (descend? · js) := by
  induction is generalizing x with
  | nil => rfl
  | cons i is ih =>
    rw [List.cons_append, descend?, descend?]
    cases (x.2.parts x.1)[i]? with
    | none => rfl
    | some p => exact ih p.source

/-- What is reached from an element of its kind is of its kind. -/
lemma name_of_descend? (hx : x.2.name = x.1.tag) (h : x.descend? is = some y) :
    y.2.name = y.1.tag := by
  induction is generalizing x with
  | nil =>
    obtain rfl := Option.some.inj h
    exact hx
  | cons i is ih =>
    obtain ⟨p, hp, hy⟩ := descend?_cons_eq_some_iff.mp h
    exact ih (Element.name_of_mem_parts (List.mem_of_getElem? hp)) hy

/-- The block of a child begins after what is noted before it. -/
lemma exists_noted_eq (options : Options) (hx : x.2.name = x.1.tag)
    (hp : (x.2.parts x.1)[i]? = some p) :
    ∃ after, noted options x = problemsBefore options x i ++ noted options p.source ++ after := by
  obtain ⟨hi, rfl⟩ := List.getElem?_eq_some_iff.mp hp
  have hparts : x.2.parts x.1 =
      (x.2.parts x.1).take i ++ (x.2.parts x.1)[i] :: (x.2.parts x.1).drop (i + 1) := by
    rw [← List.drop_eq_getElem_cons hi, List.take_append_drop]
  -- blocks are split where children are
  have hblocks := congrArg (List.flatMap (MemberPart.block options)) hparts
  rw [List.flatMap_append, List.flatMap_cons] at hblocks
  have hnoted : noted options x = _ := problems_load_eq options hx
  rw [hblocks, MemberPart.block] at hnoted
  rw [hnoted, problemsBefore]
  simp only [List.append_assoc]
  exact ⟨_, rfl⟩

/-- Earlier children are noted before later ones. -/
lemma length_problemsBefore_le (options : Options) {j : Nat}
    (hp : (x.2.parts x.1)[i]? = some p) (hij : i < j) :
    (problemsBefore options x i).length + (noted options p.source).length ≤
      (problemsBefore options x j).length := by
  have htake : (x.2.parts x.1).take (i + 1) = (x.2.parts x.1).take i ++ [p] := by
    rw [List.take_add_one, hp]
    rfl
  obtain ⟨more, hmore⟩ : (x.2.parts x.1).take (i + 1) <+: (x.2.parts x.1).take j :=
    List.take_prefix_take_left hij
  rw [problemsBefore, problemsBefore, ← hmore, htake]
  simp only [List.flatMap_append, List.flatMap_cons, List.flatMap_nil, List.length_append,
    MemberPart.block, List.append_nil]
  omega

/-- **A load of an element alone** notes a block of what is noted of an element around it. By
induction on the way down to the element. -/
lemma exists_block (hx : x.2.name = x.1.tag) (h : x.descend? is = some y) :
    ∃ before after, noted options x = before ++ noted options y ++ after ∧
      before.length = blockStart options x is := by
  induction is generalizing x with
  | nil =>
    obtain rfl := Option.some.inj h
    exact ⟨[], [], by simp, rfl⟩
  | cons i is ih =>
    obtain ⟨p, hp, hy⟩ := descend?_cons_eq_some_iff.mp h
    obtain ⟨after, hafter⟩ := exists_noted_eq options hx hp
    obtain ⟨before', after', hinner, hlength⟩ :=
      ih (Element.name_of_mem_parts (List.mem_of_getElem? hp)) hy
    refine ⟨problemsBefore options x i ++ before', after' ++ after, ?_, ?_⟩
    · rw [hafter, hinner]
      simp only [List.append_assoc]
    · rw [List.length_append, hlength, blockStart, hp]
      rfl

lemma blockStart_append (h : x.descend? is = some y) :
    blockStart options x (is ++ js) = blockStart options x is + blockStart options y js := by
  induction is generalizing x with
  | nil =>
    obtain rfl := Option.some.inj h
    exact (Nat.zero_add _).symm
  | cons i is ih =>
    obtain ⟨p, hp, hy⟩ := descend?_cons_eq_some_iff.mp h
    rw [List.cons_append, blockStart, blockStart, hp, Option.map_some, Option.map_some, ih hy]
    exact (Nat.add_assoc ..).symm

lemma blockStart_singleton (hp : (x.2.parts x.1)[i]? = some p) :
    blockStart options x [i] = (problemsBefore options x i).length := by
  rw [blockStart, hp]
  rfl

/-- Problems in which every element that is reached has a block, with what a load of the element
alone notes. The children that members are loaded from are reached too; their blocks lie inside
that of the element, one after the other. -/
structure InBlocks (options : Options) (x : Source) (problems : List Problem)
    (start : List Nat → Nat) : Prop where
  child : ∀ {is y c}, x.descend? is = some y → c.1 ∈ y.1.memberKinds → c.2 ∈ y.2.named c.1.tag →
    ∃ i, x.descend? (is ++ [i]) = some c
  block : ∀ {is y}, x.descend? is = some y →
    ∃ before after, problems = before ++ noted options y ++ after ∧ before.length = start is
  inside : ∀ {is y i c}, x.descend? is = some y → x.descend? (is ++ [i]) = some c →
    start is ≤ start (is ++ [i]) ∧
      start (is ++ [i]) + (noted options c).length ≤ start is + (noted options y).length
  inOrder : ∀ {is i c j d}, x.descend? (is ++ [i]) = some c → x.descend? (is ++ [j]) = some d →
    i < j → start (is ++ [i]) + (noted options c).length ≤ start (is ++ [j])

lemma exists_child (hy : x.descend? is = some y) (hk : c.1 ∈ y.1.memberKinds)
    (hc : c.2 ∈ y.2.named c.1.tag) : ∃ i, x.descend? (is ++ [i]) = some c := by
  obtain ⟨p, hp, hsource⟩ := Element.exists_mem_parts_iff.mpr ⟨hk, hc⟩
  obtain ⟨i, hi⟩ := List.mem_iff_getElem?.mp hp
  refine ⟨i, ?_⟩
  rw [descend?_append, hy]
  exact descend?_singleton_eq_some_iff.mpr ⟨p, hi, hsource⟩

lemma exists_part (hc : x.descend? (is ++ [i]) = some c) :
    ∃ y p, x.descend? is = some y ∧ (y.2.parts y.1)[i]? = some p ∧ p.source = c := by
  rw [descend?_append] at hc
  obtain ⟨y, hy, hc⟩ := Option.bind_eq_some_iff.mp hc
  obtain ⟨p, hp, hsource⟩ := descend?_singleton_eq_some_iff.mp hc
  exact ⟨y, p, hy, hp, hsource⟩

/-- What is noted of an element stands in blocks. -/
lemma inBlocks_noted (hx : x.2.name = x.1.tag) :
    InBlocks options x (noted options x) (blockStart options x) where
  child := exists_child
  block := exists_block hx
  inside := by
    intro is y i c hy hc
    obtain ⟨y', p, hy', hp, rfl⟩ := exists_part hc
    obtain rfl : y = y' := Option.some.inj (hy.symm.trans hy')
    obtain ⟨after, hafter⟩ := exists_noted_eq options (name_of_descend? hx hy) hp
    have hlength := congrArg List.length hafter
    simp only [List.length_append] at hlength
    rw [blockStart_append hy, blockStart_singleton hp]
    omega
  inOrder := by
    intro is i c j d hc hd hij
    obtain ⟨y, p, hy, hp, rfl⟩ := exists_part hc
    obtain ⟨y', q, hy', hq, rfl⟩ := exists_part hd
    obtain rfl : y = y' := Option.some.inj (hy.symm.trans hy')
    have hbefore := length_problemsBefore_le options hp hij
    rw [blockStart_append hy, blockStart_singleton hp, blockStart_append hy,
      blockStart_singleton hq]
    omega

/-- Blocks stay blocks with more before and after them. -/
lemma InBlocks.append {problems : List Problem} {start : List Nat → Nat}
    (h : InBlocks options x problems start) (before after : List Problem) :
    InBlocks options x (before ++ problems ++ after) fun is => before.length + start is where
  child := h.child
  block := by
    intro is y hy
    obtain ⟨before', after', heq, hlength⟩ := h.block hy
    refine ⟨before ++ before', after' ++ after, ?_, ?_⟩
    · rw [heq]
      simp only [List.append_assoc]
    · rw [List.length_append, hlength]
  inside := by
    intro is y i c hy hc
    have hinside := h.inside hy hc
    omega
  inOrder := by
    intro is i c j d hc hd hij
    have horder := h.inOrder hc hd hij
    omega

end Source

/-! ### Documents -/

namespace Document

variable {top first : Element} {surplus : List Element}

/-- The problems of a document are those of its version, those of its first world or model, and
those of any more of them. -/
lemma exists_problems_loadElement (options : Options) (htop : top.name = tag)
    (hfirst : top.children.filter isTopLevel = first :: surplus) :
    ∃ o : Kind, first.name = o.tag ∧ ((new options).loadElement top).value.problems =
      (loadVersion top).problems ++ noted options (o, first) ++
        surplus.map fun c => .surplusEntity c.name ((c.attribute? "name").getD "") := by
  have hproblems : ((new options).loadElement top).value.problems =
      (loadVersion top).problems ++ (loadTopLevel options top).problems := by
    simp [loadElement, settle_eq, new, htop]
  have hmem : first ∈ top.named Kind.world.tag ∨ first ∈ top.named Kind.model.tag :=
    mem_topLevel.mp (by simp [hfirst])
  rw [hproblems, problems_loadTopLevel hfirst]
  rcases hmem with hworld | hmodel
  · have htag := name_of_mem_named hworld
    have hnoted : noted options (.world, first) = _ := problems_map ..
    exact ⟨.world, htag, by rw [if_pos htag, hnoted, List.append_assoc]⟩
  · have htag := name_of_mem_named hmodel
    have hother : first.name ≠ Kind.world.tag := by
      rw [htag]
      decide
    have hnoted : noted options (.model, first) = _ := problems_map ..
    exact ⟨.model, htag, by rw [if_neg hother, hnoted, List.append_assoc]⟩

/-- **Problems accumulate.** A load notes the problems of the entity itself, those of each child
in turn, those of references between members, and those of the graph once. So below the top of a
document every element has a block in the problems of the document, which is what a load of the
element alone notes. -/
theorem problems_in_blocks (options : Options) :
    (∀ (o : Kind) (e : Element), e.name = o.tag → noted options (o, e) =
      e.ownProblems o ++ (e.parts o).flatMap (MemberPart.block options) ++
        referenceProblems options (o, e) ++ (Entity.loaded options o e).graphProblems) ∧
      ∀ (top first : Element) (surplus : List Element), top.name = tag →
        top.children.filter isTopLevel = first :: surplus →
        ∃ (o : Kind) (start : List Nat → Nat), first.name = o.tag ∧
          Source.InBlocks options (o, first) ((new options).loadElement top).value.problems
            start := by
  refine ⟨fun o e h => problems_load_eq options h, fun top first surplus htop hfirst => ?_⟩
  obtain ⟨o, htag, hproblems⟩ := exists_problems_loadElement options htop hfirst
  rw [hproblems]
  exact ⟨o, _, htag, (Source.inBlocks_noted htag).append _ _⟩

/-- A visual without a geometry. -/
def bareVisual : Element := { name := "visual", attributes := [("name", "v")] }

/-- A model with a link that has two visuals of one name, and with a model without a name. -/
def damagedModel : Element :=
  { name := "model"
    attributes := [("name", "m")]
    children := [
      { name := "model" },
      { name := "link", attributes := [("name", "a")], children := [bareVisual, bareVisual] }] }

def damaged : Element :=
  { name := "sdf", attributes := [("version", "1.7")], children := [damagedModel] }

/-- The links come before the models, and what the visuals lack is noted of both. -/
theorem problems_in_blocks_damaged :
    noted {} (.model, damagedModel) = damagedModel.ownProblems .model ++
      (damagedModel.parts .model).flatMap (MemberPart.block {}) ++
      referenceProblems {} (.model, damagedModel) ++
      (Entity.loaded {} .model damagedModel).graphProblems ∧
    damaged.name = tag ∧ damaged.children.filter isTopLevel = [damagedModel] ∧
    ((new {}).loadElement damaged).value.problems =
      [.geometryMissing "visual" "v", .geometryMissing "visual" "v",
        .siblingRepeated "visual" "v" none none "link" "a", .nameMissing "model",
        .linkMissing ""] ∧
    Source.descend? (.model, damagedModel) [0, 1] = some (.visual, bareVisual) ∧
    noted {} (.visual, bareVisual) = [.geometryMissing "visual" "v"] ∧
    ∃ start, Source.InBlocks {} (.model, damagedModel)
      ((new {}).loadElement damaged).value.problems start := by
  have htop : damaged.name = tag := rfl
  have hfirst : damaged.children.filter isTopLevel = [damagedModel] := rfl
  obtain ⟨o, start, htag, hblocks⟩ :=
    (problems_in_blocks {}).2 damaged damagedModel [] htop hfirst
  obtain rfl : Kind.model = o := Kind.tag_injective htag
  exact ⟨(problems_in_blocks {}).1 .model damagedModel rfl, htop, hfirst, by decide +kernel, rfl,
    by decide, start, hblocks⟩

end Document

end SceneFrames
