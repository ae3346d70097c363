import SceneFrames.Proofs.Frame.Reordering
import SceneFrames.Proofs.Scene.Entities

/-!
What becomes of children that share names.

Of the children of one kind the first uses of names are kept, and every other child is reported
once. A link reports it together with the shapes. A scope leaves it to the graph, where the frames
of children that are left out come after those of the children that are kept. The graph also
reports kept children whose name a child of another kind has given before; all in all it reports
as many repetitions as names are given beyond the distinct ones.
-/

namespace SceneFrames

open Journaled
open Element (name_of_mem_named)

variable {options : Options} {e c : Element} {o k : Kind}

/-- The problems that are filed as repeated names. -/
def repetitions (ps : List Problem) : List Problem := ps.filter (·.code == .duplicateName)

/-! ### Problems of other codes -/

@[simp] lemma repetitions_nil : repetitions [] = [] := rfl

@[simp] lemma repetitions_append (ps qs : List Problem) :
    repetitions (ps ++ qs) = repetitions ps ++ repetitions qs :=
  List.filter_append ..

lemma repetitions_flatMap {α : Type} (as : List α) (problems : α → List Problem) :
    repetitions (as.flatMap problems) = as.flatMap fun a => repetitions (problems a) :=
  List.filter_flatMap ..

@[simp] lemma repetitions_nameProblems : repetitions (e.nameProblems k) = [] := by
  unfold Element.nameProblems
  split <;> rfl

@[simp] lemma repetitions_get {f : FieldKind} {key : String} {default : f.Value} :
    repetitions (e.get f key default).problems = [] := by
  unfold Element.get Element.getWith
  split <;> rfl

@[simp] lemma repetitions_poseProblems : repetitions e.poseProblems = [] := by
  unfold Element.poseProblems
  split
  · exact repetitions_get
  · rfl

@[simp] lemma repetitions_geometryProblems {name : String} :
    repetitions (Shape.geometryProblems k name e) = [] := by
  unfold Shape.geometryProblems
  cases e.first? "geometry" with
  | none => rfl
  | some g =>
    cases hg : g.children with
    | nil => simp [hg]
    | cons shape more =>
      simp only [hg]
      split <;> rfl

@[simp] lemma repetitions_emptyProblems : repetitions (Model.emptyProblems options e) = [] := by
  unfold Model.emptyProblems
  split <;> rfl

@[simp] lemma repetitions_jointProblems : repetitions (Model.jointProblems options e) = [] := by
  rw [Model.jointProblems, repetitions_flatMap, List.flatMap_eq_nil_iff]
  intro j _
  simp only [Members.jointProblems, repetitions_append, List.append_eq_nil_iff]
  refine ⟨⟨?_, ?_⟩, ?_⟩ <;> split <;> rfl

/-! ### Parts -/

namespace Siblings

variable {α : Type} {place : α → Placement} {as : List α} {a : α} {owner : Kind}
  {ownerName : String}

/-- A problem says that a sibling repeats the name of the first sibling of that name. -/
def SaysRepetition (k : Kind) (place : α → Placement) (owner : Kind) (ownerName : String)
    (as : List α) (a : α) (p : Problem) : Prop :=
  ∃ first, as.find? (fun b => (place b).name == (place a).name) = some first ∧
    p = repetition k place owner ownerName a first

lemma SaysRepetition.concat {p : Problem}
    (h : SaysRepetition k place owner ownerName as a p) (last : α) :
    SaysRepetition k place owner ownerName (as ++ [last]) a p := by
  obtain ⟨first, hfirst, hp⟩ := h
  refine ⟨first, ?_, hp⟩
  rw [List.find?_append, hfirst, Option.some_or]

/-- Each part that repeats a name is reported, in order. -/
lemma repetitions_loadParts (k : Kind) (place : α → Placement) (owner : Kind)
    (ownerName : String) {loads : List (Journaled α)}
    (hloads : ∀ load ∈ loads, repetitions load.problems = []) :
    List.Forall₂ (SaysRepetition k place owner ownerName (loads.map (·.value)))
      (laterUses (fun a => (place a).name) (loads.map (·.value)))
      (repetitions (loadParts k place owner ownerName loads).problems) := by
  simp only [loadParts, problems_bind, problems_pure, List.append_nil]
  induction loads using List.reverseRecOn with
  | nil => exact .nil
  | append_singleton loads load ih =>
    have hold := (ih fun l hl => hloads l (List.mem_append_left _ hl)).imp
      fun _ _ h => h.concat load.value
    have hnew : repetitions load.problems = [] := hloads load (by simp)
    have hkept := congrArg Siblings.kept (gather_eq place (loads.map (·.value)))
    rw [loadAll_concat, problems_bind, problems_bind, problems_add, value_loadAll, ← gather,
      repetitions_append, repetitions_append, hnew, List.nil_append, List.map_append,
      List.map_singleton, laterUses_concat]
    cases hf : (gather place (loads.map (·.value))).first? place load.value with
    | none =>
      rw [if_pos ((first?_eq_none_iff_of_kept hkept).mp hf)]
      simpa using hold
    | some b =>
      have hlater : ¬ isFirstUse (fun a => (place a).name) (loads.map (·.value)) load.value := by
        rw [← first?_eq_none_iff_of_kept hkept, hf]
        simp
      rw [if_neg hlater, noteRepetition_of_first? hf]
      refine List.rel_append hold (.cons ⟨b, ?_, rfl⟩ .nil)
      rw [first?_gather] at hf
      split at hf
      · simp at hf
      · rw [List.find?_append, hf, Option.some_or]

end Siblings

namespace Element

/-- The children that are kept although a child of another kind has given their name before. Only
in a scope that is a repetition. -/
def crossingChildren (o : Kind) (e : Element) : List (Kind × Element) :=
  if o.isScope then laterUses (·.2.word "name") (e.keptChildren o.memberKinds) else []

/-- A problem says that a child of an entity repeats a name: in a scope that of the first frame of
the name, in a link that of the first shape of the kind and the name. -/
def SaysChildRepeated (options : Options) (o : Kind) (e : Element) (child : Kind × Element)
    (p : Problem) : Prop :=
  if o.isScope then
    SaysRepeated (e.word "name") (e.scopeRecords options o.memberKinds) (frameOf options child) p
  else
    ∃ first, (e.named child.1.tag).find? (·.word "name" == child.2.word "name") = some first ∧
      p = .siblingRepeated child.1.tag (child.2.word "name") child.2.line first.line o.tag
        (e.word "name")

end Element

/-! ### Links -/

/-- Each shape that repeats a name is reported, in order. -/
lemma Link.repetitions_loadShapes {name : String} :
    List.Forall₂ (fun c p => ∃ first,
        (e.named k.tag).find? (·.word "name" == c.word "name") = some first ∧
          p = .siblingRepeated k.tag (c.word "name") c.line first.line Kind.link.tag name)
      (laterUses (·.word "name") (e.named k.tag))
      (repetitions (loadShapes k options name e).problems) := by
  -- the shapes as functions of their elements, whatever the elements are
  let shape (c : Element) : Shape :=
    ⟨Placement.loaded options c {}, (Shape.known? c).getD ({} : Shape).geometry⟩
  have hvalues : ((e.named k.tag).map (Shape.load k options {})).map (·.value) =
      (e.named k.tag).map shape := by
    rw [List.map_map]
    exact List.map_congr_left fun c hc =>
      congrArg (·.value) (Shape.load_eq (name_of_mem_named hc))
  have hquiet : ∀ load ∈ (e.named k.tag).map (Shape.load k options {}),
      repetitions load.problems = [] := by
    rw [List.forall_mem_map]
    intro c hc
    simp [Shape.load_eq (name_of_mem_named hc)]
  have hreports := Siblings.repetitions_loadParts k Shape.placement .link name hquiet
  rw [hvalues, laterUses_map, List.forall₂_map_left_iff] at hreports
  refine hreports.imp fun c p ⟨first, hfirst, hp⟩ => ?_
  rw [List.find?_map] at hfirst
  obtain ⟨f, hf, rfl⟩ := Option.map_eq_some_iff.mp hfirst
  exact ⟨f, hf, hp⟩

/-! ### Scopes -/

/-- The graph of a scope reports the kept children that repeat names across kinds, and then the
children that are left out. -/
lemma repetitions_build (options : Options) (kinds : List Kind) (e : Element) (scope : String) :
    List.Forall₂
      (fun child => SaysRepeated scope (e.scopeRecords options kinds)
        (Element.frameOf options child))
      (laterUses (·.2.word "name") (e.keptChildren kinds) ++ e.leftOutChildren kinds)
      (repetitions (FrameGraph.build (e.scopeRecords options kinds) scope).problems) := by
  have hleft : ∀ child ∈ e.leftOutChildren kinds, child.2.word "name" ≠ "" ∧
      child.2.word "name" ∈ (e.keptChildren kinds).map (·.2.word "name") := by
    intro child hchild
    obtain ⟨k, hk, hmem⟩ := List.mem_flatMap.mp hchild
    obtain ⟨c, hc, rfl⟩ := List.mem_map.mp hmem
    obtain ⟨hn, hfirst⟩ := name_of_mem_laterUses hc
    obtain ⟨first, hmem', heq⟩ := List.mem_map.mp hfirst
    exact ⟨hn, List.mem_map.mpr ⟨(k, first),
      List.mem_flatMap.mpr ⟨k, hk, List.mem_map_of_mem hmem'⟩, heq⟩⟩
  have hreports := (insertRecords_uses scope (e.scopeRecords options kinds)).2
  rw [← FrameGraph.filter_repeated depthFirst] at hreports
  rw [← laterUses_append_of_mem hleft, ← List.forall₂_map_left_iff]
  rwa [Element.scopeRecords, laterUses_map] at hreports

namespace Entity

/-- The repetitions that are reported inside the children of an entity. -/
def innerRepetitions (options : Options) (kinds : List Kind) (e : Element) : List Problem :=
  kinds.flatMap fun k =>
    (e.named k.tag).flatMap fun c => repetitions ((fresh k).load options c).problems

/-- A scope reports what its children report inside, and then what its graph reports. -/
lemma repetitions_load_of_scope (options : Options) (h : e.name = o.tag) (ho : o.isScope = true) :
    repetitions ((fresh o).load options e).problems =
      innerRepetitions options o.memberKinds e ++ repetitions (FrameGraph.build
        (e.scopeRecords options o.memberKinds) (e.word "name")).problems := by
  cases o with
  | world =>
    have hload : ((fresh .world).load options e).problems = _ :=
      (problems_map ..).trans (World.problems_load h)
    rw [hload, World.graphOf_eq]
    simp [innerRepetitions, Kind.memberKinds, World.memberKinds, repetitions_flatMap, load, fresh]
  | model =>
    have hload : ((fresh .model).load options e).problems = _ :=
      (problems_map ..).trans (Model.problems_load h)
    rw [hload, Model.graph_eq]
    simp [innerRepetitions, Kind.memberKinds, Model.memberKinds, repetitions_flatMap, load, fresh]
  | _ => simp [Kind.isScope] at ho

/-- The shapes of a link have no children to repeat names. -/
lemma innerRepetitions_link (options : Options) (e : Element) :
    innerRepetitions options Kind.link.memberKinds e = [] := by
  simp only [innerRepetitions, List.flatMap_eq_nil_iff, Kind.memberKinds]
  intro k hk c hc
  simp only [List.mem_cons, List.not_mem_nil, or_false] at hk
  rcases hk with rfl | rfl <;>
    simp [fresh, load, Shape.load_eq (name_of_mem_named hc)]

/-- A link reports its shapes that repeat names, in order. -/
lemma reports_of_link (options : Options) (h : e.name = Kind.link.tag) :
    List.Forall₂ (e.SaysChildRepeated options .link) (e.leftOutChildren Kind.link.memberKinds)
      (repetitions ((fresh .link).load options e).problems) := by
  have hload : ((fresh .link).load options e).problems = _ :=
    (problems_map ..).trans (congrArg (·.problems) (Link.load_eq h))
  have hshapes (k : Kind) : List.Forall₂ (e.SaysChildRepeated options .link)
      ((laterUses (·.word "name") (e.named k.tag)).map fun c => (k, c))
      (repetitions (Link.loadShapes k options (e.word "name") e).problems) :=
    List.forall₂_map_left_iff.mpr Link.repetitions_loadShapes
  have hboth := List.rel_append (hshapes .visual) (hshapes .collision)
  simpa [hload, Element.leftOutChildren, Kind.memberKinds] using hboth

/-- A child that is kept and has a name is found under the name, and has no other number. -/
lemma byName?_of_byIndex? {es : List Entity} {i : Int} {y : Entity} (h : e.name = o.tag)
    (hk : k ∈ o.memberKinds) (hes : (loaded options o e).members? k = some es)
    (hi : byIndex? es i = some y) (hn : y.name ≠ "") :
    es.findIdx? (·.name == y.name) = some i.toNat ∧ byName? es y.name = some y := by
  have hnd : ((es.map (·.name)).filter (· ≠ "")).Nodup := by
    rw [names_of_members h hk hes]
    exact nodup_firstUses _ _
  have hget : es[i.toNat]? = some y := by
    unfold byIndex? at hi
    split at hi
    · exact hi
    · simp at hi
  have hindex := findIdx?_of_nodup hnd hget hn
  refine ⟨hindex, ?_⟩
  rw [byName?, List.find?_eq_bind_findIdx?_getElem?, hindex]
  exact hget

/-- Each child of a scope or of a link that repeats a name is reported, in order. -/
lemma exists_reported (options : Options) (h : e.name = o.tag) (ho : o.memberKinds ≠ []) :
    ∃ reported, repetitions ((fresh o).load options e).problems =
        innerRepetitions options o.memberKinds e ++ reported ∧
      List.Forall₂ (e.SaysChildRepeated options o)
        (e.crossingChildren o ++ e.leftOutChildren o.memberKinds) reported ∧
      (o.isScope = true → reported = repetitions
        (FrameGraph.build (e.scopeRecords options o.memberKinds) (e.word "name")).problems) := by
  cases hscope : o.isScope with
  | true =>
    refine ⟨_, repetitions_load_of_scope options h hscope, ?_, fun _ => rfl⟩
    rw [Element.crossingChildren, if_pos hscope]
    refine (repetitions_build options o.memberKinds e (e.word "name")).imp fun child p hp => ?_
    rwa [Element.SaysChildRepeated, if_pos hscope]
  | false =>
    obtain rfl : o = .link := by
      cases o <;> simp_all [Kind.isScope, Kind.memberKinds]
    refine ⟨_, ?_, reports_of_link options h, by simp⟩
    rw [innerRepetitions_link, List.nil_append]

/-- **Children are kept or reported.** The members of a kind are, in order, loaded from the
children of the kind that have no name or are the first of theirs; so a member that has a name is
found under it. Besides what is reported inside the children, each child that is left out is
reported as a repetition once. In a scope it is the graph that reports it, after the kept children
that repeat a name across kinds; and the graph reports as many repetitions as names are given
beyond the distinct ones. -/
theorem children_kept_or_reported (options : Options) (o : Kind) (e : Element)
    (h : e.name = o.tag) (ho : o.memberKinds ≠ []) :
    let x := (fresh o).load options e
    (∀ k ∈ o.memberKinds, ∃ es, x.value.members? k = some es ∧
      es = (firstUses (·.word "name") (e.named k.tag)).map
        (fun c => (loaded options k c).inScope x.value.graph?) ∧
      ∀ i y, byIndex? es i = some y → y.name ≠ "" →
        es.findIdx? (·.name == y.name) = some i.toNat ∧ byName? es y.name = some y) ∧
    ∃ reported, repetitions x.problems = innerRepetitions options o.memberKinds e ++ reported ∧
      List.Forall₂ (e.SaysChildRepeated options o)
        (e.crossingChildren o ++ e.leftOutChildren o.memberKinds) reported ∧
      (o.isScope = true → ∃ g, x.value.graph? = some g ∧ repetitions g.problems = reported ∧
        reported.length + ((e.childNames o.memberKinds).filter (· ≠ "")).dedup.length =
          ((e.childNames o.memberKinds).filter (· ≠ "")).length) := by
  intro x
  refine ⟨fun k hk => ?_, ?_⟩
  · have hmembers := members?_loaded options h hk
    exact ⟨_, hmembers, rfl, fun i y hi hn => byName?_of_byIndex? h hk hmembers hi hn⟩
  · obtain ⟨reported, hproblems, hreports, hgraph⟩ := exists_reported options h ho
    refine ⟨reported, hproblems, hreports, fun hscope => ?_⟩
    refine ⟨_, graph?_loaded options h hscope, (hgraph hscope).symm, ?_⟩
    have hcount := FrameGraph.length_filter_repeated (e.scopeRecords options o.memberKinds)
      (e.word "name")
    have hnames := (e.map_name_scopeRecords options o.memberKinds).filter (· ≠ "")
    rw [hgraph hscope, ← hnames.dedup.length_eq, ← hnames.length_eq]
    exact hcount

/-- A model with six names given to its children, two of them distinct, and a nameless link. -/
def crowd : Element :=
  { name := "model"
    attributes := [("name", "m")]
    children :=
      [{ name := "link", attributes := [("name", "a")] },
       { name := "joint", attributes := [("name", "a")] },
       { name := "link" },
       { name := "link", attributes := [("name", "a")] },
       { name := "link", attributes := [("name", "b")] },
       { name := "frame", attributes := [("name", "b")] },
       { name := "frame", attributes := [("name", "b")] }] }

theorem children_of_crowd : crowd.name = Kind.model.tag ∧ Kind.model.memberKinds ≠ [] ∧
    crowd.leftOutChildren Kind.model.memberKinds ≠ [] ∧ crowd.crossingChildren .model ≠ [] ∧
    ∃ g, ((fresh .model).load {} crowd).value.graph? = some g ∧
      (repetitions g.problems).length = 4 := by
  obtain ⟨-, reported, -, -, hscope⟩ :=
    children_kept_or_reported {} .model crowd (by decide) (by decide)
  obtain ⟨g, hgraph, hreported, hcount⟩ := hscope (by decide)
  have hgiven : ((crowd.childNames Kind.model.memberKinds).filter (· ≠ "")).length = 6 := by decide
  have hdistinct :
      ((crowd.childNames Kind.model.memberKinds).filter (· ≠ "")).dedup.length = 2 := by decide
  rw [← hreported, hgiven, hdistinct] at hcount
  refine ⟨by decide, by decide, ?_, ?_, g, hgraph, by omega⟩
  · exact fun h => absurd (congrArg List.length h) (by decide)
  · exact fun h => absurd (congrArg List.length h) (by decide)

end Entity

end SceneFrames
