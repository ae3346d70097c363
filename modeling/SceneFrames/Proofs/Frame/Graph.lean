import SceneFrames.Frame.Graph
import SceneFrames.Proofs.Frame.Insertion
import SceneFrames.Proofs.Frame.Marks

/-!
The graph of a list of records, read off the records.

Its nodes are the declared names, its edges run from the first record of a name to a declared
base, and its problems come in three blocks: repeated names, bases that are not declared, and
circles of bases.
-/

namespace SceneFrames

open Ascent

variable {P : Type} {scope : String} {frames records : List (FrameRecord P)} {r : FrameRecord P}
  {x y : String}

/-! ### Nodes and bases -/

lemma declaredBase?_eq_some_iff : declaredBase? records x = some y ↔
    ∃ r, firstRecord? records x = some r ∧ r.relativeTo = y ∧ IsDeclared records y := by
  simp only [declaredBase?, Option.bind_eq_some_iff, Option.ite_none_right_eq_some,
    Option.some.injEq]
  constructor
  · rintro ⟨r, hr, hdecl, rfl⟩
    exact ⟨r, hr, rfl, hdecl⟩
  · rintro ⟨r, hr, rfl, hdecl⟩
    exact ⟨r, hr, hdecl, rfl⟩

@[simp] lemma declaredBase?_root : declaredBase? records "" = none := by simp [declaredBase?]

/-- A base is declared. -/
lemma isDeclared_base (h : declaredBase? records x = some y) : IsDeclared records y := by
  obtain ⟨-, -, -, hdecl⟩ := declaredBase?_eq_some_iff.mp h
  exact hdecl

lemma mem_nodes_iff :
    x ∈ "" :: (insertRecords scope records).1.map (·.name) ↔ IsDeclared records x := by
  rw [← isNode_iff, isNode_insertRecords]

lemma encloses_nodes (scope : String) (records : List (FrameRecord P)) :
    Encloses ("" :: (insertRecords scope records).1.map (·.name)) (declaredBase? records) := by
  intro x y h
  obtain ⟨r, hr, -, -⟩ := declaredBase?_eq_some_iff.mp h
  exact mem_nodes_iff.mpr (Or.inr ⟨r, mem_of_firstRecord? hr, name_of_firstRecord? hr⟩)

/-! ### Circles -/

/-- The marks after walks from the root and from all frames. -/
lemma markAll_insertRecords : markAll (insertRecords scope records).1 =
    marksAfter (declaredBase? records) ((insertRecords scope records).1.length + 2)
      ("" :: (insertRecords scope records).1.map (·.name)) := by
  rw [← baseOf?_insertRecords scope]
  rfl

lemma length_nodes_lt (scope : String) (records : List (FrameRecord P)) :
    ("" :: (insertRecords scope records).1.map (·.name)).length <
      (insertRecords scope records).1.length + 2 := by
  simp

/-- From every declared name the root is reached, or is missed. -/
lemma leads_or_lost_of_isDeclared (hx : IsDeclared records x) :
    Leads (declaredBase? records) x "" ∨ Lost (declaredBase? records) x :=
  leads_or_lost (encloses_nodes "" records) (length_nodes_lt "" records) (mem_nodes_iff.mpr hx)

/-- The circles noted are all circles of bases, each once. -/
lemma noted_circles (scope : String) (records : List (FrameRecord P)) :
    ((markAll (insertRecords scope records).1).circles.map Cycle.ofList).Nodup ∧
      ∀ c, c ∈ (markAll (insertRecords scope records).1).circles.map Cycle.ofList ↔
        IsCircle (declaredBase? records) c := by
  have hen := encloses_nodes scope records
  have hfuel := length_nodes_lt scope records
  rw [markAll_insertRecords]
  refine ⟨(tracks_marksAfter hen hfuel _).distinct, fun c => ?_⟩
  rw [List.mem_map]
  exact exists_noted_iff hen hfuel declaredBase?_root c

lemma markAll_circles_eq_nil_iff : (markAll (insertRecords scope records).1).circles = [] ↔
    ∀ c, ¬ IsCircle (declaredBase? records) c := by
  rw [← List.map_eq_nil_iff (f := Cycle.ofList), List.eq_nil_iff_forall_not_mem]
  exact forall_congr' fun c => not_congr ((noted_circles scope records).2 c)

/-- No base is missing exactly when every frame has one. -/
lemma dangling_eq_nil_iff :
    (insertRecords scope records).1.filterMap
        (baseProblem? scope (insertRecords scope records).1) = [] ↔
      ∀ r ∈ (insertRecords scope records).1, IsDeclared records r.relativeTo := by
  simp [List.filterMap_eq_nil_iff, baseProblem?, isNode_insertRecords]

namespace FrameGraph

variable [RigidMotion P] {traverse : List (FrameRecord P) → Traversal}

/-! ### The parts of a graph -/

@[simp] lemma buildAlong_frames :
    (buildAlong traverse records scope).frames = (insertRecords scope records).1 := rfl

@[simp] lemma buildAlong_base? :
    (buildAlong traverse records scope).base? = declaredBase? records :=
  baseOf?_insertRecords scope records

lemma mem_nodes_buildAlong :
    x ∈ (buildAlong traverse records scope).nodes ↔ IsDeclared records x :=
  mem_nodes_iff

/-- A valid graph holds the root poses that the traversal resolves. -/
lemma buildAlong_rootPoses (hvalid : (buildAlong traverse records scope).valid = true) :
    (buildAlong traverse records scope).rootPoses =
      (resolveAlong (buildAlong traverse records scope).frames
        (traverse (buildAlong traverse records scope).frames)).getD [] :=
  if_pos hvalid

/-- The problems in their three blocks. -/
lemma buildAlong_problems : (buildAlong traverse records scope).problems =
    (insertRecords scope records).2 ++
      (insertRecords scope records).1.filterMap
        (baseProblem? scope (insertRecords scope records).1) ++
      (markAll (insertRecords scope records).1).circles.map (Problem.circle scope) := rfl

/-- **A graph is valid** when no name is repeated, no base is missing and no circle exists. -/
theorem valid_buildAlong_iff : (buildAlong traverse records scope).valid = true ↔
    ((records.map (·.name)).filter (· ≠ "")).Nodup ∧
      (∀ r ∈ (insertRecords scope records).1, IsDeclared records r.relativeTo) ∧
      ∀ c, ¬ IsCircle (declaredBase? records) c := by
  rw [valid, List.isEmpty_iff, buildAlong_problems, List.append_eq_nil_iff,
    List.append_eq_nil_iff, List.map_eq_nil_iff, insertRecords_problems_eq_nil_iff,
    dangling_eq_nil_iff, markAll_circles_eq_nil_iff, and_assoc]

end FrameGraph

end SceneFrames
