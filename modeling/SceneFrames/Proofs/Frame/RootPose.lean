import SceneFrames.Proofs.Frame.Traversal
import SceneFrames.Proofs.Frame.Validity

/-!
Root poses are the compositions of declared poses along the chains.

Resolution runs down the tree in the order of a traversal, while the specification climbs up
from each frame. What connects them is that every frame in the table has the pose along its
climb: a step of a traversal adds a frame whose base is in the table already, and the climb of
the frame is that of its base with one frame below. No law of composition is used, so the poses
agree as sequences of compositions.
-/

namespace SceneFrames

open Ascent

variable {P : Type} {frames : List (FrameRecord P)} {order : Traversal} {known : List String}
  {table : PoseTable P} {name base : String}

lemma PoseTable.find?_cons {p : P} {x : String} : PoseTable.find? ((name, p) :: table) x =
    if name = x then some p else PoseTable.find? table x := by
  by_cases h : name = x <;> simp [PoseTable.find?, h]

lemma PoseTable.find?_eq_none_iff : table.find? name = none ↔ name ∉ table.map (·.1) := by
  simp only [PoseTable.find?, Option.map_eq_none_iff, List.find?_eq_none, beq_iff_eq,
    List.mem_map, not_exists, not_and]

/-- On an edge stands the pose that the frame declares. -/
lemma declaredPose?_eq {r : FrameRecord P} (hf : findFrame frames name = some r)
    (hb : baseOf? frames name = some base) : declaredPose? frames name base = some r.pose := by
  simp [declaredPose?, hf, hb]

variable [RigidMotion P]

/-- The table holds the known nodes, each once and with the pose along its climb. -/
structure Resolved (frames : List (FrameRecord P)) (known : List String) (table : PoseTable P) :
    Prop where
  keys : table.map (·.1) = known
  poses : ∀ name ∈ known, ∃ rs, Climbs frames name rs ∧ table.find? name = some (poseAlong rs)

lemma resolved_root (frames : List (FrameRecord P)) :
    Resolved frames [""] [("", RigidMotion.identity)] where
  keys := rfl
  poses name h := by
    obtain rfl := List.mem_singleton.mp h
    exact ⟨[], .root, rfl⟩

/-- **One edge**: the frame gets the pose along its climb. -/
lemma Resolved.step (h : Resolved frames known table) (hbase : base ∈ known)
    (hedge : baseOf? frames name = some base) : ∃ table',
      resolveEdge frames table (base, name) = some table' ∧
        Resolved frames (name :: known) table' := by
  obtain ⟨rs, hclimb, hfind⟩ := h.poses base hbase
  obtain ⟨r, hr, rfl, -⟩ := baseOf?_eq_some_iff.mp hedge
  refine ⟨(name, RigidMotion.compose (poseAlong rs) r.pose) :: table, ?_, ?_, ?_⟩
  · simp [resolveEdge, hfind, declaredPose?_eq hr hedge]
  · rw [List.map_cons, h.keys]
  · intro x hx
    rw [PoseTable.find?_cons]
    by_cases hxn : name = x
    · subst hxn
      exact ⟨r :: rs, .step hr hedge hclimb, by simp⟩
    · rw [if_neg hxn]
      exact h.poses x ((List.mem_cons.mp hx).resolve_left (Ne.symm hxn))

/-- **All edges**: resolution does not fail, and resolves every frame that an edge leads to. -/
theorem Resolved.run (h : Resolved frames known table) (hfirst : BasesFirst known order)
    (hedges : ∀ e ∈ order, baseOf? frames e.2 = some e.1) : ∃ table',
      order.foldlM (resolveEdge frames) table = some table' ∧
        Resolved frames ((order.map (·.2)).reverse ++ known) table' := by
  induction order generalizing known table with
  | nil => exact ⟨table, rfl, h⟩
  | cons e order ih =>
    obtain ⟨table', hstep, h'⟩ := h.step hfirst.1 (hedges e (by simp))
    obtain ⟨table'', hrun, h''⟩ := ih h' hfirst.2 fun e he => hedges e (by simp [he])
    refine ⟨table'', ?_, by simpa using h''⟩
    rw [List.foldlM_cons, hstep]
    exact hrun

/-! ### Valid graphs -/

namespace FrameGraph

/-- A tree of frames whose table holds the pose along the climb of every node. -/
structure IsTree (g : FrameGraph P) : Prop where
  valid : g.valid = true
  distinct : DistinctNodes g.frames
  resolved : ∃ known, known.Perm g.nodes ∧ Resolved g.frames known g.rootPoses

section Build

variable {records : List (FrameRecord P)} {scope : String}
  {traverse : List (FrameRecord P) → Traversal}

/-- **Every valid graph is such a tree**, whatever the traversal. -/
theorem isTree_buildAlong (hvalid : (buildAlong traverse records scope).valid = true)
    (horder : IsTraversal (buildAlong traverse records scope).frames
      (traverse (buildAlong traverse records scope).frames)) :
    (buildAlong traverse records scope).IsTree := by
  have hd : DistinctNodes (buildAlong traverse records scope).frames :=
    nodup_insertRecords scope records
  have hleads : ∀ x ∈ (buildAlong traverse records scope).nodes,
      Leads (baseOf? (buildAlong traverse records scope).frames) x "" := by
    intro x hx
    rw [buildAlong_frames, baseOf?_insertRecords]
    exact ((valid_iff_declareTree traverse records scope).mp hvalid).leads_root
      (mem_nodes_buildAlong.mp hx)
  obtain ⟨table, hrun, hres⟩ := (resolved_root _).run horder.basesFirst horder.edges
  refine ⟨hvalid, hd, _, horder.perm_nodes hd hleads, ?_⟩
  have htable : (buildAlong traverse records scope).rootPoses = table := by
    rw [buildAlong_rootPoses hvalid, resolveAlong, hrun, Option.getD_some]
  rw [htable]
  exact hres

lemma isTree_of_traverses (htraverse : Traverses traverse)
    (hvalid : (buildAlong traverse records scope).valid = true) :
    (buildAlong traverse records scope).IsTree :=
  isTree_buildAlong hvalid (htraverse _ (nodup_insertRecords scope records))

lemma isTree_build (hvalid : (build records scope).valid = true) :
    (build records scope).IsTree :=
  isTree_buildAlong hvalid (isTraversal_depthFirst (nodup_insertRecords scope records))

end Build

/-! ### Queries -/

namespace IsTree

variable {g : FrameGraph P} {x y : String} {p q : P}

/-- Every node has the root pose along its climb. -/
lemma find?_rootPoses (h : g.IsTree) (hx : x ∈ g.nodes) :
    ∃ rs, Climbs g.frames x rs ∧ g.rootPoses.find? x = some (poseAlong rs) := by
  obtain ⟨known, hperm, hres⟩ := h.resolved
  exact hres.poses x (hperm.mem_iff.mpr hx)

lemma keys_perm (h : g.IsTree) : (g.rootPoses.map (·.1)).Perm g.nodes := by
  obtain ⟨known, hperm, hres⟩ := h.resolved
  rw [hres.keys]
  exact hperm

/-- No other name has a root pose. -/
lemma find?_eq_none (h : g.IsTree) (hx : x ∉ g.nodes) : g.rootPoses.find? x = none :=
  PoseTable.find?_eq_none_iff.mpr (mt h.keys_perm.mem_iff.mp hx)

lemma pose_eq (h : g.IsTree) (hp : g.rootPoses.find? x = some p)
    (hq : g.rootPoses.find? y = some q) :
    g.pose x y = .ok (RigidMotion.compose (RigidMotion.inverse q) p) := by
  simp only [pose, requireValid, h.valid, rootPose, hp, hq]
  rfl

/-- The chain of a node lists its climb and then the root. -/
lemma chainOf_eq {rs : List (FrameRecord P)} (h : g.IsTree) (hclimb : Climbs g.frames x rs) :
    g.chainOf x = rs.map (·.name) ++ [""] :=
  hclimb.follow_eq h.distinct _ (hclimb.length_le h.distinct)

lemma chain_eq (h : g.IsTree) {rs : List (FrameRecord P)} (hclimb : Climbs g.frames x rs)
    (hp : g.rootPoses.find? x = some p) : g.chain x = .ok (rs.map (·.name) ++ [""]) := by
  simp only [chain, requireValid, h.valid, rootPose, hp, ← h.chainOf_eq hclimb]
  rfl

end IsTree

/-- **Root poses.** In a valid graph every node is resolved once. Its root pose is the left fold
of the poses declared along its chain, from the top down; and the pose of one node in another
is its root pose after the inverse of the other's. This holds for whatever operations on poses,
and along whatever traversal of the tree. -/
theorem rootPose_eq_foldl (traverse : List (FrameRecord P) → Traversal)
    (records : List (FrameRecord P)) (scope : String) :
    let g := buildAlong traverse records scope
    g.valid = true → IsTraversal g.frames (traverse g.frames) →
      (g.rootPoses.map (·.1)).Perm g.nodes ∧
      (∀ x ∈ g.nodes, ∃ rs : List (FrameRecord P), (∀ r ∈ rs, r ∈ records ∧ r.name ≠ "") ∧
        g.chain x = .ok (rs.map (·.name) ++ [""]) ∧
        g.rootPoses.find? x =
          some ((rs.reverse.map (·.pose)).foldl RigidMotion.compose RigidMotion.identity)) ∧
      ∀ x ∈ g.nodes, ∀ y ∈ g.nodes, ∃ p q,
        g.rootPoses.find? x = some p ∧ g.rootPoses.find? y = some q ∧
        g.pose x y = .ok (RigidMotion.compose (RigidMotion.inverse q) p) := by
  intro g hvalid horder
  have htree := isTree_buildAlong hvalid horder
  refine ⟨htree.keys_perm, fun x hx => ?_, fun x hx y hy => ?_⟩
  · obtain ⟨rs, hclimb, hfind⟩ := htree.find?_rootPoses hx
    exact ⟨rs, fun r hr => mem_of_mem_insertRecords (hclimb.subset hr),
      htree.chain_eq hclimb hfind, hfind⟩
  · obtain ⟨rs, -, hp⟩ := htree.find?_rootPoses hx
    obtain ⟨ss, -, hq⟩ := htree.find?_rootPoses hy
    exact ⟨_, _, hp, hq, htree.pose_eq hp hq⟩

/-- Two branches below one frame, declared out of order, and a frame off the root. -/
def branches : List (FrameRecord (Pose Float)) :=
  [{ name := "C", pose := ⟨⟨1, 0, 0⟩, .aboutX 0.5⟩, relativeTo := "B" },
   { name := "A", pose := ⟨⟨0, 2, 0⟩, .aboutY 0.25⟩ },
   { name := "B", pose := ⟨⟨0, 0, 3⟩, .aboutZ 1.5⟩, relativeTo := "A" },
   { name := "D", pose := ⟨⟨4, 0, 0⟩, .aboutX 2.5⟩, relativeTo := "A" },
   { name := "E", pose := ⟨⟨0, 5, 0⟩, .aboutY 1.25⟩ }]

theorem rootPose_branches : (build branches "scene").valid = true ∧
    ∃ rs : List (FrameRecord (Pose Float)), (∀ r ∈ rs, r ∈ branches ∧ r.name ≠ "") ∧
      (build branches "scene").chain "C" = .ok (rs.map (·.name) ++ [""]) ∧
      (build branches "scene").rootPoses.find? "C" =
        some ((rs.reverse.map (·.pose)).foldl RigidMotion.compose RigidMotion.identity) := by
  have hvalid : (build branches "scene").valid = true := by decide +kernel
  have horder := isTraversal_depthFirst (nodup_insertRecords "scene" branches)
  exact ⟨hvalid, (rootPose_eq_foldl depthFirst branches "scene" hvalid horder).2.1 "C"
    (by decide +kernel)⟩

end FrameGraph

end SceneFrames
