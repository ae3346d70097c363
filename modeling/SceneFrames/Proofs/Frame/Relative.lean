import SceneFrames.Proofs.Frame.RootPose
import SceneFrames.Proofs.Geometry.RigidMotion

/-!
The poses of frames in one another.

In exact arithmetic the answers of a valid graph fit together: they are differences of root
poses, and the difference between the root poses of a frame and of its base is what the frame
declares.
-/

namespace SceneFrames

open Ascent LawfulRigidMotion RigidMotion

variable {P : Type} [RigidMotion P]

namespace FrameGraph

variable {records : List (FrameRecord P)} {scope : String} {r : FrameRecord P}

/-- In a valid graph the climb of a named record runs over its base. -/
lemma climbs_of_mem (hvalid : (build records scope).valid = true) (hr : r ∈ records)
    (hn : r.name ≠ "") {rs : List (FrameRecord P)}
    (hclimb : Climbs (build records scope).frames r.relativeTo rs) :
    Climbs (build records scope).frames r.name (r :: rs) := by
  have htree := (valid_iff_declareTree depthFirst records scope).mp hvalid
  have hfound : findFrame (build records scope).frames r.name = some r :=
    (findFrame_insertRecords scope records r.name).trans
      (firstRecord?_of_mem htree.distinct hr hn)
  have hstands : StandsOn (baseOf? (build records scope).frames) r.name r.relativeTo := by
    rw [build, buildAlong_frames, baseOf?_insertRecords]
    exact htree.standsOn ⟨r, hr, hn, rfl, rfl⟩
  exact .step hfound hstands hclimb

/-- The root pose of a frame is that of its base, composed with what the frame declares. -/
lemma rootPose_of_base (hvalid : (build records scope).valid = true) (hr : r ∈ records)
    (hn : r.name ≠ "") : ∃ p, (build records scope).rootPoses.find? r.relativeTo = some p ∧
      (build records scope).rootPoses.find? r.name = some (compose p r.pose) := by
  have htree := isTree_build hvalid
  have hresolved := ((valid_iff_declareTree depthFirst records scope).mp hvalid).resolved r hr hn
  have hname : r.name ∈ (build records scope).nodes :=
    mem_nodes_buildAlong.mpr (Or.inr ⟨r, hr, rfl⟩)
  have hbase : r.relativeTo ∈ (build records scope).nodes :=
    mem_nodes_buildAlong.mpr (isDeclared_iff_named.mpr hresolved)
  obtain ⟨rs, hclimb, hp⟩ := htree.find?_rootPoses hbase
  obtain ⟨ss, hclimb', hq⟩ := htree.find?_rootPoses hname
  refine ⟨poseAlong rs, hp, ?_⟩
  rw [hq, hclimb'.unique htree.distinct (climbs_of_mem hvalid hr hn hclimb), poseAlong_cons]

/-! ### What a query comes to -/

/-- A graph with problems answers with all of them. -/
lemma pose_of_faulty {g : FrameGraph P} (h : g.problems ≠ []) (x y : String) :
    g.pose x y = .error (.faultyGraph g.scope g.problems) := by
  have hvalid : g.valid = false := by simpa [valid] using h
  simp only [pose, requireValid, hvalid]
  rfl

/-- A valid graph answers that it has no frame of a name that is not declared. -/
lemma pose_of_undeclared {x y : String} (hvalid : (build records scope).valid = true)
    (hx : IsDeclared records x) (hy : ¬ IsDeclared records y) :
    (build records scope).pose x y = .error (.unknownFrame scope y) := by
  have htree := isTree_build hvalid
  obtain ⟨rs, -, hp⟩ := htree.find?_rootPoses (mem_nodes_buildAlong.mpr hx)
  have hnone := htree.find?_eq_none (mt mem_nodes_buildAlong.mp hy)
  simp only [pose, requireValid, hvalid, rootPose, hp, hnone]
  rfl

/-- A valid graph answers for a record with what the record declares, over the root pose of the
base, as seen from a declared frame. -/
lemma pose_of_mem {y : String} (hvalid : (build records scope).valid = true) (hr : r ∈ records)
    (hn : r.name ≠ "") (hy : IsDeclared records y) :
    ∃ b q, (build records scope).rootPose r.relativeTo = .ok b ∧
      (build records scope).rootPose y = .ok q ∧
      (build records scope).pose r.name y = .ok (compose (inverse q) (compose b r.pose)) := by
  have htree := isTree_build hvalid
  obtain ⟨b, hb, hp⟩ := rootPose_of_base hvalid hr hn
  obtain ⟨rs, -, hq⟩ := htree.find?_rootPoses (mem_nodes_buildAlong.mpr hy)
  refine ⟨b, poseAlong rs, ?_, ?_, htree.pose_eq hp hq⟩
  · rw [rootPose, hb]
  · rw [rootPose, hq]

/-! ### Exact arithmetic -/

/-- **Relative poses.** In a valid graph a frame stands in itself as the identity, two frames
stand in one another as opposites, poses compose over any third frame, and a frame stands in
its base as its record declares. -/
theorem pose_consistent [LawfulRigidMotion P] (records : List (FrameRecord P))
    (scope : String) :
    let g := build records scope
    g.valid = true →
      (∀ x ∈ g.nodes, g.pose x x = .ok identity) ∧
      (∀ x ∈ g.nodes, ∀ y ∈ g.nodes, ∃ p,
        g.pose y x = .ok p ∧ g.pose x y = .ok (inverse p)) ∧
      (∀ x ∈ g.nodes, ∀ y ∈ g.nodes, ∀ z ∈ g.nodes, ∃ p q,
        g.pose x y = .ok p ∧ g.pose y z = .ok q ∧ g.pose x z = .ok (compose q p)) ∧
      ∀ r ∈ records, r.name ≠ "" → g.pose r.name r.relativeTo = .ok r.pose := by
  intro g hvalid
  have htree := isTree_build hvalid
  refine ⟨fun x hx => ?_, fun x hx y hy => ?_, fun x hx y hy z hz => ?_, fun r hr hn => ?_⟩
  · obtain ⟨rs, -, hp⟩ := htree.find?_rootPoses hx
    rw [htree.pose_eq hp hp, inverse_compose]
  · obtain ⟨rs, -, hp⟩ := htree.find?_rootPoses hx
    obtain ⟨ss, -, hq⟩ := htree.find?_rootPoses hy
    refine ⟨_, htree.pose_eq hq hp, ?_⟩
    rw [htree.pose_eq hp hq, inverse_inverse_compose]
  · obtain ⟨rs, -, hp⟩ := htree.find?_rootPoses hx
    obtain ⟨ss, -, hq⟩ := htree.find?_rootPoses hy
    obtain ⟨ts, -, ht⟩ := htree.find?_rootPoses hz
    refine ⟨_, _, htree.pose_eq hp hq, htree.pose_eq hq ht, ?_⟩
    rw [htree.pose_eq hp ht, compose_assoc, compose_inverse_cancel]
  · obtain ⟨p, hp, hq⟩ := rootPose_of_base hvalid hr hn
    rw [htree.pose_eq hq hp, inverse_compose_cancel]

/-- A gripper turned half way round on an arm, and a table beside the arm. -/
noncomputable def workcell : List (FrameRecord UnitPose) :=
  [{ name := "gripper", pose := ⟨⟨⟨0, 0, 1⟩, ⟨0, 0, 1, 0⟩⟩, by simp [Quaternion.normSq_eq]⟩,
      relativeTo := "arm" },
   { name := "arm", pose := ⟨⟨⟨2, 0, 0⟩, ⟨1, 0, 0, 0⟩⟩, by simp [Quaternion.normSq_eq]⟩ },
   { name := "table", pose := ⟨⟨⟨0, 3, 0⟩, ⟨0, 0, 0, 1⟩⟩, by simp [Quaternion.normSq_eq]⟩ }]

theorem pose_workcell : (build workcell "cell").valid = true ∧
    (∃ p q, (build workcell "cell").pose "gripper" "arm" = .ok p ∧
      (build workcell "cell").pose "arm" "table" = .ok q ∧
      (build workcell "cell").pose "gripper" "table" = .ok (compose q p)) ∧
    ∀ r ∈ workcell, (build workcell "cell").pose r.name r.relativeTo = .ok r.pose := by
  have hvalid : (build workcell "cell").valid = true := by decide +kernel
  have hnamed : ∀ r ∈ workcell, r.name ≠ "" := by simp [workcell]
  obtain ⟨-, -, hover, hdeclared⟩ := pose_consistent workcell "cell" hvalid
  exact ⟨hvalid, hover "gripper" (by decide +kernel) "arm" (by decide +kernel) "table"
    (by decide +kernel), fun r hr => hdeclared r hr (hnamed r hr)⟩

end FrameGraph

end SceneFrames
