import SceneFrames.Proofs.Frame.Relative

/-!
Where two chains meet.

The climbs of two nodes have no frame in common below the frame where they meet, and from there on
they are one climb. The root poses of the two nodes therefore begin with the same composition. In
exact arithmetic it cancels in the pose of one node in the other, which is left with the frames
below the meeting point: whatever the frames above it declare, and the frames off both chains,
makes no difference.
-/

namespace SceneFrames

open Ascent LawfulRigidMotion RigidMotion

variable {P : Type} {frames records : List (FrameRecord P)} {r : FrameRecord P}
  {rs ss below below' above : List (FrameRecord P)} {x y scope : String}

/-! ### Meeting -/

/-- The node at the lower end of a climb. -/
def bottom : List (FrameRecord P) → String
  | [] => ""
  | r :: _ => r.name

@[simp] lemma bottom_nil : bottom ([] : List (FrameRecord P)) = "" := rfl
@[simp] lemma bottom_cons : bottom (r :: rs) = r.name := rfl

lemma Climbs.bottom_eq (h : Climbs frames x rs) : bottom rs = x := by
  cases h with
  | root => rfl
  | step found _ _ => exact name_of_findFrame found

lemma exists_cons_bottom (rs : List (FrameRecord P)) :
    ∃ rest, rs.map (·.name) ++ [""] = bottom rs :: rest := by
  cases rs with
  | nil => exact ⟨[], rfl⟩
  | cons r rs => exact ⟨_, rfl⟩

/-- The nodes of a chain are distinct. -/
lemma Climbs.nodup_chain (hd : DistinctNodes frames) (h : Climbs frames x rs) :
    (rs.map (·.name) ++ [""]).Nodup := by
  refine (h.nodup hd).append (List.nodup_singleton _) (List.disjoint_singleton.mpr fun hroot => ?_)
  exact (List.nodup_cons.mp hd).1 (List.map_subset _ h.subset hroot)

/-- Two climbs run apart, and then together. -/
structure Meet (rs ss below below' above : List (FrameRecord P)) : Prop where
  left : rs = below ++ above
  right : ss = below' ++ above
  apart : ∀ r ∈ below, r ∉ below'

/-- **Two climbs meet**, at a frame or at the root. -/
theorem exists_meet (hd : DistinctNodes frames) (hr : Climbs frames x rs)
    (hs : Climbs frames y ss) : ∃ below below' above, Meet rs ss below below' above := by
  induction hr with
  | root => exact ⟨[], ss, [], rfl, by simp, by simp⟩
  | @step name r rs found stands climb ih =>
    by_cases hmem : r ∈ ss
    · -- from a frame that both pass there is one climb
      obtain ⟨below', rest, rfl⟩ := List.append_of_mem hmem
      have hname := name_of_findFrame found
      have hclimb : Climbs frames r.name (r :: rs) := hname ▸ .step found stands climb
      obtain rfl := (List.cons.inj (hclimb.unique hd hs.drop)).2
      exact ⟨[], below', r :: rs, rfl, rfl, by simp⟩
    · obtain ⟨below, below', above, rfl, rfl, hapart⟩ := ih
      refine ⟨r :: below, below', above, rfl, rfl, List.forall_mem_cons.mpr ⟨?_, hapart⟩⟩
      exact fun hr' => hmem (List.mem_append_left above hr')

/-- What is before the meeting point is what is met before anything of the other chain. -/
lemma takeWhile_apart {up down rest : List String} {m : String}
    (hapart : ∀ a ∈ up, a ∉ down ++ m :: rest) :
    (up ++ m :: rest).takeWhile (fun n => !(down ++ m :: rest).contains n) = up := by
  rw [List.takeWhile_append_of_pos (by simpa using hapart), List.takeWhile_cons_of_neg (by simp),
    List.append_nil]

namespace Meet

lemma symm (h : Meet rs ss below below' above) : Meet ss rs below' below above :=
  ⟨h.right, h.left, fun r hr hr' => h.apart r hr' hr⟩

/-- No frame below the meeting point is on the other chain. -/
lemma name_notMem (hd : DistinctNodes frames) (h : Meet rs ss below below' above)
    (hr : Climbs frames x rs) (hs : Climbs frames y ss) (hbelow : r ∈ below) :
    r.name ∉ ss.map (·.name) ++ [""] := by
  obtain ⟨rfl, rfl, hapart⟩ := h
  have hnd := hr.nodup_chain hd
  rw [List.map_append, List.append_assoc] at hnd ⊢
  rw [List.mem_append]
  rintro (hside | hup)
  · obtain ⟨s, hs', hsr⟩ := List.mem_map.mp hside
    obtain rfl := List.inj_on_of_nodup_map (List.nodup_cons.mp hd).2
      (hs.subset (List.mem_append_left above hs')) (hr.subset (List.mem_append_left above hbelow))
      hsr
    exact hapart s hbelow hs'
  · exact List.disjoint_of_nodup_append hnd (List.mem_map_of_mem hbelow) hup

/-- Where two climbs meet, the chains have a node in common, and none below it. -/
lemma exists_fork (hd : DistinctNodes frames) (h : Meet rs ss below below' above)
    (hr : Climbs frames x rs) (hs : Climbs frames y ss) : ∃ rest,
    rs.map (·.name) ++ [""] = below.map (·.name) ++ bottom above :: rest ∧
      ss.map (·.name) ++ [""] = below'.map (·.name) ++ bottom above :: rest ∧
      (∀ a ∈ below.map (·.name), a ∉ below'.map (·.name) ++ bottom above :: rest) ∧
      ∀ a ∈ below'.map (·.name), a ∉ below.map (·.name) ++ bottom above :: rest := by
  have hapart := fun r => h.name_notMem hd hr hs (r := r)
  have hapart' := fun r => h.symm.name_notMem hd hs hr (r := r)
  obtain ⟨rfl, rfl, -⟩ := h
  obtain ⟨rest, htop⟩ := exists_cons_bottom above
  simp only [List.map_append, List.append_assoc, htop] at hapart hapart' ⊢
  exact ⟨rest, rfl, rfl, List.forall_mem_map.mpr hapart, List.forall_mem_map.mpr hapart'⟩

end Meet

lemma Climbs.mem_nodes (h : Climbs frames x rs) : x ∈ "" :: frames.map (·.name) := by
  cases h with
  | root => exact List.mem_cons_self
  | step found _ _ =>
    exact List.mem_cons_of_mem _ (List.mem_map.mpr
      ⟨_, List.mem_of_find?_eq_some found, name_of_findFrame found⟩)

/-! ### Other poses for the same frames -/

section Reposed

variable {repose : FrameRecord P → P}

/-- The record with another pose. -/
def reposed (repose : FrameRecord P → P) (r : FrameRecord P) : FrameRecord P :=
  { r with pose := repose r }

@[simp] lemma name_reposed : (reposed repose r).name = r.name := rfl
@[simp] lemma pose_reposed : (reposed repose r).pose = repose r := rfl

@[simp] lemma map_name_reposed :
    (records.map (reposed repose)).map (·.name) = records.map (·.name) := by
  simp

lemma DeclareTree.reposed (h : DeclareTree records) (repose : FrameRecord P → P) :
    DeclareTree (records.map (reposed repose)) where
  distinct := by
    rw [map_name_reposed]
    exact h.distinct
  resolved := by
    rw [List.forall_mem_map]
    intro r hr hn
    refine (h.resolved r hr hn).imp_right ?_
    rintro ⟨s, hs, hname⟩
    exact ⟨_, List.mem_map_of_mem hs, hname⟩
  grounded := by
    rw [List.forall_mem_map]
    intro r hr hn
    refine Relation.ReflTransGen.mono ?_ _ _ (h.grounded r hr hn)
    rintro a b ⟨s, hs, hname⟩
    exact ⟨_, List.mem_map_of_mem hs, hname⟩

/-- Frames do not depend on the poses that they declare. -/
lemma frames_reposed : (insertRecords scope (records.map (reposed repose))).1 =
    (insertRecords scope records).1.map (reposed repose) := by
  rw [(insertRecords_uses scope _).1, (insertRecords_uses scope _).1, firstUses_map,
    List.filter_map]
  rfl

lemma findFrame_reposed :
    findFrame (frames.map (reposed repose)) x = (findFrame frames x).map (reposed repose) :=
  List.find?_map

lemma baseOf?_reposed : baseOf? (frames.map (reposed repose)) = baseOf? frames := by
  funext name
  simp only [baseOf?, isNode, findFrame_reposed, Option.isSome_map, Option.bind_map]
  rfl

lemma Climbs.reposed (h : Climbs frames x rs) (repose : FrameRecord P → P) :
    Climbs (frames.map (SceneFrames.reposed repose)) x (rs.map (SceneFrames.reposed repose)) := by
  induction h with
  | root => exact .root
  | step found stands _ ih =>
    refine .step ?_ ?_ ih
    · rw [findFrame_reposed, found]
      rfl
    · rw [baseOf?_reposed]
      exact stands

end Reposed

/-! ### Poses over the meeting point -/

variable [RigidMotion P]

lemma poseAlong_reposed {repose : FrameRecord P → P} (h : ∀ r ∈ rs, repose r = r.pose) :
    poseAlong (rs.map (reposed repose)) = poseAlong rs := by
  induction rs with
  | nil => rfl
  | cons r rs ih =>
    obtain ⟨hr, hrs⟩ := List.forall_mem_cons.mp h
    rw [List.map_cons, poseAlong_cons, poseAlong_cons, ih hrs, pose_reposed, hr]

lemma poseAlong_append [LawfulRigidMotion P] :
    poseAlong (below ++ above) = compose (poseAlong above) (poseAlong below) := by
  induction below with
  | nil => exact (compose_identity _).symm
  | cons r below ih => rw [List.cons_append, poseAlong_cons, ih, poseAlong_cons, compose_assoc]

namespace FrameGraph

variable {g : FrameGraph P} {traverse : List (FrameRecord P) → Traversal}

lemma IsTree.find?_of_climbs (h : g.IsTree) (hr : Climbs g.frames x rs) :
    g.rootPoses.find? x = some (poseAlong rs) := by
  obtain ⟨rs', hr', hp⟩ := h.find?_rootPoses hr.mem_nodes
  rw [hp, hr'.unique h.distinct hr]

/-- In exact arithmetic what two climbs share cancels. -/
lemma IsTree.pose_of_climbs [LawfulRigidMotion P] (h : g.IsTree)
    (hr : Climbs g.frames x (below ++ above)) (hs : Climbs g.frames y (below' ++ above)) :
    g.pose x y = .ok (compose (inverse (poseAlong below')) (poseAlong below)) := by
  rw [h.pose_eq (h.find?_of_climbs hr) (h.find?_of_climbs hs), poseAlong_append,
    poseAlong_append, inverse_compose_rev, compose_assoc, inverse_compose_cancel]

/-- The pose of one node in another does not depend on what is declared where their climbs have
come together, or off both. -/
lemma pose_reposed_of_climbs [LawfulRigidMotion P] {records : List (FrameRecord P)}
    {repose : FrameRecord P → P} (htraverse : Traverses traverse)
    (hvalid : (buildAlong traverse records scope).valid = true)
    (hr : Climbs (buildAlong traverse records scope).frames x (below ++ above))
    (hs : Climbs (buildAlong traverse records scope).frames y (below' ++ above))
    (hkept : ∀ r ∈ below ++ below', repose r = r.pose) :
    (buildAlong traverse (records.map (reposed repose)) scope).pose x y =
      (buildAlong traverse records scope).pose x y := by
  have hvalid' : (buildAlong traverse (records.map (reposed repose)) scope).valid = true :=
    (valid_iff_declareTree ..).mpr (((valid_iff_declareTree ..).mp hvalid).reposed repose)
  have hframes : (buildAlong traverse (records.map (reposed repose)) scope).frames =
      (buildAlong traverse records scope).frames.map (reposed repose) := frames_reposed
  have hr' := hr.reposed repose
  have hs' := hs.reposed repose
  rw [List.map_append, ← hframes] at hr' hs'
  rw [(isTree_of_traverses htraverse hvalid').pose_of_climbs hr' hs',
    (isTree_of_traverses htraverse hvalid).pose_of_climbs hr hs,
    poseAlong_reposed fun r h => hkept r (List.mem_append_left _ h),
    poseAlong_reposed fun r h => hkept r (List.mem_append_right _ h)]

/-- **The relative pose is that of the connecting path.** The chains of two frames meet in a
lowest common frame. In exact arithmetic the pose of the one in the other composes what is declared
on its way down from the meeting point, after the inverse of what is declared on the way down to
the other. So it stays as it is when poses change of frames that are on both chains or on
neither. -/
theorem pose_from_meeting [LawfulRigidMotion P] (htraverse : Traverses traverse)
    (records : List (FrameRecord P)) (scope : String) :
    let g := buildAlong traverse records scope
    g.valid = true → ∀ s ∈ g.nodes, ∀ t ∈ g.nodes,
      ∃ (below below' : List (FrameRecord P)) (m : String) (above : List String),
        (∀ r ∈ below ++ below', r ∈ records ∧ r.name ≠ "") ∧
        g.chain s = .ok (below.map (·.name) ++ m :: above) ∧
        g.chain t = .ok (below'.map (·.name) ++ m :: above) ∧
        (∀ r ∈ below, r.name ∉ below'.map (·.name) ++ m :: above) ∧
        (∀ r ∈ below', r.name ∉ below.map (·.name) ++ m :: above) ∧
        g.pose s t = .ok (compose
          (inverse ((below'.reverse.map (·.pose)).foldl compose identity))
          ((below.reverse.map (·.pose)).foldl compose identity)) ∧
        ∀ repose : FrameRecord P → P,
          (∀ r ∈ records, repose r ≠ r.pose →
            (r.name ∈ below.map (·.name) ++ m :: above ↔
              r.name ∈ below'.map (·.name) ++ m :: above)) →
          (buildAlong traverse (records.map (reposed repose)) scope).pose s t = g.pose s t := by
  intro g hvalid s hs t ht
  have htree : g.IsTree := isTree_of_traverses htraverse hvalid
  obtain ⟨rs, hrs, -⟩ := htree.find?_rootPoses hs
  obtain ⟨ss, hss, -⟩ := htree.find?_rootPoses ht
  obtain ⟨below, below', above, hmeet⟩ := exists_meet htree.distinct hrs hss
  obtain ⟨rest, hup, hdown, hapart, hapart'⟩ := hmeet.exists_fork htree.distinct hrs hss
  rw [List.forall_mem_map] at hapart hapart'
  have hchain := htree.chain_eq hrs (htree.find?_of_climbs hrs)
  have hchain' := htree.chain_eq hss (htree.find?_of_climbs hss)
  rw [hup] at hchain
  rw [hdown] at hchain'
  obtain ⟨rfl, rfl, -⟩ := hmeet
  have hdeclared : ∀ r ∈ below ++ below', r ∈ records ∧ r.name ≠ "" := by
    intro r hr
    refine mem_of_mem_insertRecords (?_ : r ∈ g.frames)
    rcases List.mem_append.mp hr with hr' | hr'
    · exact hrs.subset (List.mem_append_left above hr')
    · exact hss.subset (List.mem_append_left above hr')
  refine ⟨below, below', bottom above, rest, hdeclared, hchain, hchain', hapart, hapart',
    htree.pose_of_climbs hrs hss, fun repose hrepose => ?_⟩
  refine pose_reposed_of_climbs htraverse hvalid hrs hss fun r hr => ?_
  -- a frame below the meeting point is on one chain only, so it keeps its pose
  by_contra hne
  have hiff := hrepose r (hdeclared r hr).1 hne
  rcases List.mem_append.mp hr with hr' | hr'
  · exact hapart r hr' (hiff.mp (List.mem_append_left _ (List.mem_map_of_mem hr')))
  · exact hapart' r hr' (hiff.mpr (List.mem_append_left _ (List.mem_map_of_mem hr')))

/-- A camera on the arm of the workcell, beside the gripper. -/
noncomputable def camera : FrameRecord UnitPose :=
  { name := "camera", pose := ⟨⟨⟨0, 1, 0⟩, ⟨0, 1, 0, 0⟩⟩, by simp [Quaternion.normSq_eq]⟩,
    relativeTo := "arm" }

/-- The arm is folded, and everything else stays as it is. -/
noncomputable def armFolded (r : FrameRecord UnitPose) : UnitPose :=
  if r.name = "arm" then identity else r.pose

theorem pose_camera : (build (camera :: workcell) "cell").valid = true ∧
    (∃ gripper ∈ workcell, gripper.name = "gripper" ∧
      (build (camera :: workcell) "cell").pose "gripper" "camera" =
        .ok (compose (inverse (compose identity camera.pose)) (compose identity gripper.pose))) ∧
    (build ((camera :: workcell).map (reposed armFolded)) "cell").pose "gripper" "camera" =
      (build (camera :: workcell) "cell").pose "gripper" "camera" := by
  have hvalid : (build (camera :: workcell) "cell").valid = true := by decide +kernel
  obtain ⟨below, below', m, above, hdeclared, hgripper, hcamera, hapart, hapart', hpose,
    hreposed⟩ := pose_from_meeting traverses_depthFirst (camera :: workcell) "cell" hvalid
      "gripper" (by decide +kernel) "camera" (by decide +kernel)
  have hup : below.map (·.name) ++ m :: above = ["gripper", "arm", ""] :=
    Except.ok.inj (hgripper.symm.trans (by decide +kernel))
  have hdown : below'.map (·.name) ++ m :: above = ["camera", "arm", ""] :=
    Except.ok.inj (hcamera.symm.trans (by decide +kernel))
  have hbelow : below.map (·.name) = ["gripper"] := by
    rw [← takeWhile_apart (List.forall_mem_map.mpr hapart), hup, hdown]
    decide
  have hbelow' : below'.map (·.name) = ["camera"] := by
    rw [← takeWhile_apart (List.forall_mem_map.mpr hapart'), hup, hdown]
    decide
  obtain ⟨gripper, rfl, hgname⟩ := List.map_eq_singleton_iff.mp hbelow
  obtain ⟨r, rfl, hrname⟩ := List.map_eq_singleton_iff.mp hbelow'
  obtain rfl : r = camera := by
    have hmem := (hdeclared r (by simp)).1
    simp only [workcell, List.mem_cons, List.not_mem_nil, or_false] at hmem
    rcases hmem with rfl | rfl | rfl | rfl <;> simp_all
  refine ⟨hvalid, ⟨gripper, ?_, hgname, hpose⟩, hreposed armFolded fun r _ hmoved => ?_⟩
  · refine (List.mem_cons.mp (hdeclared gripper (by simp)).1).resolve_left ?_
    rintro rfl
    simp [camera] at hgname
  · -- only the arm is moved, and it is on both chains
    have harm : r.name = "arm" := by
      by_contra hne
      exact hmoved (if_neg hne)
    rw [hup, hdown, harm]
    decide

end FrameGraph

end SceneFrames
