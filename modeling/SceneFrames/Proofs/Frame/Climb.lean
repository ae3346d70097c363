import SceneFrames.Frame.Query
import SceneFrames.Proofs.Frame.Graph

/-!
The frames on the way from a node up to the root.

A frame that leads to the root has one climb to it, the list of the frames below the root on the
way, the lowest first. The chain of a node lists their names and then the root, and the pose
along a climb composes their declared poses from the top down.
-/

namespace SceneFrames

open Ascent Relation

variable {P : Type} {frames : List (FrameRecord P)} {r s : FrameRecord P}
  {rs ss : List (FrameRecord P)} {x y name base : String}

/-- The frames between a node and the root, the lowest first. -/
inductive Climbs (frames : List (FrameRecord P)) : String → List (FrameRecord P) → Prop
  | root : Climbs frames "" []
  | step {name : String} {r : FrameRecord P} {rs : List (FrameRecord P)}
      (found : findFrame frames name = some r)
      (stands : StandsOn (baseOf? frames) name r.relativeTo)
      (climb : Climbs frames r.relativeTo rs) : Climbs frames name (r :: rs)

/-- The names of the nodes are distinct. -/
def DistinctNodes (frames : List (FrameRecord P)) : Prop :=
  ("" :: frames.map (·.name)).Nodup

lemma baseOf?_eq_some_iff : baseOf? frames x = some y ↔
    ∃ r, findFrame frames x = some r ∧ r.relativeTo = y ∧ isNode frames y = true := by
  simp only [baseOf?, Option.bind_eq_some_iff, Option.ite_none_right_eq_some, Option.some.injEq]
  constructor
  · rintro ⟨r, hr, hnode, rfl⟩
    exact ⟨r, hr, rfl, hnode⟩
  · rintro ⟨r, hr, rfl, hnode⟩
    exact ⟨r, hr, hnode, rfl⟩

namespace DistinctNodes

lemma findFrame_root (h : DistinctNodes frames) : findFrame frames "" = none :=
  findFrame_eq_none_iff.mpr (List.nodup_cons.mp h).1

lemma baseOf?_root (h : DistinctNodes frames) : baseOf? frames "" = none := by
  simp [baseOf?, h.findFrame_root]

lemma findFrame_of_mem (h : DistinctNodes frames) (hr : r ∈ frames) :
    findFrame frames r.name = some r :=
  SceneFrames.findFrame_of_mem (List.nodup_cons.mp h).2 hr

/-- A frame stands on what it is relative to, if that is a node. -/
lemma standsOn (h : DistinctNodes frames) (hr : r ∈ frames)
    (hnode : isNode frames r.relativeTo = true) :
    StandsOn (baseOf? frames) r.name r.relativeTo :=
  baseOf?_eq_some_iff.mpr ⟨r, h.findFrame_of_mem hr, rfl, hnode⟩

end DistinctNodes

namespace Climbs

lemma eq_root (h : Climbs frames name []) : name = "" := by
  cases h
  rfl

lemma name_eq (h : Climbs frames name (r :: rs)) : r.name = name := by
  cases h with
  | step found _ _ => exact name_of_findFrame found

lemma tail (h : Climbs frames name (r :: rs)) : Climbs frames r.relativeTo rs := by
  cases h with
  | step _ _ climb => exact climb

lemma subset (h : Climbs frames name rs) : rs ⊆ frames := by
  induction h with
  | root => simp
  | step found _ _ ih => exact List.cons_subset.mpr ⟨List.mem_of_find?_eq_some found, ih⟩

/-- A node has one climb. -/
lemma unique (hd : DistinctNodes frames) (hr : Climbs frames name rs)
    (hs : Climbs frames name ss) : rs = ss := by
  induction hr generalizing ss with
  | root =>
    cases hs with
    | root => rfl
    | step found _ _ => simp [hd.findFrame_root] at found
  | step found _ _ ih =>
    cases hs with
    | root => simp [hd.findFrame_root] at found
    | step found' _ climb' =>
      obtain rfl := Option.some.inj (found.symm.trans found')
      rw [ih climb']

/-- Further up, a climb is the climb of a frame that it passes. -/
lemma drop {init : List (FrameRecord P)} (h : Climbs frames name (init ++ r :: rs)) :
    Climbs frames r.name (r :: rs) := by
  induction init generalizing name with
  | nil =>
    rw [h.name_eq]
    exact h
  | cons s init ih => exact ih h.tail

/-- A climb passes no frame twice. -/
lemma nodup (hd : DistinctNodes frames) (h : Climbs frames name rs) :
    (rs.map (·.name)).Nodup := by
  induction h with
  | root => simp
  | @step name r rs found stands climb ih =>
    refine List.nodup_cons.mpr ⟨fun hmem => ?_, ih⟩
    obtain ⟨s, hs, hsr⟩ := List.mem_map.mp hmem
    obtain ⟨init, rest, rfl⟩ := List.append_of_mem hs
    have hlow : Climbs frames name (r :: (init ++ s :: rest)) := .step found stands climb
    have hname : s.name = name := hsr.trans hlow.name_eq
    have hhigh : Climbs frames name (s :: rest) := hname ▸ climb.drop
    have hlen := congrArg List.length (hlow.unique hd hhigh)
    simp only [List.length_cons, List.length_append] at hlen
    omega

/-- A climb is no longer than there are frames. -/
lemma length_le (hd : DistinctNodes frames) (h : Climbs frames name rs) :
    rs.length ≤ frames.length :=
  ((h.nodup hd).of_map _ |>.subperm h.subset).length_le

end Climbs

/-- **What leads to the root has a climb.** -/
theorem exists_climbs (h : Leads (baseOf? frames) x "") : ∃ rs, Climbs frames x rs := by
  induction h using ReflTransGen.head_induction_on with
  | refl => exact ⟨[], .root⟩
  | head hxy _ ih =>
    obtain ⟨rs, hrs⟩ := ih
    obtain ⟨r, hr, rfl, -⟩ := baseOf?_eq_some_iff.mp hxy
    exact ⟨r :: rs, .step hr hxy hrs⟩

/-- Following the bases lists a climb and then the root. -/
lemma Climbs.follow_eq (hd : DistinctNodes frames) (h : Climbs frames name rs) (fuel : ℕ)
    (hfuel : rs.length ≤ fuel) :
    FrameGraph.follow (baseOf? frames) fuel name = rs.map (·.name) ++ [""] := by
  induction h generalizing fuel with
  | root => cases fuel <;> simp [FrameGraph.follow, hd.baseOf?_root]
  | @step name r rs found stands _ ih =>
    cases fuel with
    | zero => simp at hfuel
    | succ fuel =>
      have hbase : baseOf? frames name = some r.relativeTo := stands
      rw [FrameGraph.follow, hbase, Option.map_some, Option.getD_some,
        ih fuel (by simpa using hfuel), List.map_cons, name_of_findFrame found, List.cons_append]

/-! ### The pose along a climb -/

variable [RigidMotion P]

/-- The declared poses of a climb, composed from the top down. -/
def poseAlong (rs : List (FrameRecord P)) : P :=
  (rs.reverse.map (·.pose)).foldl RigidMotion.compose RigidMotion.identity

@[simp] lemma poseAlong_nil : poseAlong ([] : List (FrameRecord P)) = RigidMotion.identity := rfl

@[simp] lemma poseAlong_cons :
    poseAlong (r :: rs) = RigidMotion.compose (poseAlong rs) r.pose := by
  simp [poseAlong, List.foldl_append]

end SceneFrames
