import SceneFrames.Proofs.Frame.Circles
import SceneFrames.Proofs.Frame.RootPose

/-!
The order in which frames are declared.

Records in another order are inserted in another order, and walks and the traversal visit the
frames in another order. What is asked of a graph does not show it: whether the records declare a
tree is said of them as a set; where names are distinct each name has one record, and so one climb
to the root; and the circles are those of the bases. So a valid graph answers alike, and a faulty
one reports the same bases and circles, if in another order.
-/

namespace SceneFrames

open Ascent Relation

variable {P : Type} {records records' frames frames' : List (FrameRecord P)} {x : String}

/-! ### Records -/

section Perm

variable (hp : records.Perm records')

include hp

lemma isDeclared_perm : IsDeclared records x ↔ IsDeclared records' x := by
  simp only [IsDeclared, hp.mem_iff]

lemma namesGiven_perm : ((records.map (·.name)).filter (· ≠ "")).Perm
    ((records'.map (·.name)).filter (· ≠ "")) :=
  (hp.map _).filter _

/-- Where names are distinct, the first record of a name is the only one. -/
lemma firstRecord?_perm (hnd : ((records.map (·.name)).filter (· ≠ "")).Nodup) :
    firstRecord? records = firstRecord? records' := by
  funext name
  cases h : firstRecord? records name with
  | some r =>
    have hnd' := (namesGiven_perm hp).nodup_iff.mp hnd
    have hr : r ∈ records' := hp.mem_iff.mp (mem_of_firstRecord? h)
    obtain rfl := name_of_firstRecord? h
    have hn : r.name ≠ "" := fun he => by simp [he] at h
    exact (firstRecord?_of_mem hnd' hr hn).symm
  | none =>
    have hnone := (firstRecord?_eq_none_iff.mp h).imp_right fun hx =>
      mt ((hp.map _).mem_iff.mpr) hx
    exact (firstRecord?_eq_none_iff.mpr hnone).symm

lemma declaredBase?_perm (hnd : ((records.map (·.name)).filter (· ≠ "")).Nodup) :
    declaredBase? records = declaredBase? records' := by
  funext name
  simp only [declaredBase?, firstRecord?_perm hp hnd, isDeclared_perm hp]

/-- A tree is declared in whatever order. -/
lemma DeclareTree.perm (h : DeclareTree records) : DeclareTree records' where
  distinct := (namesGiven_perm hp).nodup_iff.mp h.distinct
  resolved r hr hn := by
    refine (h.resolved r (hp.mem_iff.mpr hr) hn).imp_right ?_
    rintro ⟨s, hs, hname⟩
    exact ⟨s, hp.mem_iff.mp hs, hname⟩
  grounded r hr hn := by
    refine ReflTransGen.mono ?_ _ _ (h.grounded r (hp.mem_iff.mpr hr) hn)
    rintro a b ⟨s, hs, hname⟩
    exact ⟨s, hp.mem_iff.mp hs, hname⟩

end Perm

/-! ### Trees with the same frames -/

lemma baseOf?_congr (h : findFrame frames = findFrame frames') :
    baseOf? frames = baseOf? frames' := by
  funext name
  unfold baseOf? isNode
  rw [h]

lemma Climbs.congr {rs : List (FrameRecord P)} (h : findFrame frames = findFrame frames')
    (hclimb : Climbs frames x rs) : Climbs frames' x rs := by
  induction hclimb with
  | root => exact .root
  | step found stands _ ih => exact .step (h ▸ found) (baseOf?_congr h ▸ stands) ih

/-! ### Reports -/

section Reports

variable {scope : String}

/-- The named records whose bases are not declared. -/
def undeclaredBases (records : List (FrameRecord P)) : List (FrameRecord P) :=
  records.filter fun r => r.name ≠ "" ∧ ¬ IsDeclared records r.relativeTo

/-- The report that the base of a record is not declared. -/
def baseReport (scope : String) (r : FrameRecord P) : Problem :=
  .baseUnknown r.relativeTo r.kind r.name scope

lemma undeclaredBases_perm (hp : records.Perm records') :
    (undeclaredBases records).Perm (undeclaredBases records') := by
  have hsame : undeclaredBases records' =
      records'.filter fun r => r.name ≠ "" ∧ ¬ IsDeclared records r.relativeTo := by
    simp only [undeclaredBases, isDeclared_perm hp]
  rw [hsame]
  exact hp.filter _

/-- The first record of each name is reported if its base is not declared. -/
lemma dangling_eq (scope : String) (records : List (FrameRecord P)) :
    (insertRecords scope records).1.filterMap (baseProblem? scope (insertRecords scope records).1) =
      ((firstUses (·.name) records).filter fun r =>
        r.name ≠ "" ∧ ¬ IsDeclared records r.relativeTo).map (baseReport scope) := by
  have hreport (r : FrameRecord P) : baseProblem? scope (insertRecords scope records).1 r =
      if IsDeclared records r.relativeTo then none else some (baseReport scope r) := by
    simp only [baseProblem?, isNode_insertRecords, baseReport]
  rw [funext hreport, (insertRecords_uses scope records).1, ← List.filterMap_eq_map',
    List.filterMap_filter, List.filterMap_filter]
  refine List.filterMap_congr fun r _ => ?_
  by_cases hn : r.name = "" <;> by_cases hdecl : IsDeclared records r.relativeTo <;>
    simp [hn, hdecl]

/-- Where names are distinct, all named records become frames. -/
lemma insertRecords_of_nodup (scope : String)
    (hnd : ((records.map (·.name)).filter (· ≠ "")).Nodup) :
    (insertRecords scope records).1 = records.filter (·.name ≠ "") := by
  rw [(insertRecords_uses scope records).1, firstUses_eq_self hnd]

/-- Where names are distinct, every record with an undeclared base is reported. -/
lemma dangling_of_nodup (scope : String)
    (hnd : ((records.map (·.name)).filter (· ≠ "")).Nodup) :
    (insertRecords scope records).1.filterMap (baseProblem? scope (insertRecords scope records).1) =
      (undeclaredBases records).map (baseReport scope) := by
  rw [dangling_eq, firstUses_eq_self hnd]
  rfl

end Reports

namespace FrameGraph

variable [RigidMotion P] {g g' : FrameGraph P}

/-- The root poses of trees with the same frames agree, whatever the tables look like. -/
lemma IsTree.find?_congr (h : g.IsTree) (h' : g'.IsTree)
    (hframes : findFrame g.frames = findFrame g'.frames) :
    g.rootPoses.find? = g'.rootPoses.find? := by
  funext x
  have hnodes : x ∈ g.nodes ↔ x ∈ g'.nodes := by
    rw [nodes, nodes, ← isNode_iff, ← isNode_iff, isNode, isNode, hframes]
  by_cases hx : x ∈ g.nodes
  · obtain ⟨rs, hclimb, hp⟩ := h.find?_rootPoses hx
    obtain ⟨rs', hclimb', hp'⟩ := h'.find?_rootPoses (hnodes.mp hx)
    rw [hp, hp', (hclimb.congr hframes).unique h'.distinct hclimb']
  · rw [h.find?_eq_none hx, h'.find?_eq_none (mt hnodes.mpr hx)]

/-- **Trees with the same frames answer alike.** -/
theorem IsTree.queries_congr (h : g.IsTree) (h' : g'.IsTree) (hscope : g.scope = g'.scope)
    (hframes : findFrame g.frames = findFrame g'.frames)
    (hlength : g.frames.length = g'.frames.length) (x y : String) :
    g.chain x = g'.chain x ∧ g.path x y = g'.path x y ∧ g.pose x y = g'.pose x y := by
  have hvalid : g.requireValid = g'.requireValid := by
    rw [requireValid, requireValid, if_pos h.valid, if_pos h'.valid]
  have hroot : g.rootPose = g'.rootPose := by
    funext name
    simp only [rootPose, h.find?_congr h' hframes, hscope]
  have hchain : g.chainOf = g'.chainOf := by
    have hbase : g.base? = g'.base? := baseOf?_congr hframes
    funext name
    simp only [chainOf, hbase, hlength]
  simp only [chain, path, pose, hvalid, hroot, hchain, and_self]

/-- The number of repeated names is that of the names given beyond the distinct ones. -/
lemma length_filter_repeated (records : List (FrameRecord P)) (scope : String) :
    ((build records scope).problems.filter (·.code == .duplicateName)).length +
        ((records.map (·.name)).filter (· ≠ "")).dedup.length =
      ((records.map (·.name)).filter (· ≠ "")).length := by
  rw [build, filter_repeated, ← (insertRecords_uses scope records).2.length_eq]
  exact length_laterUses _ records

/-- **Reordering.** Graphs of the same records in different orders are both valid or both faulty,
and report equally many repeated names. Valid ones have the same frames and give the same answers,
whatever the operations on poses. Where names are distinct, both report the same records for
their bases, and the same circles. -/
theorem build_of_perm {records records' : List (FrameRecord P)} (hp : records.Perm records')
    (scope : String) :
    let g := build records scope
    let g' := build records' scope
    g.valid = g'.valid ∧
      (g.problems.filter (·.code == .duplicateName)).length =
        (g'.problems.filter (·.code == .duplicateName)).length ∧
      (g.valid = true → g.frames.Perm g'.frames ∧
        ∀ x y, g.chain x = g'.chain x ∧ g.path x y = g'.path x y ∧ g.pose x y = g'.pose x y) ∧
      (((records.map (·.name)).filter (· ≠ "")).Nodup →
        (undeclaredBases records).Perm (undeclaredBases records') ∧
        g.problems.filter (·.code == .poseRelativeToInvalid) =
          (undeclaredBases records).map (baseReport scope) ∧
        g'.problems.filter (·.code == .poseRelativeToInvalid) =
          (undeclaredBases records').map (baseReport scope) ∧
        ∃ routes routes' : List (List String),
          (routes.map Cycle.ofList).Perm (routes'.map Cycle.ofList) ∧
          (routes.map Cycle.ofList).Nodup ∧
          g.problems.filter (·.code == .poseRelativeToCycle) = routes.map (Problem.circle scope) ∧
          g'.problems.filter (·.code == .poseRelativeToCycle) =
            routes'.map (Problem.circle scope)) := by
  intro g g'
  have hnames := namesGiven_perm hp
  have htree := valid_iff_declareTree depthFirst records scope
  have htree' := valid_iff_declareTree depthFirst records' scope
  have hvalid : g.valid = true ↔ g'.valid = true :=
    ⟨fun h => htree'.mpr ((htree.mp h).perm hp), fun h => htree.mpr ((htree'.mp h).perm hp.symm)⟩
  refine ⟨Bool.eq_iff_iff.mpr hvalid, ?_, fun h => ?_,
    fun hnd => ⟨undeclaredBases_perm hp, ?_, ?_, ?_⟩⟩
  · have hcount := length_filter_repeated records scope
    have hcount' := length_filter_repeated records' scope
    rw [← hnames.dedup.length_eq, ← hnames.length_eq, ← hcount] at hcount'
    exact (Nat.add_right_cancel hcount').symm
  · have hnd := (htree.mp h).distinct
    have hframes : (insertRecords scope records).1.Perm (insertRecords scope records').1 := by
      rw [insertRecords_of_nodup scope hnd,
        insertRecords_of_nodup scope (hnames.nodup_iff.mp hnd)]
      exact hp.filter _
    have hfind : findFrame g.frames = findFrame g'.frames := by
      funext name
      exact (findFrame_insertRecords scope records name).trans
        ((congrFun (firstRecord?_perm hp hnd) name).trans
          (findFrame_insertRecords scope records' name).symm)
    exact ⟨hframes, (isTree_build h).queries_congr (isTree_build (hvalid.mp h)) rfl hfind
      hframes.length_eq⟩
  · rw [← dangling_of_nodup scope hnd]
    exact filter_dangling depthFirst
  · rw [← dangling_of_nodup scope (hnames.nodup_iff.mp hnd)]
    exact filter_dangling depthFirst
  · obtain ⟨hdistinct, hcircles⟩ := noted_circles scope records
    obtain ⟨hdistinct', hcircles'⟩ := noted_circles scope records'
    refine ⟨_, _, (List.perm_ext_iff_of_nodup hdistinct hdistinct').mpr fun c => ?_, hdistinct,
      filter_circles depthFirst, filter_circles depthFirst⟩
    rw [hcircles, hcircles', declaredBase?_perm hp hnd]

/-- Two circles, a tail into one of them, and a frame on a base that is not declared. -/
def tangle : List (FrameRecord (Pose Float)) :=
  [{ name := "D", pose := Pose.identity, relativeTo := "A" },
   { name := "A", pose := Pose.identity, relativeTo := "B" },
   { name := "E", pose := Pose.identity, relativeTo := "nowhere" },
   { name := "B", pose := Pose.identity, relativeTo := "A" },
   { name := "F", pose := Pose.identity, relativeTo := "F" }]

theorem build_reversed : branches.Perm branches.reverse ∧ tangle.Perm tangle.reverse ∧
    (build branches "scene").valid = true ∧
    ((tangle.map (·.name)).filter (· ≠ "")).Nodup ∧
    (build branches "scene").chain "C" = (build branches.reverse "scene").chain "C" ∧
    (build branches "scene").pose "C" "D" = (build branches.reverse "scene").pose "C" "D" ∧
    ∃ routes routes' : List (List String),
      (routes.map Cycle.ofList).Perm (routes'.map Cycle.ofList) ∧
      (build tangle "scene").problems.filter (·.code == .poseRelativeToCycle) =
        routes.map (Problem.circle "scene") ∧
      (build tangle.reverse "scene").problems.filter (·.code == .poseRelativeToCycle) =
        routes'.map (Problem.circle "scene") := by
  have hbranches := (List.reverse_perm branches).symm
  have htangle := (List.reverse_perm tangle).symm
  have hvalid : (build branches "scene").valid = true := by decide +kernel
  have hnd : ((tangle.map (·.name)).filter (· ≠ "")).Nodup := by decide
  obtain ⟨-, hqueries⟩ := (build_of_perm hbranches "scene").2.2.1 hvalid
  obtain ⟨routes, routes', hroutes, -, hreported, hreported'⟩ :=
    ((build_of_perm htangle "scene").2.2.2 hnd).2.2.2
  exact ⟨hbranches, htangle, hvalid, hnd, (hqueries "C" "D").1, (hqueries "C" "D").2.2, routes,
    routes', hroutes, hreported, hreported'⟩

end FrameGraph

end SceneFrames
