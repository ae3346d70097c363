import SceneFrames.Proofs.Frame.Reordering

/-!
The construction of a frame graph, problem by problem and edge by edge.

A graph is made in two passes. The first makes a node of the first record of each name; the second
links each of these frames to its base, which may have come after it. An edge goes to the end of
those there are, unless one runs between the same nodes already, which then gets the new pose.
The frames linked before have other names, so every edge is new, and no node gets a second one.
-/

namespace SceneFrames

open Ascent

variable {P : Type} {scope x : String} {frames linked : List (FrameRecord P)} {r : FrameRecord P}

/-- An edge from a frame to its base, with the pose on it. -/
structure Edge (P : Type) where
  source : String
  target : String
  pose : P

/-- The edge runs between the same nodes as another. -/
def Edge.parallel (e f : Edge P) : Bool := e.source == f.source && e.target == f.target

/-- The edges with one more. If one runs between the same nodes, it gets the pose instead. -/
def addEdge (edges : List (Edge P)) (e : Edge P) : List (Edge P) :=
  if edges.any (·.parallel e) then
    edges.map fun f => if f.parallel e then { f with pose := e.pose } else f
  else edges ++ [e]

/-- The edges from a node. -/
def outgoing (edges : List (Edge P)) (name : String) : List (Edge P) :=
  edges.filter (·.source == name)

/-- The edges and the problems when one more frame has been linked to its base. -/
def linkFrame (scope : String) (frames : List (FrameRecord P))
    (st : List (Edge P) × List Problem) (r : FrameRecord P) : List (Edge P) × List Problem :=
  if isNode frames r.relativeTo then (addEdge st.1 ⟨r.name, r.relativeTo, r.pose⟩, st.2)
  else (st.1, st.2 ++ [.baseUnknown r.relativeTo r.kind r.name scope])

/-- The edges and the problems when all frames have been linked in order. -/
def linkFrames (scope : String) (frames : List (FrameRecord P)) :
    List (Edge P) × List Problem :=
  frames.foldl (linkFrame scope frames) ([], [])

/-- The edge of a frame whose base is a node. -/
def frameEdge? (frames : List (FrameRecord P)) (r : FrameRecord P) : Option (Edge P) :=
  if isNode frames r.relativeTo then some ⟨r.name, r.relativeTo, r.pose⟩ else none

/-! ### Linking -/

lemma frameEdge?_eq_some_iff {e : Edge P} : frameEdge? frames r = some e ↔
    isNode frames r.relativeTo = true ∧ e = ⟨r.name, r.relativeTo, r.pose⟩ := by
  simp only [frameEdge?, Option.ite_none_right_eq_some, Option.some.injEq]
  exact and_congr_right fun _ => eq_comm

lemma addEdge_new {edges : List (Edge P)} {e : Edge P} (h : e.source ∉ edges.map (·.source)) :
    addEdge edges e = edges ++ [e] := by
  refine if_neg ?_
  rw [List.any_eq_true]
  rintro ⟨f, hf, hpar⟩
  simp only [Edge.parallel, Bool.and_eq_true, beq_iff_eq] at hpar
  exact h (hpar.1 ▸ List.mem_map_of_mem hf)

/-- **One frame** adds its edge, or else a problem. -/
lemma linkFrame_eq (hnew : r.name ∉ linked.map (·.name)) :
    linkFrame scope frames
        (linked.filterMap (frameEdge? frames), linked.filterMap (baseProblem? scope frames)) r =
      ((linked ++ [r]).filterMap (frameEdge? frames),
        (linked ++ [r]).filterMap (baseProblem? scope frames)) := by
  have hsource : r.name ∉ (linked.filterMap (frameEdge? frames)).map (·.source) := by
    intro hmem
    obtain ⟨f, hf, hname⟩ := List.mem_map.mp hmem
    obtain ⟨s, hs, hedge⟩ := List.mem_filterMap.mp hf
    obtain ⟨-, rfl⟩ := frameEdge?_eq_some_iff.mp hedge
    exact hnew (hname ▸ List.mem_map_of_mem hs)
  have hedge := addEdge_new (e := ⟨r.name, r.relativeTo, r.pose⟩) hsource
  rw [List.filterMap_append, List.filterMap_append]
  by_cases hnode : isNode frames r.relativeTo = true
  · simp [linkFrame, frameEdge?, baseProblem?, hnode, hedge]
  · simp [linkFrame, frameEdge?, baseProblem?, hnode]

/-- **All frames** add their edges and problems in order. -/
theorem linkFrames_eq (hd : DistinctNodes frames) : linkFrames scope frames =
    (frames.filterMap (frameEdge? frames), frames.filterMap (baseProblem? scope frames)) := by
  suffices hrun : ∀ linked : List (FrameRecord P), (linked.map (·.name)).Nodup →
      linked.foldl (linkFrame scope frames) ([], []) =
        (linked.filterMap (frameEdge? frames), linked.filterMap (baseProblem? scope frames)) from
    hrun frames (List.nodup_cons.mp hd).2
  intro linked hnd
  induction linked using List.reverseRecOn with
  | nil => rfl
  | append_singleton linked r ih =>
    rw [List.map_append, List.map_singleton, List.nodup_append] at hnd
    rw [List.foldl_append, ih hnd.1, List.foldl_cons, List.foldl_nil]
    exact linkFrame_eq fun hmem => hnd.2.2 _ hmem _ (List.mem_singleton_self _) rfl

/-! ### The edges from a node -/

/-- Where names are distinct, one frame at most has a name. -/
lemma filter_name_eq (hnd : (frames.map (·.name)).Nodup) :
    frames.filter (·.name == x) = (findFrame frames x).toList := by
  induction frames with
  | nil => rfl
  | cons r frames ih =>
    obtain ⟨hr, hnd⟩ := List.nodup_cons.mp hnd
    by_cases hx : r.name = x
    · have hnone : frames.filter (·.name == x) = [] := by
        rw [ih hnd, findFrame_eq_none_iff.mpr (hx ▸ hr), Option.toList_none]
      simp [findFrame, hx, hnone]
    · simpa [findFrame, hx] using ih hnd

/-- **No node has two edges**, and a frame has that of its base. -/
theorem outgoing_eq (hd : DistinctNodes frames) (x : String) :
    outgoing (frames.filterMap (frameEdge? frames)) x =
      ((findFrame frames x).bind (frameEdge? frames)).toList := by
  have hsource (r : FrameRecord P) : Option.filter (·.source == x) (frameEdge? frames r) =
      if r.name == x then frameEdge? frames r else none := by
    unfold frameEdge?
    split <;> simp [Option.filter]
  rw [outgoing, List.filter_filterMap]
  simp only [hsource]
  rw [← List.filterMap_filter, filter_name_eq (List.nodup_cons.mp hd).2]
  cases findFrame frames x with
  | none => rfl
  | some r => cases h : frameEdge? frames r <;> simp [h]

/-! ### The graph that is read -/

section Read

variable (hd : DistinctNodes frames)

include hd

lemma base?_of_outgoing (x : String) : baseOf? frames x =
    (outgoing (frames.filterMap (frameEdge? frames)) x).head?.map (·.target) := by
  rw [outgoing_eq hd, Option.head?_toList, Option.map_bind, baseOf?]
  congr 1
  funext r
  by_cases h : isNode frames r.relativeTo = true <;> simp [frameEdge?, h]

lemma edges_of_linked : frames.filterMap (fun r => (baseOf? frames r.name).map (r.name, ·)) =
    (frames.filterMap (frameEdge? frames)).map fun e => (e.source, e.target) := by
  rw [List.map_filterMap]
  refine List.filterMap_congr fun r hr => ?_
  rw [baseOf?, hd.findFrame_of_mem hr, Option.bind_some]
  by_cases hnode : isNode frames r.relativeTo = true <;> simp [frameEdge?, hnode]

lemma declaredPose?_of_outgoing (x y : String) : declaredPose? frames x y =
    ((outgoing (frames.filterMap (frameEdge? frames)) x).find? (·.target == y)).map (·.pose) := by
  rw [outgoing_eq hd, declaredPose?]
  cases hfound : findFrame frames x with
  | none => rfl
  | some r =>
    rw [Option.bind_some, Option.bind_some, baseOf?, hfound, Option.bind_some, frameEdge?]
    by_cases hnode : isNode frames r.relativeTo = true
    · rw [if_pos hnode, if_pos hnode]
      by_cases hy : r.relativeTo = y <;> simp [hy]
    · simp [hnode]

end Read

namespace FrameGraph

variable [RigidMotion P]

/-- **Construction.** The problems begin with one for each later record of a name, which cites that
record and the first one of the name; there follows one for each first record whose base is
no declared name; all the rest are circles. The nodes are the root and then the names in the
order in which they first occur. From the root there is no edge, and from every other node there is
one if what its first record is relative to is declared, with the pose of that record, and else
none. -/
theorem construction_exact (traverse : List (FrameRecord P) → Traversal)
    (records : List (FrameRecord P)) (scope : String) :
    let g := buildAlong traverse records scope
    let linked := linkFrames scope g.frames
    (∃ (repeated : List Problem) (circles : List (List String)),
      g.problems = repeated ++ linked.2 ++ circles.map (Problem.circle scope) ∧
      List.Forall₂ (SaysRepeated scope records) (laterUses (·.name) records) repeated ∧
      (∀ p ∈ repeated, p.code = .duplicateName) ∧
      linked.2 = ((firstUses (·.name) records).filter fun r =>
        r.name ≠ "" ∧ ¬ IsDeclared records r.relativeTo).map (baseReport scope) ∧
      ∀ p ∈ linked.2, p.code = .poseRelativeToInvalid) ∧
    g.nodes = "" :: ((records.map (·.name)).filter (· ≠ "")).eraseDups ∧
    outgoing linked.1 "" = [] ∧
    (∀ x ∈ g.nodes, x ≠ "" → ∃ r, firstRecord? records x = some r ∧
      outgoing linked.1 x =
        if IsDeclared records r.relativeTo then [⟨x, r.relativeTo, r.pose⟩] else []) ∧
    g.edges = linked.1.map (fun e => (e.source, e.target)) ∧
    (∀ x ∈ g.nodes, g.relativeTo x = .ok ((outgoing linked.1 x).head?.map (·.target))) ∧
    ∀ x y, g.edgePose? x y = ((outgoing linked.1 x).find? (·.target == y)).map (·.pose) := by
  intro g linked
  have hd : DistinctNodes g.frames := nodup_insertRecords scope records
  have hlinked : linked = (g.frames.filterMap (frameEdge? g.frames),
    g.frames.filterMap (baseProblem? scope g.frames)) := linkFrames_eq hd
  obtain ⟨hframes, hrepeated⟩ := insertRecords_uses scope records
  rw [hlinked]
  refine ⟨⟨_, _, rfl, hrepeated, fun p => code_of_mem_insertRecords, dangling_eq scope records,
    fun p hp => ?_⟩, ?_, ?_, fun x hx hn => ?_, ?_, fun x hx => ?_,
    fun x y => declaredPose?_of_outgoing hd x y⟩
  · obtain ⟨r, -, hr⟩ := List.mem_filterMap.mp hp
    exact code_of_baseProblem? hr
  · rw [← filter_map_firstUses, List.filter_map]
    exact congrArg _ (congrArg _ hframes)
  · rw [outgoing_eq hd, hd.findFrame_root]
    rfl
  · have hmem : x ∈ g.frames.map (·.name) := (List.mem_cons.mp hx).resolve_left hn
    obtain ⟨r, hr, rfl⟩ := List.mem_map.mp hmem
    have hfound := hd.findFrame_of_mem hr
    have hnode : isNode g.frames r.relativeTo = true ↔ IsDeclared records r.relativeTo :=
      isNode_insertRecords
    refine ⟨r, (findFrame_insertRecords scope records r.name).symm.trans hfound, ?_⟩
    rw [outgoing_eq hd, hfound, Option.bind_some, frameEdge?]
    by_cases hdecl : IsDeclared records r.relativeTo <;> simp [hnode, hdecl]
  · exact edges_of_linked hd
  · rw [relativeTo, if_pos (isNode_iff.mpr hx), base?, base?_of_outgoing hd]

/-- A frame on itself, one on a frame that comes later, one on a name that is not declared, and a
name that is used three times. -/
def muddle : List (FrameRecord (Pose Float)) :=
  [{ name := "A", pose := ⟨⟨1, 0, 0⟩, .aboutX 0.5⟩, relativeTo := "B", kind := "link",
      line := some 3 },
   { name := "", pose := Pose.identity, relativeTo := "nowhere" },
   { name := "A", pose := Pose.identity, relativeTo := "C", kind := "joint", line := some 5 },
   { name := "B", pose := Pose.identity, relativeTo := "B" },
   { name := "A", pose := Pose.identity, line := some 8 },
   { name := "C", pose := Pose.identity, relativeTo := "gone" }]

theorem construction_muddle : (build muddle "scene").nodes = ["", "A", "B", "C"] ∧
    (linkFrames "scene" (build muddle "scene").frames).2 =
      [.baseUnknown "gone" "frame" "C" "scene"] ∧
    outgoing (linkFrames "scene" (build muddle "scene").frames).1 "A" =
      [⟨"A", "B", ⟨⟨1, 0, 0⟩, .aboutX 0.5⟩⟩] ∧
    outgoing (linkFrames "scene" (build muddle "scene").frames).1 "C" = [] := by
  obtain ⟨⟨_, _, -, -, -, hdangling, -⟩, hnodes, -, hout, -⟩ :=
    construction_exact depthFirst muddle "scene"
  have hlisted : (build muddle "scene").nodes = ["", "A", "B", "C"] := hnodes.trans (by decide)
  refine ⟨hlisted, hdangling.trans ?_, ?_, ?_⟩
  · rfl
  · obtain ⟨r, hr, hedges⟩ := hout "A" (by decide +kernel) (by decide)
    obtain rfl := Option.some.inj hr
    exact hedges
  · obtain ⟨r, hr, hedges⟩ := hout "C" (by decide +kernel) (by decide)
    obtain rfl := Option.some.inj hr
    exact hedges

end FrameGraph

end SceneFrames
