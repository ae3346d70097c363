import SceneFrames.Proofs.Attempt.Mishap
import SceneFrames.Proofs.Frame.RootPose

/-!
Frame graphs are built without a mishap.

Three facts carry this. A repeated name is never the root's, so its node has a record. A walk
goes from nodes to nodes and passes none twice, so it finds what it asks for, and it ends. And a
traversal of the tree comes to a frame only after its base, so the base has a root pose by then.
-/

namespace SceneFrames

open Ascent

variable {P : Type} {scope : String} {frames : List (FrameRecord P)} {marks : Marks}
  {passed : List String} {node current : String}

/-- A fold none of whose steps fails. -/
lemma foldlM_eq_ok {α β ε : Type} {f : β → α → Except ε β} {g : β → α → β} {l : List α} {b : β}
    (h : ∀ b, ∀ a ∈ l, f b a = .ok (g b a)) : l.foldlM f b = .ok (l.foldl g b) := by
  induction l generalizing b with
  | nil => rfl
  | cons a l ih =>
    rw [List.foldlM_cons, h b a (by simp)]
    exact ih fun b x hx => h b x (List.mem_cons_of_mem a hx)

/-! ### Insertion -/

/-- The frames after one more record. The record of a name that is taken is looked up. -/
def attemptInsertion (scope : String) (st : List (FrameRecord P) × List Problem)
    (r : FrameRecord P) : Except Mishap (List (FrameRecord P) × List Problem) :=
  if r.name = "" then .ok st
  else if isNode st.1 r.name then
    match findFrame st.1 r.name with
    | some first =>
      .ok (st.1, st.2 ++ [.frameRepeated r.name scope r.citation first.citation])
    | none => .error (.noRecord r.name)
  else .ok (st.1 ++ [r], st.2)

/-- A name that is taken is not the root's, so its node has a record. -/
lemma attemptInsertion_eq (st : List (FrameRecord P) × List Problem) (r : FrameRecord P) :
    attemptInsertion scope st r = .ok (insertRecord scope st r) := by
  unfold attemptInsertion insertRecord
  by_cases hn : r.name = ""
  · simp [hn]
  · cases hf : findFrame st.1 r.name <;> simp [isNode, hn, hf]

/-! ### Walks -/

def attemptBase (frames : List (FrameRecord P)) (name : String) : Except Mishap (Option String) :=
  if isNode frames name then .ok (baseOf? frames name) else .error (.noNode name)

/-- The part of a walk from a node on that it has passed. -/
def attemptRoute (walked : List String) (name : String) : Except Mishap (List String) :=
  match walked.idxOf? name with
  | some i => .ok (walked.drop i)
  | none => .error (.notPassed name)

/-- A walk, each step of which asks for the base of a node. -/
def attemptWalk (frames : List (FrameRecord P)) (marks : Marks) :
    Nat → List String → String → Except Mishap (List String × WalkEnd)
  | 0, _, _ => .error .endless
  | fuel + 1, passed, current =>
    if marks.settled.contains current then .ok (passed, .home)
    else if marks.doomed.contains current then .ok (passed, .lost)
    else if passed.contains current then do
      let route ← attemptRoute passed.reverse current
      return (passed, .circle route)
    else do
      match ← attemptBase frames current with
      | none => return (current :: passed, .lost)
      | some next => attemptWalk frames marks fuel (current :: passed) next

/-- What has been passed is found, where it stands first. -/
lemma attemptRoute_eq {walked : List String} (h : current ∈ walked) :
    attemptRoute walked current = .ok (walked.dropWhile (· != current)) := by
  induction walked with
  | nil => simp at h
  | cons x walked ih =>
    by_cases hx : x = current
    · simp [attemptRoute, List.idxOf?_cons, hx]
    · have hroute := ih ((List.mem_cons.mp h).resolve_left (Ne.symm hx))
      rw [List.dropWhile_cons_of_pos (by simpa using hx), ← hroute]
      unfold attemptRoute
      rw [List.idxOf?_cons, if_neg (by simpa using hx)]
      cases walked.idxOf? current <;> rfl

/-- Every base is a node. -/
lemma isNode_of_standsOn {x y : String} (h : StandsOn (baseOf? frames) x y) :
    isNode frames y = true := by
  obtain ⟨-, -, -, hnode⟩ := baseOf?_eq_some_iff.mp h
  exact hnode

/-- Every frame that has a base is a node. -/
lemma encloses_names (frames : List (FrameRecord P)) :
    Encloses ("" :: frames.map (·.name)) (baseOf? frames) := by
  intro x y h
  obtain ⟨r, hr, -, -⟩ := baseOf?_eq_some_iff.mp h
  exact List.mem_cons_of_mem _ (List.mem_map.mpr
    ⟨r, List.mem_of_find?_eq_some hr, name_of_findFrame hr⟩)

/-- A walk from a node stays among the nodes, and passes none of them twice. -/
lemma attemptWalk_eq (fuel : ℕ) (passed : List String) (current : String)
    (ht : Trail (baseOf? frames) node passed current) (hf : Unmarked marks passed)
    (hnode : isNode frames current = true)
    (hfuel : frames.length + 1 < passed.length + fuel) :
    attemptWalk frames marks fuel passed current =
      .ok (walk (baseOf? frames) marks fuel passed current) := by
  induction fuel generalizing passed current with
  | zero =>
    -- What has been passed are distinct nodes, and there are no more than the fuel allows for.
    have hle := (hf.nodup.subperm (ht.passed_subset (encloses_names frames))).length_le
    simp only [List.length_cons, List.length_map] at hle
    omega
  | succ fuel ih =>
    rw [attemptWalk, walk]
    split
    · rfl
    rename_i hs
    split
    · rfl
    rename_i hd
    split
    · rename_i hp
      rw [attemptRoute_eq (by simpa using hp)]
      rfl
    rename_i hp
    have hf' : Unmarked marks (current :: passed) :=
      hf.cons (by simpa using hp) (by simpa using hs) (by simpa using hd)
    rw [attemptBase, if_pos hnode]
    cases hb : baseOf? frames current with
    | none => rfl
    | some next =>
      exact ih (current :: passed) next (.step ht hb) hf' (isNode_of_standsOn hb)
        (by simp only [List.length_cons]; omega)

def attemptMarks (frames : List (FrameRecord P)) : Except Mishap Marks :=
  ("" :: frames.map (·.name)).foldlM
    (fun marks node => marks.after <$> attemptWalk frames marks (frames.length + 2) [] node) {}

lemma attemptMarks_eq (frames : List (FrameRecord P)) :
    attemptMarks frames = .ok (markAll frames) := by
  refine foldlM_eq_ok fun marks node hnode => ?_
  rw [walkFrom, attemptWalk_eq _ _ _ .start (.nil marks) (isNode_iff.mpr hnode) (by simp)]
  rfl

/-! ### Root poses -/

section RootPose

variable [RigidMotion P] {table table' : PoseTable P} {edge : String × String} {order : Traversal}

/-- The table with one more frame. The root pose of the base and the pose on the edge are looked
up. -/
def attemptEdge (frames : List (FrameRecord P)) (table : PoseTable P) (edge : String × String) :
    Except Mishap (PoseTable P) :=
  match table.find? edge.1 with
  | none => .error (.noRootPose edge.1)
  | some p =>
    match declaredPose? frames edge.2 edge.1 with
    | none => .error (.noEdge edge.2 edge.1)
    | some d => .ok ((edge.2, RigidMotion.compose p d) :: table)

lemma attemptEdge_eq (h : resolveEdge frames table edge = some table') :
    attemptEdge frames table edge = .ok table' := by
  obtain ⟨p, hp, d, hd, rfl⟩ : ∃ p, table.find? edge.1 = some p ∧
      ∃ d, declaredPose? frames edge.2 edge.1 = some d ∧
        (edge.2, RigidMotion.compose p d) :: table = table' := by
    simpa [resolveEdge, Option.bind_eq_some_iff] using h
  simp [attemptEdge, hp, hd]

lemma attemptEdges_eq (h : order.foldlM (resolveEdge frames) table = some table') :
    order.foldlM (attemptEdge frames) table = .ok table' := by
  induction order generalizing table with
  | nil => simpa [pure, Except.pure] using h
  | cons edge order ih =>
    rw [List.foldlM_cons] at h ⊢
    obtain ⟨next, hnext, hrest⟩ := Option.bind_eq_some_iff.mp h
    rw [attemptEdge_eq hnext]
    exact ih hrest

def attemptRootPoses (frames : List (FrameRecord P)) (order : Traversal) :
    Except Mishap (PoseTable P) :=
  order.foldlM (attemptEdge frames) [("", RigidMotion.identity)]

/-- A traversal comes to every base before the frames on it. -/
lemma attemptRootPoses_eq (horder : IsTraversal frames order) :
    attemptRootPoses frames order = .ok ((resolveAlong frames order).getD []) := by
  obtain ⟨table, hrun, -⟩ := (resolved_root frames).run horder.basesFirst horder.edges
  rw [resolveAlong, hrun]
  exact attemptEdges_eq hrun

/-! ### Graphs -/

/-- The graph of records. Root poses are resolved if there are no problems. -/
def FrameGraph.attempt (records : List (FrameRecord P)) (scope : String) :
    Except Mishap (FrameGraph P) := do
  let (frames, repeated) ← records.foldlM (attemptInsertion scope) ([], [])
  let dangling := frames.filterMap (baseProblem? scope frames)
  let marks ← attemptMarks frames
  let problems := repeated ++ dangling ++ marks.circles.map (Problem.circle scope)
  let rootPoses ← if problems.isEmpty then attemptRootPoses frames (depthFirst frames) else .ok []
  return { scope := scope, frames := frames, problems := problems, rootPoses := rootPoses }

/-- **Every graph is built without a mishap**, whatever the records. -/
theorem FrameGraph.attempt_eq (records : List (FrameRecord P)) (scope : String) :
    attempt records scope = .ok (build records scope) := by
  have hinsert : records.foldlM (attemptInsertion scope) ([], []) =
      .ok (insertRecords scope records) :=
    foldlM_eq_ok fun st r _ => attemptInsertion_eq st r
  have hposes := attemptRootPoses_eq (isTraversal_depthFirst (nodup_insertRecords scope records))
  simp only [attempt, hinsert, attemptMarks_eq, hposes, build, buildAlong, bind, Except.bind]
  split <;> rfl

end RootPose

end SceneFrames
