import SceneFrames.Proofs.Attempt.Graph
import SceneFrames.Proofs.Frame.Route

/-!
Queries that take every step as it stands.

A query of a frame graph first checks the graph and the names asked for. It then looks up root
poses, asks for one base after the other until it stands at the root, or searches the graph for a
path; and none of that need be defined. That it always is rests on what the check passes: a tree,
whose table holds the root pose of every node and of nothing else.
-/

namespace SceneFrames

open Ascent

variable {P α : Type}

/-- Why a query comes to nothing. -/
inductive Failure
  /-- The query is refused. -/
  | refused (e : QueryError)
  /-- There is no root pose of the name. -/
  | noRootPose (name : String)
  /-- A frame below the root has no base. -/
  | noBase (name : String)
  /-- The ascent does not end. -/
  | endless
  /-- The search finds no path. -/
  | unconnected (source target : String)
  deriving DecidableEq, Repr

namespace FrameGraph

variable {g : FrameGraph P} {records : List (FrameRecord P)} {scope x y : String}
  {traverse : List (FrameRecord P) → Traversal}

/-! ### Attempts -/

/-- The name has a root pose. -/
def checkName (g : FrameGraph P) (name : String) : Except QueryError Unit :=
  if (g.rootPoses.find? name).isSome then .ok () else .error (.unknownFrame g.scope name)

/-- The graph has no problems, and every name asked for has a root pose. -/
def check (g : FrameGraph P) (asked : List String) : Except QueryError Unit := do
  g.requireValid
  forM asked g.checkName

/-- A step of a query once it has passed the check. -/
def afterCheck (g : FrameGraph P) (asked : List String) (step : Except Failure α) :
    Except Failure α := do
  (g.check asked).mapError .refused
  step

def attemptRootPose (g : FrameGraph P) (name : String) : Except Failure P :=
  match g.rootPoses.find? name with
  | some p => .ok p
  | none => .error (.noRootPose name)

def attemptPose [RigidMotion P] (g : FrameGraph P) (source : String) (relativeTo : String) :
    Except Failure P :=
  g.afterCheck [source, relativeTo] do
    let r ← g.attemptRootPose relativeTo
    let s ← g.attemptRootPose source
    return RigidMotion.compose (RigidMotion.inverse r) s

/-- The nodes from a node up to the root, each found by asking for the base of the one before. -/
def attemptClimb (g : FrameGraph P) : Nat → String → Except Failure (List String)
  | 0, _ => .error .endless
  | fuel + 1, name =>
    if name = "" then .ok [name]
    else do
      match ← (g.relativeTo name).mapError .refused with
      | none => .error (.noBase name)
      | some base => return name :: (← g.attemptClimb fuel base)

def attemptChain (g : FrameGraph P) (name : String) : Except Failure (List String) :=
  g.afterCheck [name] (g.attemptClimb (g.frames.length + 1) name)

/-- The path that a search of the nodes and edges comes to. -/
def attemptPath (search : Search) (g : FrameGraph P) (source target : String) :
    Except Failure (List String) :=
  g.afterCheck [source, target] <|
    match search g.nodes g.edges source target with
    | some p => .ok p
    | none => .error (.unconnected source target)

lemma relativeTo_of_standsOn (h : StandsOn g.base? x y) : g.relativeTo x = .ok (some y) := by
  have hnode : isNode g.frames x = true := isNode_iff.mpr (encloses_names g.frames x y h)
  have hbase : g.base? x = some y := h
  rw [relativeTo, if_pos hnode, hbase]

lemma edgesWithin_nodes (g : FrameGraph P) : EdgesWithin g.nodes g.edges := by
  rintro ⟨a, b⟩ hedge
  have hstands := mem_edges_iff.mp hedge
  exact ⟨encloses_names g.frames a b hstands, isNode_iff.mp (isNode_of_standsOn hstands)⟩

/-! ### The check -/

lemma check_of_faulty (h : g.problems ≠ []) (asked : List String) :
    g.check asked = .error (.faultyGraph g.scope g.problems) := by
  have hvalid : g.valid = false := by simpa [valid] using h
  simp only [check, requireValid, hvalid]
  rfl

lemma afterCheck_of_faulty (h : g.problems ≠ []) (asked : List String)
    (step : Except Failure α) :
    g.afterCheck asked step = .error (.refused (.faultyGraph g.scope g.problems)) := by
  rw [afterCheck, check_of_faulty h]
  rfl

/-! ### The queries that run -/

/-- The running query follows the bases once it has passed the check. -/
lemma chain_mapError (g : FrameGraph P) (x : String) :
    (g.chain x).mapError .refused = g.afterCheck [x] (.ok (g.chainOf x)) := by
  by_cases hvalid : g.valid = true
  · cases hx : g.rootPoses.find? x <;>
      simp [chain, afterCheck, check, checkName, requireValid, rootPose, hvalid, hx, bind,
        Except.bind, Except.mapError, pure, Except.pure]
  · simp [chain, afterCheck, check, requireValid, hvalid, bind, Except.bind, Except.mapError]

lemma path_mapError (g : FrameGraph P) (x y : String) : (g.path x y).mapError .refused =
    g.afterCheck [x, y] (.ok (joinChains (g.chainOf x) (g.chainOf y))) := by
  by_cases hvalid : g.valid = true
  · cases hx : g.rootPoses.find? x <;> cases hy : g.rootPoses.find? y <;>
      simp [path, afterCheck, check, checkName, requireValid, rootPose, hvalid, hx, hy, bind,
        Except.bind, Except.mapError, pure, Except.pure]
  · simp [path, afterCheck, check, requireValid, hvalid, bind, Except.bind, Except.mapError]

variable [RigidMotion P]

lemma attemptPose_eq (g : FrameGraph P) (x y : String) :
    g.attemptPose x y = (g.pose x y).mapError .refused := by
  by_cases hvalid : g.valid = true
  · cases hx : g.rootPoses.find? x <;> cases hy : g.rootPoses.find? y <;>
      simp [attemptPose, afterCheck, check, checkName, attemptRootPose, pose, requireValid,
        rootPose, hvalid, hx, hy, bind, Except.bind, Except.mapError, pure, Except.pure]
  · simp [attemptPose, afterCheck, check, pose, requireValid, hvalid, bind, Except.bind,
      Except.mapError]

/-! ### Trees -/

/-- On a tree the check passes over the nodes, and stops at the first other name. -/
lemma IsTree.check_eq (h : g.IsTree) (asked : List String) : g.check asked =
    match asked.find? (· ∉ g.nodes) with
    | some name => .error (.unknownFrame g.scope name)
    | none => .ok () := by
  have hcheck (asked : List String) : g.check asked = forM asked g.checkName := by
    simp only [check, requireValid, h.valid]
    rfl
  rw [hcheck]
  induction asked with
  | nil => rfl
  | cons name asked ih =>
    rw [List.forM_cons]
    by_cases hname : name ∈ g.nodes
    · obtain ⟨rs, -, hp⟩ := h.find?_rootPoses hname
      have hpass : g.checkName name = .ok () := by simp [checkName, hp]
      rw [hpass, List.find?_cons_of_neg (by simpa using hname)]
      exact ih
    · have hstop : g.checkName name = .error (.unknownFrame g.scope name) := by
        simp [checkName, h.find?_eq_none hname]
      rw [hstop, List.find?_cons_of_pos (by simpa using hname)]
      rfl

namespace IsTree

lemma afterCheck_of_missing (h : g.IsTree) {asked : List String} {name : String}
    (hname : asked.find? (· ∉ g.nodes) = some name) (step : Except Failure α) :
    g.afterCheck asked step = .error (.refused (.unknownFrame g.scope name)) := by
  rw [afterCheck, h.check_eq, hname]
  rfl

lemma afterCheck_of_nodes (h : g.IsTree) {asked : List String} (hasked : ∀ n ∈ asked, n ∈ g.nodes)
    (step : Except Failure α) : g.afterCheck asked step = step := by
  have hnone : asked.find? (· ∉ g.nodes) = none := by simpa using hasked
  rw [afterCheck, h.check_eq, hnone]
  rfl

/-- An ascent comes to the root with more fuel than there are frames. -/
lemma attemptClimb_eq (h : g.IsTree) (hx : x ∈ g.nodes) {fuel : ℕ}
    (hfuel : g.frames.length < fuel) : g.attemptClimb fuel x = .ok (g.chainOf x) := by
  obtain ⟨rs, hclimb⟩ := h.exists_climbs hx
  rw [h.chainOf_eq hclimb]
  -- the fuel falls with what is left of the climb, which passes no frame twice
  have hlen := Nat.lt_of_le_of_lt (hclimb.length_le h.distinct) hfuel
  clear hfuel hx
  induction hclimb generalizing fuel with
  | root =>
    obtain ⟨fuel, rfl⟩ := Nat.exists_eq_add_one.mpr hlen
    rfl
  | @step name r rs found stands climb ih =>
    obtain ⟨fuel, rfl⟩ := Nat.exists_eq_add_one.mpr (Nat.zero_lt_of_lt hlen)
    have hn : name ≠ "" := by
      rintro rfl
      simp [h.distinct.findFrame_root] at found
    rw [attemptClimb, if_neg hn, relativeTo_of_standsOn stands]
    have hrest := ih (Nat.lt_of_succ_lt_succ hlen)
    simp only [Except.mapError, bind, Except.bind, hrest, pure, Except.pure, List.map_cons,
      List.cons_append, name_of_findFrame found]

/-- A shortest path is one that joins the chains. -/
lemma search_eq {search : Search} (h : g.IsTree) (hsearch : FindsShortest search)
    (hx : x ∈ g.nodes) (hy : y ∈ g.nodes) :
    search g.nodes g.edges x y = some (joinChains (g.chainOf x) (g.chainOf y)) := by
  obtain ⟨p, hp⟩ := h.exists_isPath hx hy
  obtain ⟨q, hq, hshortest⟩ := hsearch _ _ x y p (edgesWithin_nodes g) hx hy hp
  rw [hq, (h.isShortestPath_iff hx hy).mp hshortest]

end IsTree

/-! ### The answers -/

/-- The first of the names that is not declared. -/
def firstUndeclared? (records : List (FrameRecord P)) (asked : List String) : Option String :=
  asked.find? fun name => ¬ IsDeclared records name

/-- A query for some names comes to what is documented. -/
structure AnswersAsDocumented (records : List (FrameRecord P)) (g : FrameGraph P)
    (asked : List String) (outcome : Except Failure α) : Prop where
  faulty : outcome = .error (.refused (.faultyGraph g.scope g.problems)) ↔ g.problems ≠ []
  unknown : ∀ name, outcome = .error (.refused (.unknownFrame g.scope name)) ↔
    g.problems = [] ∧ firstUndeclared? records asked = some name
  answered : (∃ answer, outcome = .ok answer) ↔
    g.problems = [] ∧ ∀ name ∈ asked, IsDeclared records name
  otherwise : ∀ failure, outcome = .error failure →
    failure = .refused (.faultyGraph g.scope g.problems) ∨
      ∃ name ∈ asked, failure = .refused (.unknownFrame g.scope name)

omit [RigidMotion P] in
lemma firstUndeclared?_eq_none_iff {asked : List String} :
    firstUndeclared? records asked = none ↔ ∀ name ∈ asked, IsDeclared records name := by
  simp [firstUndeclared?]

/-- A check refuses a graph with problems and a name that is not declared, and else lets pass. -/
lemma afterCheck_cases (htraverse : Traverses traverse) (records : List (FrameRecord P))
    (scope : String) (asked : List String) (α : Type) :
    let g := buildAlong traverse records scope
    (g.problems ≠ [] ∧ ∀ step : Except Failure α,
      g.afterCheck asked step = .error (.refused (.faultyGraph g.scope g.problems))) ∨
    (∃ name, g.problems = [] ∧ firstUndeclared? records asked = some name ∧
      ∀ step : Except Failure α,
        g.afterCheck asked step = .error (.refused (.unknownFrame g.scope name))) ∨
    (g.IsTree ∧ (∀ name ∈ asked, name ∈ g.nodes) ∧
      ∀ step : Except Failure α, g.afterCheck asked step = step) := by
  intro g
  by_cases hproblems : g.problems = []
  · have htree : g.IsTree := isTree_of_traverses htraverse (List.isEmpty_iff.mpr hproblems)
    have hfirst : asked.find? (· ∉ g.nodes) = firstUndeclared? records asked := by
      simp only [g, firstUndeclared?, mem_nodes_buildAlong]
    cases hfind : firstUndeclared? records asked with
    | some name =>
      exact Or.inr (Or.inl ⟨name, hproblems, rfl, htree.afterCheck_of_missing (hfirst.trans hfind)⟩)
    | none =>
      have hnodes : ∀ name ∈ asked, name ∈ g.nodes := by simpa using hfirst.trans hfind
      exact Or.inr (Or.inr ⟨htree, hnodes, htree.afterCheck_of_nodes hnodes⟩)
  · exact Or.inl ⟨hproblems, afterCheck_of_faulty hproblems asked⟩

/-- What follows the check matters only on a tree, for nodes. -/
lemma afterCheck_congr (htraverse : Traverses traverse) {asked : List String}
    {step step' : Except Failure α}
    (h : (buildAlong traverse records scope).IsTree →
      (∀ name ∈ asked, name ∈ (buildAlong traverse records scope).nodes) → step = step') :
    (buildAlong traverse records scope).afterCheck asked step =
      (buildAlong traverse records scope).afterCheck asked step' := by
  obtain ⟨-, heq⟩ | ⟨name, -, -, heq⟩ | ⟨htree, hnodes, -⟩ :=
    afterCheck_cases htraverse records scope asked α
  · rw [heq, heq]
  · rw [heq, heq]
  · rw [h htree hnodes]

/-- A query that is answered whenever it passes the check ends as documented. -/
lemma answersAsDocumented_afterCheck (htraverse : Traverses traverse) {asked : List String}
    {step : Except Failure α}
    (hstep : (buildAlong traverse records scope).IsTree →
      (∀ name ∈ asked, name ∈ (buildAlong traverse records scope).nodes) →
        ∃ answer, step = .ok answer) :
    AnswersAsDocumented records (buildAlong traverse records scope) asked
      ((buildAlong traverse records scope).afterCheck asked step) := by
  have hall : firstUndeclared? records asked = none ↔ ∀ name ∈ asked, IsDeclared records name :=
    firstUndeclared?_eq_none_iff
  obtain ⟨hfaulty, heq⟩ | ⟨name, hvalid, hfind, heq⟩ | ⟨htree, hnodes, heq⟩ :=
    afterCheck_cases htraverse records scope asked α
  · rw [heq]
    exact ⟨by simp [hfaulty], by simp [hfaulty], by simp [hfaulty], by simp⟩
  · have hmissing : ¬ ∀ name ∈ asked, IsDeclared records name := by
      rw [← hall, hfind]
      simp
    rw [heq]
    refine ⟨by simp [hvalid], fun other => ?_, by simp [hmissing], fun failure h => ?_⟩
    · simp only [hvalid, hfind, Except.error.injEq, Failure.refused.injEq,
        QueryError.unknownFrame.injEq, true_and, Option.some.injEq]
    · obtain rfl := Except.error.inj h
      exact Or.inr ⟨name, List.mem_of_find?_eq_some hfind, rfl⟩
  · have hvalid : (buildAlong traverse records scope).problems = [] :=
      List.isEmpty_iff.mp htree.valid
    have hdeclared : ∀ name ∈ asked, IsDeclared records name :=
      fun name hname => mem_nodes_buildAlong.mp (hnodes name hname)
    obtain ⟨answer, rfl⟩ := hstep htree hnodes
    rw [heq]
    exact ⟨by simp [hvalid], by simp [hall.mpr hdeclared], by simpa [hvalid] using hdeclared,
      by simp⟩

/-- **Queries end as documented.** A query of a graph with problems is refused with all of them,
whatever names are asked for. Otherwise it is refused if a name asked for is neither the root's nor
a record's, with the first such name; and otherwise it is answered. No look-up, no ascent and no
search comes to nothing, whatever traversal resolves the root poses and whatever search for
shortest paths is taken; and the queries that run answer alike. -/
theorem queries_end_as_documented {search : Search} (htraverse : Traverses traverse)
    (hsearch : FindsShortest search) (records : List (FrameRecord P)) (scope x y : String) :
    let g := buildAlong traverse records scope
    (g.problems = [] → attemptRootPoses g.frames (traverse g.frames) = .ok g.rootPoses) ∧
    AnswersAsDocumented records g [x, y] (g.attemptPose x y) ∧
    AnswersAsDocumented records g [x, y] (g.attemptPath search x y) ∧
    AnswersAsDocumented records g [x] (g.attemptChain x) ∧
    g.attemptPose x y = (g.pose x y).mapError .refused ∧
    g.attemptPath search x y = (g.path x y).mapError .refused ∧
    g.attemptChain x = (g.chain x).mapError .refused := by
  intro g
  have hchain : g.attemptChain x = g.afterCheck [x] (.ok (g.chainOf x)) := by
    refine afterCheck_congr htraverse fun htree hx => ?_
    exact htree.attemptClimb_eq (hx x (by simp)) (Nat.lt_succ_self _)
  have hpath : g.attemptPath search x y =
      g.afterCheck [x, y] (.ok (joinChains (g.chainOf x) (g.chainOf y))) := by
    refine afterCheck_congr htraverse fun htree hxy => ?_
    rw [htree.search_eq hsearch (hxy x (by simp)) (hxy y (by simp))]
  refine ⟨fun h => ?_, ?_, ?_, ?_, attemptPose_eq g x y, ?_, ?_⟩
  · rw [buildAlong_rootPoses (List.isEmpty_iff.mpr h)]
    exact attemptRootPoses_eq (htraverse _ (nodup_insertRecords scope records))
  · refine answersAsDocumented_afterCheck htraverse fun htree hxy => ?_
    obtain ⟨rs, -, hp⟩ := htree.find?_rootPoses (hxy x (by simp))
    obtain ⟨ss, -, hq⟩ := htree.find?_rootPoses (hxy y (by simp))
    rw [attemptRootPose, hq, attemptRootPose, hp]
    exact ⟨_, rfl⟩
  · rw [hpath]
    exact answersAsDocumented_afterCheck htraverse fun _ _ => ⟨_, rfl⟩
  · rw [hchain]
    exact answersAsDocumented_afterCheck htraverse fun _ _ => ⟨_, rfl⟩
  · rw [hpath, path_mapError]
  · rw [hchain, chain_mapError]

theorem queries_of_branches :
    (build branches "scene").attemptPath searchByLength "C" "D" = .ok ["C", "B", "A", "D"] ∧
    (build branches "scene").attemptPose "nowhere" "neither" =
      .error (.refused (.unknownFrame "scene" "nowhere")) ∧
    (build (branches ++ branches) "scene").attemptChain "nowhere" =
      .error (.refused (.faultyGraph "scene" (build (branches ++ branches) "scene").problems)) := by
  have htree (x y : String) := queries_end_as_documented traverses_depthFirst
    findsShortest_searchByLength branches "scene" x y
  have hfaulty := queries_end_as_documented traverses_depthFirst findsShortest_searchByLength
    (branches ++ branches) "scene" "nowhere" "nowhere"
  refine ⟨?_, ?_, ?_⟩
  · obtain ⟨-, -, -, -, -, hpath, -⟩ := htree "C" "D"
    exact hpath.trans (by decide +kernel)
  · obtain ⟨-, hpose, -⟩ := htree "nowhere" "neither"
    exact (hpose.unknown "nowhere").mpr ⟨by decide +kernel, by decide +kernel⟩
  · obtain ⟨-, -, -, hchain, -⟩ := hfaulty
    exact hchain.faulty.mpr (by decide +kernel)

/-! ### Chains and paths -/

/-- The list runs from a node to the root, from each frame to that which it is relative to. -/
structure IsChainFrom (g : FrameGraph P) (x : String) (chain : List String) : Prop where
  head : chain.head? = some x
  last : chain.getLast? = some ""
  nodup : chain.Nodup
  steps : chain.IsChain fun a b => g.relativeTo a = .ok (some b)

namespace IsTree

lemma isChainFrom (h : g.IsTree) (hx : x ∈ g.nodes) : IsChainFrom g x (g.chainOf x) := by
  obtain ⟨rs, hclimb⟩ := h.exists_climbs hx
  rw [h.chainOf_eq hclimb]
  have hhead {x : String} {rs : List (FrameRecord P)} (hclimb : Climbs g.frames x rs) :
      (rs.map (·.name) ++ [""]).head? = some x := by
    obtain ⟨rest, hcons⟩ := exists_cons_bottom rs
    rw [hcons, hclimb.bottom_eq, List.head?_cons]
  refine ⟨hhead hclimb, by simp, hclimb.nodup_chain h.distinct, ?_⟩
  clear hx
  induction hclimb with
  | root => exact .singleton _
  | step found stands climb ih =>
    rw [List.map_cons, List.cons_append, name_of_findFrame found]
    refine ih.cons fun b hb => ?_
    obtain rfl : _ = b := by simpa [hhead climb] using hb
    exact relativeTo_of_standsOn stands

lemma attemptChain_eq (h : g.IsTree) (hx : x ∈ g.nodes) : g.attemptChain x = .ok (g.chainOf x) := by
  rw [attemptChain, h.afterCheck_of_nodes (by simpa using hx),
    h.attemptClimb_eq hx (Nat.lt_succ_self _)]

lemma attemptPath_eq {search : Search} (h : g.IsTree) (hsearch : FindsShortest search)
    (hx : x ∈ g.nodes) (hy : y ∈ g.nodes) :
    g.attemptPath search x y = .ok (joinChains (g.chainOf x) (g.chainOf y)) := by
  rw [attemptPath, h.afterCheck_of_nodes (by simp [hx, hy]), h.search_eq hsearch hx hy]

lemma path_eq (h : g.IsTree) (hx : x ∈ g.nodes) (hy : y ∈ g.nodes) :
    g.path x y = .ok (joinChains (g.chainOf x) (g.chainOf y)) := by
  obtain ⟨rs, -, hp⟩ := h.find?_rootPoses hx
  obtain ⟨ss, -, hq⟩ := h.find?_rootPoses hy
  simp only [path, requireValid, h.valid, rootPose, hp, hq]
  rfl

/-- The chains of two nodes run apart, and then together. -/
lemma exists_fork (h : g.IsTree) (hx : x ∈ g.nodes) (hy : y ∈ g.nodes) :
    ∃ (up down above : List String) (m : String), g.chainOf x = up ++ m :: above ∧
      g.chainOf y = down ++ m :: above ∧ (∀ a ∈ up, a ∉ down ++ m :: above) ∧
      ∀ a ∈ down, a ∉ up ++ m :: above := by
  obtain ⟨rs, hrs⟩ := h.exists_climbs hx
  obtain ⟨ss, hss⟩ := h.exists_climbs hy
  obtain ⟨below, below', above, hmeet⟩ := exists_meet h.distinct hrs hss
  obtain ⟨rest, hup, hdown, hapart, hapart'⟩ := hmeet.exists_fork h.distinct hrs hss
  exact ⟨_, _, rest, _, (h.chainOf_eq hrs).trans hup, (h.chainOf_eq hss).trans hdown, hapart,
    hapart'⟩

end IsTree

/-- **Chains and paths are those of the tree.** The ascent from a node ends, at the root, and passes
no node twice; each of its nodes is relative to the next. The path between two nodes is the only
one that passes no node twice. It runs up the chain of its source to the first node that is also on
the chain of its target, and then down that. So the path to the root is the chain, the path from a
node to itself is that node, and the path back is the reverse, whatever search for shortest paths is
taken. -/
theorem chain_and_path_of_tree {search : Search} (htraverse : Traverses traverse)
    (hsearch : FindsShortest search) (records : List (FrameRecord P)) (scope : String) :
    let g := buildAlong traverse records scope
    g.valid = true → ∀ x ∈ g.nodes, ∀ y ∈ g.nodes, ∃ chain chain' path : List String,
      g.attemptChain x = .ok chain ∧ g.attemptChain y = .ok chain' ∧
      g.attemptPath search x y = .ok path ∧
      (∀ fuel > g.frames.length, g.attemptClimb fuel x = .ok chain) ∧ IsChainFrom g x chain ∧
      (∀ p, IsSimplePath g.edges x y p ↔ p = path) ∧
      (∃ (up down above : List String) (m : String), chain = up ++ m :: above ∧
        chain' = down ++ m :: above ∧ (∀ a ∈ up, a ∉ chain') ∧ path = up ++ m :: down.reverse) ∧
      g.attemptPath search x "" = .ok chain ∧ g.attemptPath search x x = .ok [x] ∧
      g.attemptPath search y x = .ok path.reverse ∧
      g.chain x = .ok chain ∧ g.path x y = .ok path := by
  intro g hvalid x hx y hy
  have htree : g.IsTree := isTree_of_traverses htraverse hvalid
  have hunique {x y : String} (hx : x ∈ g.nodes) (hy : y ∈ g.nodes) {p : List String}
      (hp : IsSimplePath g.edges x y p) : g.attemptPath search x y = .ok p := by
    rw [htree.attemptPath_eq hsearch hx hy, (htree.isSimplePath_iff hx hy).mp hp]
  obtain ⟨rs, hclimb, hpose⟩ := htree.find?_rootPoses hx
  have hchain := htree.chainOf_eq hclimb
  have hpath : IsSimplePath g.edges x y (joinChains (g.chainOf x) (g.chainOf y)) :=
    (htree.isSimplePath_iff hx hy).mpr rfl
  refine ⟨g.chainOf x, g.chainOf y, _, htree.attemptChain_eq hx, htree.attemptChain_eq hy,
    hunique hx hy hpath, fun fuel => htree.attemptClimb_eq hx, htree.isChainFrom hx,
    fun p => htree.isSimplePath_iff hx hy, ?_, hunique hx List.mem_cons_self ?_,
    hunique hx hx ⟨.here x, List.nodup_singleton x⟩, hunique hy hx hpath.reverse, ?_,
    htree.path_eq hx hy⟩
  · obtain ⟨up, down, above, m, hup, hdown, hapart, hapart'⟩ := htree.exists_fork hx hy
    refine ⟨up, down, above, m, hup, hdown, hdown ▸ hapart, ?_⟩
    rw [hup, hdown]
    exact joinChains_append hapart fun hm => hapart' m hm (by simp)
  · rw [hchain]
    exact ⟨hclimb.isPath mem_edges_iff, hclimb.nodup_chain htree.distinct⟩
  · rw [hchain]
    exact htree.chain_eq hclimb hpose

theorem chain_and_path_of_branches : (build branches "scene").valid = true ∧
    (build branches "scene").attemptChain "C" = .ok ["C", "B", "A", ""] ∧
    (build branches "scene").attemptPath searchByLength "C" "D" = .ok ["C", "B", "A", "D"] ∧
    (build branches "scene").attemptPath searchByLength "D" "C" = .ok ["D", "A", "B", "C"] ∧
    ∀ p, IsSimplePath (build branches "scene").edges "C" "D" p ↔ p = ["C", "B", "A", "D"] := by
  have hvalid : (build branches "scene").valid = true := by decide +kernel
  obtain ⟨chain, -, path, hchain, -, hpath, -, -, hsimple, -, -, -, hback, hchain', hpath'⟩ :=
    chain_and_path_of_tree traverses_depthFirst findsShortest_searchByLength branches "scene"
      hvalid "C" (by decide +kernel) "D" (by decide +kernel)
  obtain rfl : chain = ["C", "B", "A", ""] :=
    Except.ok.inj (hchain'.symm.trans (by decide +kernel))
  obtain rfl : path = ["C", "B", "A", "D"] :=
    Except.ok.inj (hpath'.symm.trans (by decide +kernel))
  exact ⟨hvalid, hchain, hpath, hback, hsimple⟩

end FrameGraph

end SceneFrames
