import SceneFrames.Proofs.Frame.Graph
import Mathlib.Algebra.Ring.Nat

/-!
What the search for circles costs, and how it classifies the frames.

A walk is a loop: each round looks at one frame, and either ends the walk or passes the frame and
goes on to its base. A frame that is passed is marked, and no later walk passes it again. Over all
walks each frame is therefore passed exactly once, and there are at most as many rounds as frames
and walks together. In the end every frame is settled or doomed and none is both, and the settled
frames are those from which the root is reached.
-/

namespace SceneFrames

open Ascent Relation

variable {base? : String → Option String} {marks : Marks} {passed : List String}
  {current node x y : String} {found : List String × WalkEnd}

/-! ### Rounds -/

/-- The loop of a walk, from the frames passed and the current frame: its number of rounds, and
what it finds. Only a settled frame ends it before the round. -/
inductive Rounds (base? : String → Option String) (marks : Marks) :
    List String → String → ℕ → List String × WalkEnd → Prop
  | settled {passed : List String} {current : String} (hs : current ∈ marks.settled) :
      Rounds base? marks passed current 0 (passed, .home)
  | doomed {passed : List String} {current : String} (hs : current ∉ marks.settled)
      (hd : current ∈ marks.doomed) : Rounds base? marks passed current 1 (passed, .lost)
  | circle {passed : List String} {current : String} (hs : current ∉ marks.settled)
      (hd : current ∉ marks.doomed) (hp : current ∈ passed) :
      Rounds base? marks passed current 1
        (passed, .circle (passed.reverse.dropWhile (· != current)))
  | dangling {passed : List String} {current : String} (hs : current ∉ marks.settled)
      (hd : current ∉ marks.doomed) (hp : current ∉ passed) (hb : base? current = none) :
      Rounds base? marks passed current 1 (current :: passed, .lost)
  | onward {passed : List String} {current next : String} {n : ℕ} {found : List String × WalkEnd}
      (hs : current ∉ marks.settled) (hd : current ∉ marks.doomed) (hp : current ∉ passed)
      (hb : base? current = some next) (h : Rounds base? marks (current :: passed) next n found) :
      Rounds base? marks passed current (n + 1) found

/-- The loop of a walk that has come along a trail is the end of the loop of the whole walk. -/
lemma Rounds.of_trail {n : ℕ} (ht : Trail base? node passed current)
    (hf : Unmarked marks passed) (h : Rounds base? marks passed current n found) :
    Rounds base? marks [] node (n + passed.length) found := by
  induction ht generalizing n with
  | start => exact h
  | @step passed x y ht hxy ih =>
    obtain ⟨hx, hnd⟩ := List.nodup_cons.mp hf.nodup
    obtain ⟨hxs, hs⟩ := List.forall_mem_cons.mp hf.settled
    obtain ⟨hxd, hd⟩ := List.forall_mem_cons.mp hf.doomed
    have hround := ih ⟨hnd, hs, hd⟩ (.onward hxs hxd hx hxy h)
    rwa [List.length_cons, Nat.add_comm passed.length, ← Nat.add_assoc]

/-- **The loop of a walk ends**, after at most one round more than it passes frames. -/
theorem Walked.exists_rounds (hw : Walked base? marks node found)
    (hdisj : List.Disjoint marks.settled marks.doomed) :
    ∃ n, Rounds base? marks [] node n found ∧ n ≤ found.1.length + 1 := by
  cases hw with
  | @settled passed stop trail fresh mem =>
    exact ⟨_, .of_trail trail fresh (.settled mem), by simp⟩
  | @doomed passed stop trail fresh mem =>
    have hs : stop ∉ marks.settled := fun hs => hdisj hs mem
    exact ⟨_, .of_trail trail fresh (.doomed hs mem), by simp [Nat.add_comm]⟩
  | @dangling passed stop trail fresh none =>
    obtain ⟨hp, hnd⟩ := List.nodup_cons.mp fresh.nodup
    obtain ⟨hs, hss⟩ := List.forall_mem_cons.mp fresh.settled
    obtain ⟨hd, hds⟩ := List.forall_mem_cons.mp fresh.doomed
    exact ⟨_, .of_trail trail ⟨hnd, hss, hds⟩ (.dangling hs hd hp none), by
      simp only [List.length_cons]
      omega⟩
  | @circle passed stop trail fresh mem =>
    have hround : Rounds base? marks passed stop 1 _ :=
      .circle (fresh.settled stop mem) (fresh.doomed stop mem) mem
    exact ⟨_, .of_trail trail fresh hround, by simp [Nat.add_comm]⟩

/-! ### What one walk marks -/

lemma Walked.unmarked (hw : Walked base? marks node found) : Unmarked marks found.1 := by
  cases hw with
  | settled _ fresh _ | doomed _ fresh _ | dangling _ fresh _ | circle _ fresh _ => exact fresh

/-- A trail stays among nodes that hold the bases of all of them. -/
lemma Trail.subset_nodes {nodes : List String} (ht : Trail base? node passed current)
    (hnode : node ∈ nodes) (hclosed : ∀ x y, StandsOn base? x y → y ∈ nodes) :
    current :: passed ⊆ nodes := by
  induction ht with
  | start => simpa using hnode
  | @step passed x y _ hxy ih => exact List.cons_subset.mpr ⟨hclosed x y hxy, ih⟩

lemma Walked.subset_nodes {nodes : List String} (hw : Walked base? marks node found)
    (hnode : node ∈ nodes) (hclosed : ∀ x y, StandsOn base? x y → y ∈ nodes) :
    found.1 ⊆ nodes := by
  cases hw with
  | settled trail _ _ | doomed trail _ _ | circle trail _ _ =>
    exact (List.cons_subset.mp (trail.subset_nodes hnode hclosed)).2
  | dangling trail _ _ => exact trail.subset_nodes hnode hclosed

/-- A walk marks what it passes. -/
lemma marked_after_perm (marks : Marks) (found : List String × WalkEnd) :
    ((marks.after found).settled ++ (marks.after found).doomed).Perm
      (found.1 ++ (marks.settled ++ marks.doomed)) := by
  rcases found with ⟨passed, _ | _ | route⟩
  · exact (List.append_assoc passed marks.settled marks.doomed) ▸ .refl _
  all_goals
    have hmove := (@List.perm_append_comm _ marks.settled passed).append_right
      marks.doomed
    rwa [List.append_assoc, List.append_assoc] at hmove

/-- **No walk finds a circle that has been noted**: the search for it among those noted fails. -/
lemma Walked.not_noted (hw : Walked base? marks node found) (h : Tracks base? marks)
    {route : List String} (hroute : found.2 = .circle route) :
    marks.circles.any (sameFrames route) = false := by
  cases hw with
  | settled | doomed | dangling => simp at hroute
  | @circle passed stop trail fresh mem =>
    obtain ⟨tail, rest, -, hp, hdrop⟩ := exists_tail_route mem
    obtain rfl : stop :: rest = route := by simpa [hdrop] using hroute
    refine h.not_noted (List.cons_ne_nil stop rest) fun x hx => fresh.doomed x ?_
    exact List.mem_reverse.mp (hp ▸ List.mem_append_right tail hx)

/-! ### All walks -/

/-- A walk of the search: the marks that it starts with, the node it starts from, and what it
finds. -/
structure Walk where
  marks : Marks
  node : String
  found : List String × WalkEnd

/-- The walks from nodes in order. -/
def walksFrom (base? : String → Option String) (fuel : ℕ) : Marks → List String → List Walk
  | _, [] => []
  | marks, node :: nodes =>
    let found := walk base? marks fuel [] node
    ⟨marks, node, found⟩ :: walksFrom base? fuel (marks.after found) nodes

section Run

variable {all nodes : List String} {fuel : ℕ}

lemma walksFrom_append (first second : List String) : walksFrom base? fuel marks (first ++ second) =
    walksFrom base? fuel marks first ++
      walksFrom base? fuel (first.foldl
        (fun marks node => marks.after (walk base? marks fuel [] node)) marks) second := by
  induction first generalizing marks with
  | nil => rfl
  | cons node first ih => simp [walksFrom, ih]

lemma walksFrom_concat : walksFrom base? fuel {} (nodes ++ [node]) =
    walksFrom base? fuel {} nodes ++
      [⟨marksAfter base? fuel nodes, node,
        walk base? (marksAfter base? fuel nodes) fuel [] node⟩] :=
  walksFrom_append nodes [node]

/-- The walks leave the marks. -/
lemma foldl_after_walksFrom : ((walksFrom base? fuel marks nodes).map (·.found)).foldl Marks.after
    marks = nodes.foldl (fun marks node => marks.after (walk base? marks fuel [] node)) marks := by
  induction nodes generalizing marks with
  | nil => rfl
  | cons node nodes ih => simpa [walksFrom] using ih

lemma map_node_walksFrom : (walksFrom base? fuel marks nodes).map (·.node) = nodes := by
  induction nodes generalizing marks with
  | nil => rfl
  | cons node nodes ih => simp [walksFrom, ih]

/-- The marked frames are the root and those that have been passed. -/
lemma marked_perm (nodes : List String) :
    ((marksAfter base? fuel nodes).settled ++ (marksAfter base? fuel nodes).doomed).Perm
      ("" :: (walksFrom base? fuel {} nodes).flatMap (·.found.1)) := by
  induction nodes using List.reverseRecOn with
  | nil => exact .refl _
  | append_singleton nodes node ih =>
    rw [marksAfter_concat, walksFrom_concat, List.flatMap_append, List.flatMap_singleton]
    refine (marked_after_perm _ _).trans ?_
    exact (ih.append_left _).trans (@List.perm_append_comm _ _ ("" :: _))

/-- No frame is marked twice. -/
lemma nodup_marked (hen : Encloses all base?) (hfuel : all.length < fuel) (nodes : List String) :
    ((marksAfter base? fuel nodes).settled ++ (marksAfter base? fuel nodes).doomed).Nodup := by
  induction nodes using List.reverseRecOn with
  | nil => simp [marksAfter]
  | append_singleton nodes node ih =>
    have hf := (walk_start hen hfuel (marksAfter base? fuel nodes) node).unmarked
    rw [marksAfter_concat, (marked_after_perm _ _).nodup_iff]
    refine hf.nodup.append ih (List.disjoint_append_right.mpr ⟨hf.settled, hf.doomed⟩)

/-- Only nodes are marked. -/
lemma marked_subset (hen : Encloses all base?) (hfuel : all.length < fuel) (hroot : "" ∈ all)
    (hclosed : ∀ x y, StandsOn base? x y → y ∈ all) (hnodes : nodes ⊆ all) :
    (marksAfter base? fuel nodes).settled ++ (marksAfter base? fuel nodes).doomed ⊆ all := by
  induction nodes using List.reverseRecOn with
  | nil => simpa [marksAfter] using hroot
  | append_singleton nodes node ih =>
    obtain ⟨hinit, hnode⟩ := List.append_subset.mp hnodes
    have hpassed := (walk_start hen hfuel (marksAfter base? fuel nodes) node).subset_nodes
      (hnode (by simp)) hclosed
    rw [marksAfter_concat]
    exact fun x hx => (List.mem_append.mp ((marked_after_perm _ _).mem_iff.mp hx)).elim
      (fun h => hpassed h) fun h => ih hinit h

/-- The loops of the walks end, and what they cost together. -/
lemma exists_rounds (hen : Encloses all base?) (hfuel : all.length < fuel) (nodes : List String) :
    ∃ rounds : List ℕ, List.Forall₂
        (fun w n => Rounds base? w.marks [] w.node n w.found) (walksFrom base? fuel {} nodes)
        rounds ∧
      rounds.sum ≤ ((walksFrom base? fuel {} nodes).flatMap (·.found.1)).length +
        nodes.length := by
  induction nodes using List.reverseRecOn with
  | nil => exact ⟨[], .nil, by simp⟩
  | append_singleton nodes node ih =>
    obtain ⟨rounds, hrounds, hsum⟩ := ih
    have hdisj := List.disjoint_of_nodup_append (nodup_marked hen hfuel nodes)
    obtain ⟨n, hn, hle⟩ :=
      (walk_start hen hfuel (marksAfter base? fuel nodes) node).exists_rounds hdisj
    rw [walksFrom_concat]
    refine ⟨rounds ++ [n], List.rel_append hrounds (.cons hn .nil), ?_⟩
    simp only [List.sum_append, List.sum_singleton, List.flatMap_append, List.flatMap_singleton,
      List.length_append, List.length_singleton]
    omega

/-- No circle is found twice. -/
lemma walks_not_noted (hen : Encloses all base?) (hfuel : all.length < fuel)
    (nodes : List String) {w : Walk} (hw : w ∈ walksFrom base? fuel {} nodes)
    {route : List String} (hroute : w.found.2 = .circle route) :
    w.marks.circles.any (sameFrames route) = false := by
  induction nodes using List.reverseRecOn with
  | nil => simp [walksFrom] at hw
  | append_singleton nodes node ih =>
    rw [walksFrom_concat] at hw
    rcases List.mem_append.mp hw with hw' | hw'
    · exact ih hw'
    · obtain rfl := List.mem_singleton.mp hw'
      exact (walk_start hen hfuel _ node).not_noted (tracks_marksAfter hen hfuel nodes) hroute

/-- A lost frame does not lead to the root. -/
lemma Ascent.Lost.not_leads_root (h : Lost base? x) (hroot : base? "" = none) :
    ¬ Leads base? x "" := by
  intro hx
  rcases h with ⟨c, hc, hxc⟩ | ⟨y, hy, hnone, hxy⟩
  · exact hxc.not_leads hc hroot hx
  · rcases hxy.total hx with hyr | hry
    · exact hy (hyr.eq_of_none hnone).symm
    · exact hy (hry.eq_of_none hroot)

/-- The settled frames are those that lead to the root. -/
lemma mem_settled_iff (hen : Encloses all base?) (hfuel : all.length < fuel)
    (hroot : base? "" = none) :
    x ∈ (marksAfter base? fuel all).settled ↔ Leads base? x "" := by
  have htracks := tracks_marksAfter hen hfuel all
  refine ⟨htracks.settled x, fun hx => ?_⟩
  rcases hx.cases_head with rfl | ⟨y, hxy, -⟩
  · exact htracks.root
  · refine (marked_of_mem hen hfuel (hen x y hxy)).resolve_right fun hd => ?_
    exact (htracks.doomed x hd).not_leads_root hroot hx

end Run

namespace FrameGraph

variable {P : Type}

/-- The walks of the search for circles in a graph. -/
def walks (g : FrameGraph P) : List Walk := walksFrom g.base? (g.frames.length + 2) {} g.nodes

variable [RigidMotion P]

/-- **The search for circles classifies every frame once.** The marks in the end are left by one
walk from each node in order. The walks pass each frame exactly once. Their loops end, after at
most as many rounds as there are frames and walks. Every node is settled or doomed and not both,
and it is settled just if it leads to the root. No walk finds a circle that has been noted. -/
theorem frames_classified_once (records : List (FrameRecord P)) (scope : String) :
    let g := build records scope
    (g.walks.map (·.found)).foldl Marks.after {} = markAll g.frames ∧
      g.walks.map (·.node) = g.nodes ∧
      (g.walks.flatMap (·.found.1)).Perm (g.frames.map (·.name)) ∧
      (g.walks.flatMap (·.found.1)).Nodup ∧
      (∃ rounds : List ℕ,
        List.Forall₂ (fun w n => Rounds g.base? w.marks [] w.node n w.found) g.walks rounds ∧
          rounds.sum ≤ g.frames.length + g.walks.length) ∧
      (∀ x ∈ g.nodes, Xor (x ∈ (markAll g.frames).settled) (x ∈ (markAll g.frames).doomed)) ∧
      (∀ x, x ∈ (markAll g.frames).settled ↔ Leads g.base? x "") ∧
      ∀ w ∈ g.walks, ∀ route, w.found.2 = .circle route →
        w.marks.circles.any (sameFrames route) = false := by
  intro g
  have hbase : g.base? = declaredBase? records := buildAlong_base?
  have hen : Encloses g.nodes g.base? := hbase ▸ encloses_nodes scope records
  have hfuel : g.nodes.length < g.frames.length + 2 := by simp [nodes]
  have hroot : g.base? "" = none := hbase ▸ declaredBase?_root
  have hclosed : ∀ x y, StandsOn g.base? x y → y ∈ g.nodes := fun x y hxy => by
    rw [hbase] at hxy
    exact mem_nodes_buildAlong.mpr (isDeclared_base hxy)
  have hmarks : markAll g.frames = marksAfter g.base? (g.frames.length + 2) g.nodes := rfl
  have hnodup := nodup_marked hen hfuel g.nodes
  have hperm : ("" :: g.walks.flatMap (·.found.1)).Perm ("" :: g.frames.map (·.name)) := by
    refine (marked_perm g.nodes).symm.trans ?_
    refine (List.perm_ext_iff_of_nodup hnodup (nodup_insertRecords scope records)).mpr fun x => ?_
    refine ⟨fun hx => marked_subset hen hfuel (by simp [nodes]) hclosed (fun _ h => h) hx, ?_⟩
    exact fun hx => List.mem_append.mpr (marked_of_mem hen hfuel hx)
  have hpassed := hperm.cons_inv
  have hframes := (List.nodup_cons.mp (nodup_insertRecords scope records)).2
  refine ⟨foldl_after_walksFrom, map_node_walksFrom, hpassed, hpassed.nodup_iff.mpr hframes, ?_,
    fun x hx => ?_, fun x => mem_settled_iff hen hfuel hroot,
    fun w hw route => walks_not_noted hen hfuel g.nodes hw⟩
  · obtain ⟨rounds, hrounds, hsum⟩ := exists_rounds hen hfuel g.nodes
    refine ⟨rounds, hrounds, hsum.trans_eq ?_⟩
    have hlength := hpassed.length_eq
    have hnodes : (walksFrom g.base? (g.frames.length + 2) {} g.nodes).map (·.node) = g.nodes :=
      map_node_walksFrom
    have hwalks := congrArg List.length hnodes
    rw [List.length_map] at hlength hwalks
    exact congrArg₂ (· + ·) hlength hwalks.symm
  · rw [hmarks]
    have hdisj := List.disjoint_of_nodup_append hnodup
    rcases marked_of_mem hen hfuel hx with hs | hd
    · exact .inl ⟨hs, hdisj hs⟩
    · exact .inr ⟨hd, fun hs => hdisj hs hd⟩

end FrameGraph

end SceneFrames
