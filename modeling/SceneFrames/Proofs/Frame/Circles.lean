import SceneFrames.Proofs.Frame.Graph

/-!
Which circles are reported, and how.

The walks of a graph discover every circle of bases exactly once. A circle is discovered by the
earliest node that leads into it, since every earlier node has been marked and leads elsewhere,
and it is written down from the frame at which the walk enters it.
-/

namespace SceneFrames

open Ascent

variable {base? : String → Option String}

/-- A node discovers a circle: no earlier node leads into it, and the ascent from the node comes
to the first frame of the route before any other of the circle. -/
structure Discovers (base? : String → Option String) (nodes : List String) (node : String)
    (route : List String) : Prop where
  earliest : ∃ before after, nodes = before ++ node :: after ∧
    ∀ x ∈ before, ¬ LeadsInto base? x (route : Cycle String)
  enters : ∃ tail, (tail ++ route).head? = some node ∧
    (tail ++ route).IsChain (StandsOn base?) ∧ ∀ x ∈ tail, x ∉ route

/-- Circles with the nodes that discover them, in the order of the nodes. -/
structure Discoveries (base? : String → Option String) (nodes : List String)
    (found : List (String × List String)) : Prop where
  ordered : (found.map (·.1)).Sublist nodes
  discovers : ∀ p ∈ found, Discovers base? nodes p.1 p.2

section Run

variable {nodes passed route tail rest : List String} {node stop : String} {marks : Marks}
  {found : List (String × List String)}

lemma Discovers.concat (h : Discovers base? nodes node route) (last : String) :
    Discovers base? (nodes ++ [last]) node route := by
  obtain ⟨⟨before, after, rfl, hbefore⟩, henters⟩ := h
  exact ⟨⟨before, after ++ [last], by simp, hbefore⟩, henters⟩

lemma Discoveries.concat (h : Discoveries base? nodes found) (last : String) :
    Discoveries base? (nodes ++ [last]) found :=
  ⟨h.ordered.trans (List.sublist_append_left nodes [last]),
    fun p hp => (h.discovers p hp).concat last⟩

lemma Discoveries.snoc (h : Discoveries base? nodes found)
    (hnew : Discovers base? (nodes ++ [node]) node route) :
    Discoveries base? (nodes ++ [node]) (found ++ [(node, route)]) := by
  refine ⟨?_, fun p hp => ?_⟩
  · rw [List.map_append]
    exact h.ordered.append (List.Sublist.refl [node])
  · rcases List.mem_append.mp hp with hp' | hp'
    · exact (h.discovers p hp').concat node
    · rw [List.mem_singleton.mp hp']
      exact hnew

/-- A node from which a walk comes back to itself discovers the circle. -/
lemma Trail.discovers (ht : Trail base? node passed stop) (hnd : passed.Nodup)
    (hp : passed.reverse = tail ++ stop :: rest)
    (hearlier : ∀ x ∈ nodes, ¬ LeadsInto base? x ((stop :: rest : List String) : Cycle String)) :
    Discovers base? (nodes ++ [node]) node (stop :: rest) := by
  have hhead := ht.head?_eq
  have hchain := ht.isChain
  rw [hp] at hhead hchain
  have hnd' : (tail ++ stop :: rest).Nodup := hp ▸ List.nodup_reverse.mpr hnd
  refine ⟨⟨nodes, [], rfl, hearlier⟩, tail, ?_, hchain.left_of_append, ?_⟩
  · rw [List.head?_append_of_ne_nil _ (by simp)] at hhead
    exact hhead
  · exact fun x hx hx' => List.disjoint_of_nodup_append hnd' hx hx'

/-- **Discoveries are made by the walks**: the circles noted are those discovered, in order. -/
theorem exists_discoveries {all : List String} {fuel : ℕ} (hen : Encloses all base?)
    (hfuel : all.length < fuel) (hroot : base? "" = none) (nodes : List String) :
    ∃ found : List (String × List String),
      found.map (·.2) = (marksAfter base? fuel nodes).circles ∧
        Discoveries base? nodes found := by
  induction nodes using List.reverseRecOn with
  | nil => exact ⟨[], rfl, by simp, by simp⟩
  | append_singleton nodes node ih =>
    obtain ⟨found, hfound, hdisc⟩ := ih
    have htracks := tracks_marksAfter hen hfuel nodes
    have hwalked := walk_start hen hfuel (marksAfter base? fuel nodes) node
    rw [marksAfter_concat]
    generalize walk base? (marksAfter base? fuel nodes) fuel [] node = walked at hwalked ⊢
    cases hwalked with
    | settled _ _ _ => exact ⟨found, hfound, hdisc.concat node⟩
    | doomed _ _ _ => exact ⟨found, hfound, hdisc.concat node⟩
    | dangling _ _ _ => exact ⟨found, hfound, hdisc.concat node⟩
    | @circle passed stop trail fresh mem =>
      obtain ⟨tail, rest, -, hp, hsub, hafter⟩ := htracks.after_circle fresh mem
      have hcircle := isCircle_route trail fresh.nodup hp
      have hun : ∀ x ∈ stop :: rest, x ∉ (marksAfter base? fuel nodes).doomed :=
        fun x hx => fresh.doomed x (hsub hx)
      -- an earlier node that led into the circle would have doomed its frames
      have hearlier : ∀ x ∈ nodes,
          ¬ LeadsInto base? x ((stop :: rest : List String) : Cycle String) := by
        intro x hx hinto
        rcases marked_of_mem hen hfuel hx with hs | hd
        · exact hinto.not_leads hcircle hroot (htracks.settled x hs)
        · obtain ⟨r, hr, he⟩ := htracks.noted x hd _ hcircle hinto
          exact htracks.coe_ne (by simp) hun hr he
      refine ⟨found ++ [(node, stop :: rest)], ?_,
        hdisc.snoc (trail.discovers fresh.nodup hp hearlier)⟩
      rw [hafter, List.map_append, hfound]
      rfl

end Run

/-! ### Problems of a graph -/

variable {P : Type} {scope : String} {records : List (FrameRecord P)}

lemma code_of_mem_insertRecords {p : Problem} (h : p ∈ (insertRecords scope records).2) :
    p.code = .duplicateName := by
  obtain ⟨r, -, first, -, rfl⟩ := exists_saysRepeated (insertRecords_uses scope records).2 h
  rfl

lemma code_of_baseProblem? {frames : List (FrameRecord P)} {r : FrameRecord P} {p : Problem}
    (h : baseProblem? scope frames r = some p) : p.code = .poseRelativeToInvalid := by
  unfold baseProblem? at h
  split at h
  · simp at h
  · rw [← Option.some.inj h]
    rfl

/-- Problems of one code are all filed under it, and none under another. -/
lemma filter_code {ps : List Problem} {c d : ProblemCode} (h : ∀ p ∈ ps, p.code = c) :
    ps.filter (·.code == d) = if c = d then ps else [] := by
  split
  · rename_i hcd
    exact List.filter_eq_self.mpr fun p hp => by simp [h p hp, hcd]
  · rename_i hcd
    exact List.filter_eq_nil_iff.mpr fun p hp => by simp [h p hp, hcd]

namespace FrameGraph

variable [RigidMotion P] (traverse : List (FrameRecord P) → Traversal)

/-- The problems of each code are one of the three blocks. -/
lemma filter_problems (d : ProblemCode) :
    (buildAlong traverse records scope).problems.filter (·.code == d) =
      (if .duplicateName = d then (insertRecords scope records).2 else []) ++
        (if .poseRelativeToInvalid = d then (insertRecords scope records).1.filterMap
          (baseProblem? scope (insertRecords scope records).1) else []) ++
        if .poseRelativeToCycle = d then
          (markAll (insertRecords scope records).1).circles.map (Problem.circle scope) else [] := by
  rw [buildAlong_problems, List.filter_append, List.filter_append,
    filter_code fun _ => code_of_mem_insertRecords,
    filter_code (c := .poseRelativeToInvalid), filter_code (c := .poseRelativeToCycle)]
  · intro p hp
    obtain ⟨route, -, rfl⟩ := List.mem_map.mp hp
    rfl
  · intro p hp
    obtain ⟨r, -, hr⟩ := List.mem_filterMap.mp hp
    exact code_of_baseProblem? hr

/-- The problems filed as repeated names are those met on insertion. -/
lemma filter_repeated :
    (buildAlong traverse records scope).problems.filter (·.code == .duplicateName) =
      (insertRecords scope records).2 := by
  simp [filter_problems]

/-- The problems filed as unknown bases are those of the frames. -/
lemma filter_dangling :
    (buildAlong traverse records scope).problems.filter (·.code == .poseRelativeToInvalid) =
      (insertRecords scope records).1.filterMap
        (baseProblem? scope (insertRecords scope records).1) := by
  simp [filter_problems]

/-- The problems filed as circles are those of the noted circles. -/
lemma filter_circles :
    (buildAlong traverse records scope).problems.filter (·.code == .poseRelativeToCycle) =
      (markAll (insertRecords scope records).1).circles.map (Problem.circle scope) := by
  simp [filter_problems]

/-- **Circles.** The problems filed as circles correspond one to one to the circles of the bases
that the records declare. They come in the order of the nodes that discover them, and each is
written from the frame at which its circle is entered, around to that frame again. -/
theorem circles_reported_once (records : List (FrameRecord P)) (scope : String) :
    (build records scope).base? = declaredBase? records ∧
    ∃ found : List (String × List String),
      (build records scope).problems.filter (·.code == .poseRelativeToCycle) =
        found.map (fun p => Problem.circle scope p.2) ∧
      (found.map fun p => Cycle.ofList p.2).Nodup ∧
      (∀ c : Cycle String, c ∈ found.map (fun p => Cycle.ofList p.2) ↔
        IsCircle (declaredBase? records) c) ∧
      Discoveries (declaredBase? records) (build records scope).nodes found ∧
      ∀ p ∈ found, ∃ c₀ rest, p.2 = c₀ :: rest ∧ (Problem.circle scope p.2).message =
        "relative_to cycle detected at frame [" ++ c₀ ++ "] in scope [" ++ scope ++ "]: " ++
          " -> ".intercalate (c₀ :: rest ++ [c₀]) := by
  refine ⟨buildAlong_base?, ?_⟩
  have hen := encloses_nodes scope records
  have hfuel := length_nodes_lt scope records
  obtain ⟨found, hfound, hdisc⟩ := exists_discoveries hen hfuel declaredBase?_root
    (build records scope).nodes
  have htracks := tracks_marksAfter hen hfuel (build records scope).nodes
  have hnoted := exists_noted_iff hen hfuel declaredBase?_root
  have hlist : found.map (fun p => Cycle.ofList p.2) = (marksAfter (declaredBase? records)
      ((insertRecords scope records).1.length + 2) (build records scope).nodes).circles.map
        Cycle.ofList := by
    rw [← hfound, List.map_map]
    rfl
  refine ⟨found, ?_, ?_, fun c => ?_, hdisc, fun p hp => ?_⟩
  · rw [build, filter_circles, markAll_insertRecords]
    have := congrArg (List.map (Problem.circle scope)) hfound
    rw [List.map_map] at this
    exact this.symm
  · rw [hlist]
    exact htracks.distinct
  · rw [hlist, List.mem_map]
    exact hnoted c
  · have hmem : p.2 ∈ found.map (·.2) := List.mem_map_of_mem hp
    rw [hfound] at hmem
    have hne := (htracks.circle _ hmem).ne_nil
    cases hp2 : p.2 with
    | nil => exact absurd (by rw [hp2]; rfl) hne
    | cons c₀ rest => exact ⟨c₀, rest, rfl, rfl⟩

end FrameGraph

end SceneFrames
