import Mathlib.Data.List.Nodup
import Mathlib.Data.List.Perm.Subperm
import Mathlib.Tactic.Lemma

/-!
Paths over the edges of a graph.

A path may pass an edge in either direction. One that passes a node twice can be cut short, so a
shortest path is simple, and where there is one simple path it is the shortest. A search for a
shortest path is taken as it is promised; trying all paths, the shorter ones first, is such a
search.
-/

namespace SceneFrames

variable {edges : List (String × String)} {x y z : String} {p q : List String}

/-- There is an edge between the nodes, in one direction or the other. -/
def Linked (edges : List (String × String)) (x y : String) : Prop :=
  (x, y) ∈ edges ∨ (y, x) ∈ edges

/-- The nodes on a way from one node to another. -/
inductive IsPath (edges : List (String × String)) : String → String → List String → Prop
  | here (x : String) : IsPath edges x x [x]
  | step {x z y : String} {p : List String} (link : Linked edges x z)
      (rest : IsPath edges z y p) : IsPath edges x y (x :: p)

/-- A path that passes no node twice. -/
structure IsSimplePath (edges : List (String × String)) (x y : String) (p : List String) :
    Prop where
  isPath : IsPath edges x y p
  nodup : p.Nodup

/-- A path with as few nodes as any between the same nodes. -/
structure IsShortestPath (edges : List (String × String)) (x y : String) (p : List String) :
    Prop where
  isPath : IsPath edges x y p
  length_le : ∀ q, IsPath edges x y q → p.length ≤ q.length

/-! ### Paths in any graph -/

lemma Linked.symm (h : Linked edges x y) : Linked edges y x := Or.symm h

namespace IsPath

lemma eq_cons (h : IsPath edges x y p) : ∃ rest, p = x :: rest := by
  cases h with
  | here => exact ⟨[], rfl⟩
  | step _ _ => exact ⟨_, rfl⟩

/-- From a node that it passes, a path is a path. -/
lemma drop {before : List String} (h : IsPath edges x y (before ++ z :: q)) :
    IsPath edges z y (z :: q) := by
  induction before generalizing x with
  | nil =>
    obtain ⟨rest, heq⟩ := h.eq_cons
    obtain rfl := (List.cons.inj heq).1
    exact h
  | cons a before ih =>
    cases hcons : before ++ z :: q with
    | nil => simp at hcons
    | cons b rest =>
      rw [List.cons_append, hcons] at h
      cases h with
      | step _ hrest => exact ih (hcons ▸ hrest)

lemma trans (h : IsPath edges x y p) (h' : IsPath edges y z (y :: q)) :
    IsPath edges x z (p ++ q) := by
  induction h with
  | here => exact h'
  | step link _ ih => exact .step link (ih h')

lemma reverse (h : IsPath edges x y p) : IsPath edges y x p.reverse := by
  induction h with
  | here x => exact .here x
  | step link _ ih =>
    rw [List.reverse_cons]
    exact ih.trans (.step link.symm (.here _))

/-- A path that passes a node twice can be cut short. -/
lemma exists_simple (h : IsPath edges x y p) :
    ∃ q, IsSimplePath edges x y q ∧ (q = p ∨ q.length < p.length) := by
  induction h with
  | here x => exact ⟨[x], ⟨.here x, by simp⟩, Or.inl rfl⟩
  | @step x z y p link _ ih =>
    obtain ⟨q, ⟨hq, hnd⟩, hlen⟩ := ih
    have hle : q.length ≤ p.length := hlen.elim (fun h => h ▸ Nat.le_refl _) Nat.le_of_lt
    by_cases hmem : x ∈ q
    · obtain ⟨before, rest, rfl⟩ := List.append_of_mem hmem
      refine ⟨x :: rest, ⟨hq.drop, hnd.of_append_right⟩, Or.inr ?_⟩
      simp only [List.length_append, List.length_cons] at hle ⊢
      omega
    · refine ⟨x :: q, ⟨.step link hq, List.nodup_cons.mpr ⟨hmem, hnd⟩⟩, ?_⟩
      exact hlen.imp (congrArg (x :: ·)) fun h => by simpa using h

end IsPath

lemma IsSimplePath.reverse (h : IsSimplePath edges x y p) : IsSimplePath edges y x p.reverse :=
  ⟨h.isPath.reverse, List.nodup_reverse.mpr h.nodup⟩

/-- A shortest path passes no node twice. -/
lemma IsShortestPath.isSimplePath (h : IsShortestPath edges x y p) : IsSimplePath edges x y p := by
  obtain ⟨q, hq, rfl | hlt⟩ := h.isPath.exists_simple
  · exact hq
  · exact absurd (h.length_le q hq.isPath) (Nat.not_le.mpr hlt)

/-- Where there is one simple path, it is the shortest. -/
lemma IsSimplePath.isShortestPath (h : IsSimplePath edges x y p)
    (hunique : ∀ q, IsSimplePath edges x y q → q = p) : IsShortestPath edges x y p where
  isPath := h.isPath
  length_le q hq := by
    obtain ⟨q', hq', hlen⟩ := hq.exists_simple
    rw [← hunique q' hq']
    exact hlen.elim (fun h => Nat.le_of_eq (congrArg _ h)) Nat.le_of_lt

/-! ### Searches -/

/-- A search for a path in a graph of nodes and edges, from one node to another. -/
abbrev Search := List String → List (String × String) → String → String → Option (List String)

/-- The edges run between the nodes. -/
def EdgesWithin (nodes : List String) (edges : List (String × String)) : Prop :=
  ∀ e ∈ edges, e.1 ∈ nodes ∧ e.2 ∈ nodes

/-- The search comes to a shortest path where there is a path. -/
def FindsShortest (search : Search) : Prop :=
  ∀ nodes edges x y p, EdgesWithin nodes edges → x ∈ nodes → y ∈ nodes → IsPath edges x y p →
    ∃ q, search nodes edges x y = some q ∧ IsShortestPath edges x y q

/-- The nodes that are linked to a node. -/
def neighbours (edges : List (String × String)) (x : String) : List String :=
  (edges.filter (·.1 == x)).map (·.2) ++ (edges.filter (·.2 == x)).map (·.1)

/-- The paths from a node that pass a number of edges. -/
def pathsFrom (edges : List (String × String)) : ℕ → String → List (List String)
  | 0, x => [[x]]
  | n + 1, x => (neighbours edges x).flatMap fun z => (pathsFrom edges n z).map (x :: ·)

lemma mem_neighbours : z ∈ neighbours edges x ↔ Linked edges x z := by
  simp [neighbours, Linked]

lemma IsPath.getLast?_eq (h : IsPath edges x y p) : p.getLast? = some y := by
  induction h with
  | here => rfl
  | step _ rest ih =>
    obtain ⟨tail, rfl⟩ := rest.eq_cons
    rwa [List.getLast?_cons_cons]

lemma IsPath.subset {nodes : List String} (hin : EdgesWithin nodes edges) (hx : x ∈ nodes)
    (h : IsPath edges x y p) : p ⊆ nodes := by
  induction h with
  | here => simpa using hx
  | step link _ ih =>
    exact List.cons_subset.mpr ⟨hx, ih (link.elim (fun h => (hin _ h).2) fun h => (hin _ h).1)⟩

lemma mem_pathsFrom {n : ℕ} :
    p ∈ pathsFrom edges n x ↔ p.length = n + 1 ∧ ∃ y, IsPath edges x y p := by
  induction n generalizing x p with
  | zero =>
    rw [pathsFrom, List.mem_singleton]
    constructor
    · rintro rfl
      exact ⟨rfl, x, .here x⟩
    · rintro ⟨hlen, y, h⟩
      obtain ⟨rest, rfl⟩ := h.eq_cons
      simpa using hlen
  | succ n ih =>
    simp only [pathsFrom, List.mem_flatMap, List.mem_map, mem_neighbours, ih]
    constructor
    · rintro ⟨z, hz, p, ⟨hlen, y, hp⟩, rfl⟩
      exact ⟨by simpa using hlen, y, .step hz hp⟩
    · rintro ⟨hlen, y, h⟩
      cases h with
      | here => simp at hlen
      | step link rest => exact ⟨_, link, _, ⟨by simpa using hlen, y, rest⟩, rfl⟩

/-- The first entry found in a list that is sorted by length is the shortest. -/
lemma length_le_of_find? {l : List (List String)} {test : List String → Bool}
    (hsorted : l.Pairwise (·.length ≤ ·.length)) (hp : l.find? test = some p) (hq : q ∈ l)
    (htest : test q = true) : p.length ≤ q.length := by
  obtain ⟨-, before, after, rfl, hbefore⟩ := List.find?_eq_some_iff_append.mp hp
  rcases List.mem_append.mp hq with hq' | hq'
  · have hfailed := hbefore q hq'
    simp [htest] at hfailed
  rcases List.mem_cons.mp hq' with rfl | hq''
  · exact Nat.le_refl _
  · exact (List.pairwise_cons.mp (List.pairwise_append.mp hsorted).2.1).1 q hq''

section Tried

variable {n : ℕ}

/-- The paths from a node that pass fewer edges than a number. -/
def pathsBelow (edges : List (String × String)) (n : ℕ) (x : String) : List (List String) :=
  (List.range n).flatMap (pathsFrom edges · x)

lemma mem_pathsBelow :
    p ∈ pathsBelow edges n x ↔ p.length ≤ n ∧ ∃ y, IsPath edges x y p := by
  simp only [pathsBelow, List.mem_flatMap, List.mem_range, mem_pathsFrom]
  constructor
  · rintro ⟨k, hk, hlen, h⟩
    exact ⟨by omega, h⟩
  · rintro ⟨hle, y, h⟩
    obtain ⟨rest, rfl⟩ := h.eq_cons
    exact ⟨rest.length, by simpa [Nat.succ_le_iff] using hle, rfl, y, h⟩

lemma sorted_pathsBelow (edges : List (String × String)) (n : ℕ) (x : String) :
    (pathsBelow edges n x).Pairwise (·.length ≤ ·.length) := by
  refine List.pairwise_flatMap.mpr ⟨fun k _ => ?_, ?_⟩
  · exact List.pairwise_of_forall_mem_list fun a ha b hb =>
      Nat.le_of_eq ((mem_pathsFrom.mp ha).1.trans (mem_pathsFrom.mp hb).1.symm)
  · refine List.pairwise_lt_range.imp fun {j k} hjk a ha b hb => ?_
    rw [(mem_pathsFrom.mp ha).1, (mem_pathsFrom.mp hb).1]
    omega

end Tried

/-- The first path to the target, the shorter paths being tried before the longer ones. -/
def searchByLength : Search := fun nodes edges x y =>
  (pathsBelow edges nodes.length x).find? (·.getLast? == some y)

/-- **Trying shorter paths first finds a shortest one.** -/
theorem findsShortest_searchByLength : FindsShortest searchByLength := by
  intro nodes edges x y p hin hx hy hp
  -- a simple path has no more nodes than the graph, so it is tried
  obtain ⟨s, ⟨hs, hnd⟩, -⟩ := hp.exists_simple
  have hmem : s ∈ pathsBelow edges nodes.length x :=
    mem_pathsBelow.mpr ⟨(hnd.subperm (hs.subset hin hx)).length_le, y, hs⟩
  obtain ⟨q, hq⟩ : ∃ q, searchByLength nodes edges x y = some q :=
    Option.isSome_iff_exists.mp (List.find?_isSome.mpr ⟨s, hmem, by simp [hs.getLast?_eq]⟩)
  obtain ⟨hlen, y', hpath⟩ := mem_pathsBelow.mp (List.mem_of_find?_eq_some hq)
  obtain rfl : y' = y := by simpa [hpath.getLast?_eq] using List.find?_some hq
  refine ⟨q, hq, hpath, fun q' hq' => ?_⟩
  rcases Nat.lt_or_ge nodes.length q'.length with hgt | hle
  · exact Nat.le_trans hlen (Nat.le_of_lt hgt)
  · exact length_le_of_find? (sorted_pathsBelow edges nodes.length x) hq
      (mem_pathsBelow.mpr ⟨hle, _, hq'⟩) (by simp [hq'.getLast?_eq])

end SceneFrames
