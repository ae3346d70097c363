import SceneFrames.Proofs.Frame.Meeting
import SceneFrames.Proofs.Frame.Path

/-!
The path between two nodes of a tree of frames.

A path that passes no node twice climbs first and descends then: after a step down, a step up
would lead back to where it came from. So it runs up the chain of its source to where that meets
the chain of its target, and down the other from there. There is therefore one such path between
two nodes, and every search for a shortest path comes to it.
-/

namespace SceneFrames

open Ascent

variable {edges : List (String × String)} {x y z : String} {p q : List String}

/-! ### Over the meeting point -/

section Route

variable {P : Type} {frames : List (FrameRecord P)} {r : FrameRecord P}
  {rs ss below below' above : List (FrameRecord P)}

/-- The climb of a frame begins with it. -/
lemma Climbs.exists_cons (hd : DistinctNodes frames) (h : Climbs frames x rs)
    (hfound : findFrame frames x = some r) :
    ∃ upper, rs = r :: upper ∧ Climbs frames r.relativeTo upper := by
  cases h with
  | root => simp [hd.findFrame_root] at hfound
  | step found _ climb =>
    obtain rfl := Option.some.inj (found.symm.trans hfound)
    exact ⟨_, rfl, climb⟩

/-- The nodes up one climb to the meeting point and down the other. -/
def route (below below' above : List (FrameRecord P)) : List String :=
  below.map (·.name) ++ bottom above :: (below'.map (·.name)).reverse

lemma bottom_mem_route : bottom (below ++ above) ∈ route below below' above := by
  cases below with
  | nil => simp [route]
  | cons r below => simp [route]

/-- Where chains come together, joining them takes the nodes below. -/
lemma joinChains_append {up down rest : List String} {m : String}
    (hup : ∀ a ∈ up, a ∉ down ++ m :: rest) (hm : m ∉ down) :
    FrameGraph.joinChains (up ++ m :: rest) (down ++ m :: rest) = up ++ m :: down.reverse := by
  have hdown : (down ++ m :: rest).takeWhile (· != m) = down := by
    rw [List.takeWhile_append_of_pos, List.takeWhile_cons_of_neg (by simp), List.append_nil]
    exact fun a ha => by simpa using fun he : a = m => hm (he ▸ ha)
  rw [FrameGraph.joinChains, takeWhile_apart hup, List.drop_left]
  simp only [hdown]

lemma joinChains_of_meet (hd : DistinctNodes frames) (hr : Climbs frames x rs)
    (hs : Climbs frames y ss) (hmeet : Meet rs ss below below' above) :
    FrameGraph.joinChains (rs.map (·.name) ++ [""]) (ss.map (·.name) ++ [""]) =
      route below below' above := by
  obtain ⟨rest, hup, hdown, hapart, hapart'⟩ := hmeet.exists_fork hd hr hs
  rw [hup, hdown]
  exact joinChains_append hapart fun hmem => hapart' _ hmem (by simp)

/-- **A simple path in a tree** runs up one climb to where it meets another, and down that. -/
theorem IsSimplePath.exists_meet (hd : DistinctNodes frames)
    (hedges : ∀ {x y}, (x, y) ∈ edges ↔ StandsOn (baseOf? frames) x y)
    (h : IsSimplePath edges x y p) (hs : Climbs frames y ss) :
    ∃ rs below below' above, Climbs frames x rs ∧ Meet rs ss below below' above ∧
      p = route below below' above := by
  obtain ⟨hpath, hnd⟩ := h
  induction hpath with
  | here x => exact ⟨ss, [], [], ss, hs, ⟨rfl, rfl, by simp⟩, by simp [route, hs.bottom_eq]⟩
  | @step x z y p link _ ih =>
    obtain ⟨hx, hnd⟩ := List.nodup_cons.mp hnd
    obtain ⟨rs, below, below', above, hz, ⟨rfl, rfl, hapart⟩, rfl⟩ := ih hs hnd
    rcases link with hup | hdown
    · -- one step up, to a frame from where the path goes on
      have hstands := hedges.mp hup
      obtain ⟨r, hfound, rfl, -⟩ := baseOf?_eq_some_iff.mp hstands
      obtain rfl := name_of_findFrame hfound
      refine ⟨r :: (below ++ above), r :: below, below', above, .step hfound hstands hz,
        ⟨rfl, rfl, List.forall_mem_cons.mpr ⟨fun hmem => hx ?_, hapart⟩⟩, rfl⟩
      simp [route, List.mem_map_of_mem hmem]
    · have hstands := hedges.mp hdown
      obtain ⟨r, hfound, rfl, -⟩ := baseOf?_eq_some_iff.mp hstands
      obtain ⟨upper, hupper, hclimb⟩ := hz.exists_cons hd hfound
      cases below with
      | nil =>
        -- one step down from the meeting point, which comes to be the node above it
        obtain rfl : above = r :: upper := hupper
        have hright : below' ++ r :: upper = (below' ++ [r]) ++ upper := by simp
        refine ⟨upper, [], below' ++ [r], upper, hclimb, ⟨rfl, hright, by simp⟩, ?_⟩
        simp [route, hclimb.bottom_eq]
      | cons s below =>
        -- a path that goes up from here comes back to where it came from
        obtain ⟨rfl, rfl⟩ := List.cons.inj hupper
        refine absurd (?_ : s.relativeTo ∈ route (s :: below) below' above) hx
        rw [← hclimb.bottom_eq]
        exact List.mem_cons_of_mem _ bottom_mem_route

/-- The chain of a node is a path to the root. -/
lemma Climbs.isPath (hedges : ∀ {x y}, (x, y) ∈ edges ↔ StandsOn (baseOf? frames) x y)
    (h : Climbs frames x rs) : IsPath edges x "" (rs.map (·.name) ++ [""]) := by
  induction h with
  | root => exact .here ""
  | step found stands _ ih =>
    rw [List.map_cons, name_of_findFrame found]
    exact .step (Or.inl (hedges.mpr stands)) ih

end Route

/-! ### Paths of a tree of frames -/

namespace FrameGraph

variable {P : Type} {g : FrameGraph P}

/-- The edges of a graph run from nodes to their bases. -/
lemma mem_edges_iff : (x, y) ∈ g.edges ↔ StandsOn g.base? x y := by
  simp only [edges, List.mem_filterMap, Option.map_eq_some_iff, Prod.mk.injEq]
  constructor
  · rintro ⟨r, -, b, hb, rfl, rfl⟩
    exact hb
  · intro h
    obtain ⟨r, hfound, -, -⟩ := baseOf?_eq_some_iff.mp h
    obtain rfl := name_of_findFrame hfound
    exact ⟨r, List.mem_of_find?_eq_some hfound, y, h, rfl, rfl⟩

namespace IsTree

variable [RigidMotion P]

lemma exists_climbs (h : g.IsTree) (hx : x ∈ g.nodes) : ∃ rs, Climbs g.frames x rs := by
  obtain ⟨rs, hrs, -⟩ := h.find?_rootPoses hx
  exact ⟨rs, hrs⟩

/-- Any two nodes are connected, over the root. -/
lemma exists_isPath (h : g.IsTree) (hx : x ∈ g.nodes) (hy : y ∈ g.nodes) :
    ∃ p, IsPath g.edges x y p := by
  obtain ⟨rs, hrs⟩ := h.exists_climbs hx
  obtain ⟨ss, hss⟩ := h.exists_climbs hy
  have hdown := (hss.isPath mem_edges_iff).reverse
  obtain ⟨rest, heq⟩ := hdown.eq_cons
  rw [heq] at hdown
  exact ⟨_, (hrs.isPath mem_edges_iff).trans hdown⟩

/-- **There is one simple path** between two nodes of a tree, and it joins their chains. -/
theorem isSimplePath_iff (h : g.IsTree) (hx : x ∈ g.nodes) (hy : y ∈ g.nodes) :
    IsSimplePath g.edges x y p ↔ p = joinChains (g.chainOf x) (g.chainOf y) := by
  obtain ⟨ss, hss⟩ := h.exists_climbs hy
  have hjoin : ∀ {p}, IsSimplePath g.edges x y p →
      p = joinChains (g.chainOf x) (g.chainOf y) := by
    intro p hp
    obtain ⟨rs, below, below', above, hrs, hmeet, rfl⟩ :=
      hp.exists_meet h.distinct mem_edges_iff hss
    rw [h.chainOf_eq hrs, h.chainOf_eq hss, joinChains_of_meet h.distinct hrs hss hmeet]
  refine ⟨hjoin, ?_⟩
  rintro rfl
  obtain ⟨q, hq⟩ := h.exists_isPath hx hy
  obtain ⟨p, hp, -⟩ := hq.exists_simple
  exact hjoin hp ▸ hp

/-- **The path that joins their chains is the shortest** between two nodes of a tree. -/
theorem isShortestPath_iff (h : g.IsTree) (hx : x ∈ g.nodes) (hy : y ∈ g.nodes) :
    IsShortestPath g.edges x y p ↔ p = joinChains (g.chainOf x) (g.chainOf y) := by
  rw [← h.isSimplePath_iff hx hy]
  refine ⟨IsShortestPath.isSimplePath, fun hp => hp.isShortestPath fun q hq => ?_⟩
  rw [(h.isSimplePath_iff hx hy).mp hq, (h.isSimplePath_iff hx hy).mp hp]

end IsTree

end FrameGraph

end SceneFrames
