import SceneFrames.Proofs.Frame.Walk
import Mathlib.Data.List.Induction

/-!
What the marks mean.

However many walks have been made, the settled frames lead to the root, the doomed frames do
not, and every circle that a doomed frame leads into has been noted. A walk that stops at a mark
therefore learns nothing less than a walk that goes on, and no circle is found twice.
-/

namespace SceneFrames

open Ascent

variable {base? : String → Option String}

/-- What the marks left by walks mean. -/
structure Tracks (base? : String → Option String) (marks : Marks) : Prop where
  root : "" ∈ marks.settled
  settled : ∀ x ∈ marks.settled, Leads base? x ""
  doomed : ∀ x ∈ marks.doomed, Lost base? x
  circle : ∀ route ∈ marks.circles, IsCircle base? (route : Cycle String)
  marked : ∀ route ∈ marks.circles, ∀ x ∈ route, x ∈ marks.doomed
  noted : ∀ x ∈ marks.doomed, ∀ c, IsCircle base? c → LeadsInto base? x c →
    ∃ route ∈ marks.circles, (route : Cycle String) = c
  distinct : (marks.circles.map Cycle.ofList).Nodup

lemma tracks_empty : Tracks base? {} where
  root := by simp
  settled x hx := by rw [List.mem_singleton.mp hx]
  doomed := by simp
  circle := by simp
  marked := by simp
  noted := by simp
  distinct := by simp

/-! ### The circle of a walk -/

section Route

variable {node stop : String} {passed : List String}

/-- Where a walk comes back to itself, it has passed a tail and then a circle. -/
lemma exists_tail_route (h : stop ∈ passed) : ∃ tail rest : List String, stop ∉ tail ∧
    passed.reverse = tail ++ stop :: rest ∧
    passed.reverse.dropWhile (· != stop) = stop :: rest := by
  obtain ⟨tail, rest, hsplit, hno⟩ := List.eq_append_cons_of_mem (List.mem_reverse.mpr h)
  refine ⟨tail, rest, hno, hsplit, ?_⟩
  have htail : ∀ x ∈ tail, (x != stop) = true := fun x hx => by
    simpa using fun he : x = stop => hno (he ▸ hx)
  rw [hsplit, List.dropWhile_append_of_pos htail, List.dropWhile_cons_of_neg (by simp)]

lemma isCircle_route {tail rest : List String} (ht : Trail base? node passed stop)
    (hnd : passed.Nodup) (hp : passed.reverse = tail ++ stop :: rest) :
    IsCircle base? ((stop :: rest : List String) : Cycle String) := by
  have hchain := ht.isChain
  rw [hp, List.append_assoc] at hchain
  have hnd' : (tail ++ stop :: rest).Nodup := hp ▸ List.nodup_reverse.mpr hnd
  exact ⟨by simp, Cycle.nodup_coe_iff.mpr hnd'.of_append_right,
    (Cycle.chain_coe_cons _ _ _).mpr hchain.right_of_append⟩

end Route

/-! ### One walk -/

namespace Tracks

variable {marks : Marks} {node : String} {passed : List String}

/-- Lost frames become doomed, if the circles that they lead into have been noted. -/
lemma doom (h : Tracks base? marks) (hlost : ∀ x ∈ passed, Lost base? x)
    (hnoted : ∀ x ∈ passed, ∀ c, IsCircle base? c → LeadsInto base? x c →
      ∃ route ∈ marks.circles, (route : Cycle String) = c) :
    Tracks base? { marks with doomed := passed ++ marks.doomed } where
  root := h.root
  settled := h.settled
  doomed x hx := (List.mem_append.mp hx).elim (hlost x) (h.doomed x)
  circle := h.circle
  marked route hr x hx := List.mem_append_right _ (h.marked route hr x hx)
  noted x hx := (List.mem_append.mp hx).elim (hnoted x) (h.noted x)
  distinct := h.distinct

lemma settle (h : Tracks base? marks) (hhome : ∀ x ∈ passed, Leads base? x "") :
    Tracks base? { marks with settled := passed ++ marks.settled } where
  root := List.mem_append_right _ h.root
  settled x hx := (List.mem_append.mp hx).elim (hhome x) (h.settled x)
  doomed := h.doomed
  circle := h.circle
  marked := h.marked
  noted := h.noted
  distinct := h.distinct

/-- A circle of frames that are not doomed is none of those noted. -/
lemma coe_ne (h : Tracks base? marks) {route r : List String} (hne : route ≠ [])
    (hun : ∀ x ∈ route, x ∉ marks.doomed) (hr : r ∈ marks.circles) :
    (r : Cycle String) ≠ (route : Cycle String) := by
  intro he
  obtain ⟨x, hx⟩ := List.exists_mem_of_ne_nil route hne
  have hxr : x ∈ (r : Cycle String) := he ▸ Cycle.mem_coe_iff.mpr hx
  exact hun x hx (h.marked r hr x (Cycle.mem_coe_iff.mp hxr))

/-- The search for a circle among those noted finds nothing, if its frames are not doomed. -/
lemma not_noted (h : Tracks base? marks) {route : List String} (hne : route ≠ [])
    (hun : ∀ x ∈ route, x ∉ marks.doomed) :
    marks.circles.any (sameFrames route) = false := by
  rw [List.any_eq_false]
  intro r hr hsame
  obtain ⟨x, hx⟩ := List.exists_mem_of_ne_nil route hne
  simp only [sameFrames, Bool.and_eq_true, List.all_eq_true, List.contains_iff_mem] at hsame
  exact hun x hx (h.marked r hr x (hsame.1 x hx))

/-- A circle is noted together with the frames that lead into it. -/
lemma note (h : Tracks base? marks) {route : List String}
    (hroute : IsCircle base? (route : Cycle String)) (hsub : route ⊆ passed)
    (hinto : ∀ x ∈ passed, LeadsInto base? x (route : Cycle String))
    (hne : route ≠ []) (hun : ∀ x ∈ route, x ∉ marks.doomed) :
    Tracks base? { marks with doomed := passed ++ marks.doomed
                              circles := marks.circles ++ [route] } where
  root := h.root
  settled := h.settled
  doomed x hx := (List.mem_append.mp hx).elim (fun hp => Or.inl ⟨route, hroute, hinto x hp⟩)
    (h.doomed x)
  circle r hr := by
    rcases List.mem_append.mp hr with hr' | hr'
    · exact h.circle r hr'
    · rw [List.mem_singleton.mp hr']
      exact hroute
  marked r hr x hx := by
    rcases List.mem_append.mp hr with hr' | hr'
    · exact List.mem_append_right _ (h.marked r hr' x hx)
    · rw [List.mem_singleton.mp hr'] at hx
      exact List.mem_append_left _ (hsub hx)
  noted x hx c hc hxc := by
    rcases List.mem_append.mp hx with hp | hd
    · exact ⟨route, by simp, (hinto x hp).unique hxc hroute hc⟩
    · obtain ⟨r, hr, hrc⟩ := h.noted x hd c hc hxc
      exact ⟨r, List.mem_append_left _ hr, hrc⟩
  distinct := by
    rw [List.map_append]
    refine h.distinct.append (by simp) (List.disjoint_singleton.mpr fun hm => ?_)
    obtain ⟨r, hr, he⟩ := List.mem_map.mp hm
    exact h.coe_ne hne hun hr he

/-- What a walk that comes back to itself adds to the marks. -/
lemma after_circle (h : Tracks base? marks) {stop : String} (fresh : Unmarked marks passed)
    (mem : stop ∈ passed) : ∃ tail rest : List String, stop ∉ tail ∧
      passed.reverse = tail ++ stop :: rest ∧ stop :: rest ⊆ passed ∧
      marks.after (passed, .circle (passed.reverse.dropWhile (· != stop))) =
        { marks with doomed := passed ++ marks.doomed
                     circles := marks.circles ++ [stop :: rest] } := by
  obtain ⟨tail, rest, hno, hp, hroute⟩ := exists_tail_route mem
  have hsub : stop :: rest ⊆ passed := fun x hx =>
    List.mem_reverse.mp (hp ▸ List.mem_append_right tail hx)
  have hnew := h.not_noted (List.cons_ne_nil stop rest) fun x hx => fresh.doomed x (hsub hx)
  refine ⟨tail, rest, hno, hp, hsub, ?_⟩
  rw [hroute, Marks.after, hnew]
  rfl

/-- **What the marks mean is kept by every walk.** -/
theorem after (h : Tracks base? marks) {found : List String × WalkEnd}
    (hw : Walked base? marks node found) : Tracks base? (marks.after found) := by
  cases hw with
  | settled trail _ mem =>
    exact h.settle fun x hx => (trail.leads_of_mem hx).trans (h.settled _ mem)
  | @doomed passed stop trail _ mem =>
    refine h.doom (fun x hx => (h.doomed stop mem).head (trail.leads_of_mem hx)) ?_
    intro x hx c hc hxc
    exact h.noted stop mem c hc (hxc.of_leads hc (trail.leads_of_mem hx))
  | @dangling passed stop trail fresh none =>
    have hstop : ∀ x ∈ stop :: passed, Leads base? x stop :=
      List.forall_mem_cons.mpr ⟨.refl, fun x hx => trail.leads_of_mem hx⟩
    have hne : stop ≠ "" := fun he => fresh.settled stop (by simp) (he ▸ h.root)
    refine h.doom (fun x hx => Or.inr ⟨stop, hne, none, hstop x hx⟩) fun x hx c hc hxc => ?_
    exact absurd none ((hxc.of_leads hc (hstop x hx)).base_ne_none hc)
  | @circle passed stop trail fresh mem =>
    obtain ⟨tail, rest, -, hp, hsub, hafter⟩ := h.after_circle fresh mem
    rw [hafter]
    refine h.note (isCircle_route trail fresh.nodup hp) hsub (fun x hx => ?_) (by simp)
      fun x hx => fresh.doomed x (hsub hx)
    exact .head (.of_mem (by simp)) (trail.leads_of_mem hx)

end Tracks

/-! ### All walks -/

section Marking

variable {marks : Marks} {found : List String × WalkEnd}

lemma settled_subset_after : marks.settled ⊆ (marks.after found).settled := by
  rcases found with ⟨passed, _ | _ | _⟩ <;> simp [Marks.after]

lemma doomed_subset_after : marks.doomed ⊆ (marks.after found).doomed := by
  rcases found with ⟨passed, _ | _ | _⟩ <;> simp [Marks.after]

/-- The node that a walk starts from is marked by it. -/
lemma Walked.node_marked {node : String} (hw : Walked base? marks node found) :
    node ∈ (marks.after found).settled ∨ node ∈ (marks.after found).doomed := by
  cases hw with
  | settled trail _ mem =>
    rcases List.mem_cons.mp trail.node_mem with rfl | hn
    · exact Or.inl (settled_subset_after mem)
    · exact Or.inl (List.mem_append_left _ hn)
  | doomed trail _ mem =>
    rcases List.mem_cons.mp trail.node_mem with rfl | hn
    · exact Or.inr (doomed_subset_after mem)
    · exact Or.inr (List.mem_append_left _ hn)
  | dangling trail _ _ => exact Or.inr (List.mem_append_left _ trail.node_mem)
  | circle trail _ mem =>
    rcases List.mem_cons.mp trail.node_mem with rfl | hn
    · exact Or.inr (List.mem_append_left _ mem)
    · exact Or.inr (List.mem_append_left _ hn)

end Marking

/-- The marks after walks from some nodes in order. -/
def marksAfter (base? : String → Option String) (fuel : ℕ) (nodes : List String) : Marks :=
  nodes.foldl (fun marks node => marks.after (walk base? marks fuel [] node)) {}

section Run

variable {all nodes : List String} {fuel : ℕ} {node x : String}

lemma marksAfter_concat : marksAfter base? fuel (nodes ++ [node]) =
    (marksAfter base? fuel nodes).after
      (walk base? (marksAfter base? fuel nodes) fuel [] node) := by
  simp [marksAfter, List.foldl_append]

lemma walk_start (hen : Encloses all base?) (hfuel : all.length < fuel) (marks : Marks)
    (node : String) : Walked base? marks node (walk base? marks fuel [] node) :=
  walk_walked hen fuel [] node .start (.nil marks) (by simpa using hfuel)

/-- **What the marks mean, after all walks so far.** -/
theorem tracks_marksAfter (hen : Encloses all base?) (hfuel : all.length < fuel)
    (nodes : List String) :
    Tracks base? (marksAfter base? fuel nodes) := by
  induction nodes using List.reverseRecOn with
  | nil => exact tracks_empty
  | append_singleton nodes node ih =>
    rw [marksAfter_concat]
    exact ih.after (walk_start hen hfuel _ node)

/-- Every node that a walk has started from is marked. -/
lemma marked_of_mem (hen : Encloses all base?) (hfuel : all.length < fuel) (hx : x ∈ nodes) :
    x ∈ (marksAfter base? fuel nodes).settled ∨ x ∈ (marksAfter base? fuel nodes).doomed := by
  induction nodes using List.reverseRecOn with
  | nil => simp at hx
  | append_singleton nodes node ih =>
    rw [marksAfter_concat]
    rcases List.mem_append.mp hx with hx' | hx'
    · exact (ih hx').imp (fun h => settled_subset_after h) fun h => doomed_subset_after h
    · rw [List.mem_singleton.mp hx']
      exact (walk_start hen hfuel _ node).node_marked

/-- **Every ascent is known to reach the root or to miss it.** -/
theorem leads_or_lost (hen : Encloses all base?) (hfuel : all.length < fuel) (hx : x ∈ all) :
    Leads base? x "" ∨ Lost base? x :=
  (marked_of_mem hen hfuel hx).imp ((tracks_marksAfter hen hfuel all).settled x)
    ((tracks_marksAfter hen hfuel all).doomed x)

/-- **The circles noted in the end are all circles.** -/
theorem exists_noted_iff (hen : Encloses all base?) (hfuel : all.length < fuel)
    (hroot : base? "" = none) (c : Cycle String) :
    (∃ route ∈ (marksAfter base? fuel all).circles, (route : Cycle String) = c) ↔
      IsCircle base? c := by
  have htracks := tracks_marksAfter hen hfuel all
  constructor
  · rintro ⟨route, hroute, rfl⟩
    exact htracks.circle route hroute
  · intro hc
    obtain ⟨x, hx⟩ := hc.exists_mem
    obtain ⟨y, -, hxy⟩ := hc.exists_base hx
    rcases marked_of_mem hen hfuel (hen x y hxy) with hs | hd
    · exact absurd (htracks.settled x hs) ((LeadsInto.of_mem hx).not_leads hc hroot)
    · exact htracks.noted x hd c hc (.of_mem hx)

end Run

end SceneFrames
