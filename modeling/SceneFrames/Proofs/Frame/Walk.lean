import SceneFrames.Frame.Circle
import SceneFrames.Proofs.Frame.Ascent
import Mathlib.Data.List.Nodup
import Mathlib.Data.List.Perm.Subperm

/-!
What one walk finds.

A walk passes frames that no earlier walk has marked, each of them once, and ends in one of
four ways: at a settled frame, at a doomed frame, at a frame without a base, or at a frame that
it has passed before. Since it passes no frame twice, it needs no more steps than there are
nodes.
-/

namespace SceneFrames

open Ascent

variable {base? : String → Option String}

/-- The frames passed on the way from a node to the current frame, the latest first. -/
inductive Trail (base? : String → Option String) (node : String) : List String → String → Prop
  | start : Trail base? node [] node
  | step {passed : List String} {x y : String} (trail : Trail base? node passed x)
      (stands : StandsOn base? x y) : Trail base? node (x :: passed) y

namespace Trail

variable {node current x : String} {passed : List String}

lemma isChain (h : Trail base? node passed current) :
    (passed.reverse ++ [current]).IsChain (StandsOn base?) := by
  induction h with
  | start => simp
  | @step passed x y _ hxy ih =>
    rw [List.reverse_cons]
    refine List.IsChain.append ih (by simp) fun a ha b hb => ?_
    obtain rfl : a = x := by simpa using ha.symm
    obtain rfl : b = y := by simpa using hb.symm
    exact hxy

lemma head?_eq (h : Trail base? node passed current) :
    (passed.reverse ++ [current]).head? = some node := by
  induction h with
  | start => rfl
  | step _ _ ih => rw [List.reverse_cons, List.head?_append, ih]; rfl

/-- What a walk has passed leads to where it stands. -/
lemma leads_of_mem (h : Trail base? node passed current) (hx : x ∈ passed) :
    Leads base? x current := by
  induction h with
  | start => simp at hx
  | step _ hxy ih =>
    rcases List.mem_cons.mp hx with rfl | hx'
    · exact .single hxy
    · exact (ih hx').tail hxy

lemma node_mem (h : Trail base? node passed current) : node ∈ current :: passed := by
  induction h with
  | start => simp
  | step _ _ ih => exact List.mem_cons_of_mem _ ih

end Trail

/-- Frames that no earlier walk has marked, without repetition. -/
structure Unmarked (marks : Marks) (frames : List String) : Prop where
  nodup : frames.Nodup
  settled : ∀ x ∈ frames, x ∉ marks.settled
  doomed : ∀ x ∈ frames, x ∉ marks.doomed

lemma Unmarked.nil (marks : Marks) : Unmarked marks [] := ⟨by simp, by simp, by simp⟩

lemma Unmarked.cons {marks : Marks} {frames : List String} {x : String} (h : Unmarked marks frames)
    (hx : x ∉ frames) (hs : x ∉ marks.settled) (hd : x ∉ marks.doomed) :
    Unmarked marks (x :: frames) :=
  ⟨List.nodup_cons.mpr ⟨hx, h.nodup⟩, List.forall_mem_cons.mpr ⟨hs, h.settled⟩,
    List.forall_mem_cons.mpr ⟨hd, h.doomed⟩⟩

/-- What a walk from a node may find: the frames that it has passed, and its end. -/
inductive Walked (base? : String → Option String) (marks : Marks) (node : String) :
    List String × WalkEnd → Prop
  | settled {passed : List String} {stop : String} (trail : Trail base? node passed stop)
      (fresh : Unmarked marks passed) (mem : stop ∈ marks.settled) :
      Walked base? marks node (passed, .home)
  | doomed {passed : List String} {stop : String} (trail : Trail base? node passed stop)
      (fresh : Unmarked marks passed) (mem : stop ∈ marks.doomed) :
      Walked base? marks node (passed, .lost)
  | dangling {passed : List String} {stop : String} (trail : Trail base? node passed stop)
      (fresh : Unmarked marks (stop :: passed)) (none : base? stop = none) :
      Walked base? marks node (stop :: passed, .lost)
  | circle {passed : List String} {stop : String} (trail : Trail base? node passed stop)
      (fresh : Unmarked marks passed) (mem : stop ∈ passed) :
      Walked base? marks node (passed, .circle (passed.reverse.dropWhile (· != stop)))

/-- The nodes hold every frame that has a base. -/
def Encloses (nodes : List String) (base? : String → Option String) : Prop :=
  ∀ x y : String, StandsOn base? x y → x ∈ nodes

lemma Trail.passed_subset {nodes passed : List String} {node current : String}
    (h : Trail base? node passed current) (hen : Encloses nodes base?) : passed ⊆ nodes := by
  induction h with
  | start => simp
  | step _ hxy ih => exact List.cons_subset.mpr ⟨hen _ _ hxy, ih⟩

/-- **A walk ends**, in one of the four ways, within as many steps as there are nodes. -/
theorem walk_walked {nodes : List String} (hen : Encloses nodes base?) {marks : Marks}
    {node : String} (fuel : ℕ) (passed : List String) (current : String)
    (ht : Trail base? node passed current) (hf : Unmarked marks passed)
    (hfuel : nodes.length < passed.length + fuel) :
    Walked base? marks node (walk base? marks fuel passed current) := by
  induction fuel generalizing passed current with
  | zero =>
    have hle : passed.length ≤ nodes.length := (hf.nodup.subperm (ht.passed_subset hen)).length_le
    omega
  | succ fuel ih =>
    rw [walk]
    split
    · rename_i hs
      exact .settled ht hf (by simpa using hs)
    rename_i hs
    split
    · rename_i hd
      exact .doomed ht hf (by simpa using hd)
    rename_i hd
    split
    · rename_i hp
      exact .circle ht hf (by simpa using hp)
    rename_i hp
    have hf' : Unmarked marks (current :: passed) :=
      hf.cons (by simpa using hp) (by simpa using hs) (by simpa using hd)
    split
    · rename_i hb
      exact .dangling ht hf' hb
    · rename_i next hb
      exact ih (current :: passed) next (.step ht hb) hf' (by simp only [List.length_cons]; omega)

end SceneFrames
