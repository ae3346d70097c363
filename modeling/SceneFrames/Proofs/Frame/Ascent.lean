import Mathlib.Data.List.Cycle
import Mathlib.Logic.Relation

/-!
Ascents: following a partial map from frames to their bases.

Every frame has at most one base, so of two frames that an ascent meets one leads to the other.
An ascent that enters a circle therefore stays on it, enters no other, and never comes to a
frame without a base.
-/

namespace SceneFrames.Ascent

open Relation

/-- The second frame is the base of the first. -/
def StandsOn (base? : String → Option String) (x y : String) : Prop := base? x = some y

/-- The ascent from the first frame meets the second. -/
abbrev Leads (base? : String → Option String) : String → String → Prop :=
  ReflTransGen (StandsOn base?)

/-- A circle of frames, each standing on the next. -/
structure IsCircle (base? : String → Option String) (c : Cycle String) : Prop where
  ne_nil : c ≠ Cycle.nil
  nodup : c.Nodup
  chain : c.Chain (StandsOn base?)

/-- The ascent from a frame enters a circle. -/
def LeadsInto (base? : String → Option String) (x : String) (c : Cycle String) : Prop :=
  ∃ y ∈ c, Leads base? x y

variable {base? : String → Option String} {x y z : String} {c d : Cycle String}

lemma standsOn_rightUnique : Relator.RightUnique (StandsOn base?) :=
  fun _ _ _ h₁ h₂ => Option.some.inj (h₁.symm.trans h₂)

/-- Of two frames that an ascent meets, one leads to the other. -/
lemma Leads.total (hy : Leads base? x y) (hz : Leads base? x z) :
    Leads base? y z ∨ Leads base? z y :=
  ReflTransGen.total_of_right_unique standsOn_rightUnique hy hz

/-- An ascent ends at a frame without a base. -/
lemma Leads.eq_of_none (h : Leads base? x y) (hx : base? x = none) : y = x := by
  rcases h.cases_head with rfl | ⟨z, hz, -⟩
  · rfl
  · rw [StandsOn, hx] at hz
    exact absurd hz (by simp)

/-- An ascent goes on over the base. -/
lemma Leads.of_standsOn (hy : StandsOn base? x y) (hz : Leads base? x z) :
    z = x ∨ Leads base? y z := by
  rcases hz.cases_head with rfl | ⟨w, hw, h⟩
  · exact Or.inl rfl
  · exact Or.inr (standsOn_rightUnique hy hw ▸ h)

/-! ### Circles -/

/-- A circle can be read from any of its frames. -/
lemma exists_coe_eq_of_mem (h : x ∈ c) :
    ∃ l : List String, c = ((x :: l : List String) : Cycle String) := by
  induction c using Quotient.inductionOn' with
  | h m =>
    obtain ⟨s, t, rfl⟩ := List.append_of_mem (Cycle.mem_coe_iff.mp h)
    have hrot : (s ++ x :: t) ~r (x :: t ++ s) := List.isRotated_append
    exact ⟨t ++ s, Cycle.coe_eq_coe.mpr hrot⟩

namespace IsCircle

/-- A circle read from one of its frames. -/
lemma exists_read (hc : IsCircle base? c) (hx : x ∈ c) : ∃ l : List String,
    c = ((x :: l : List String) : Cycle String) ∧ x ∉ l ∧
      (x :: (l ++ [x])).IsChain (StandsOn base?) := by
  obtain ⟨l, rfl⟩ := exists_coe_eq_of_mem hx
  have hnd : (x :: l).Nodup := Cycle.nodup_coe_iff.mp hc.nodup
  exact ⟨l, rfl, (List.nodup_cons.mp hnd).1, (Cycle.chain_coe_cons _ _ _).mp hc.chain⟩

lemma exists_mem (hc : IsCircle base? c) : ∃ x, x ∈ c := by
  induction c using Quotient.inductionOn' with
  | h m =>
    cases m with
    | nil => exact absurd rfl hc.ne_nil
    | cons x l => exact ⟨x, Cycle.mem_coe_iff.mpr (by simp)⟩

/-- Every frame of a circle stands on one of them. -/
lemma exists_base (hc : IsCircle base? c) (hx : x ∈ c) : ∃ y ∈ c, StandsOn base? x y := by
  obtain ⟨l, rfl, -, hl⟩ := hc.exists_read hx
  cases l with
  | nil => exact ⟨x, by simp, by simpa using hl⟩
  | cons y l => exact ⟨y, by simp, by simpa using (List.isChain_cons_cons.mp hl).1⟩

/-- An ascent that enters a circle stays on it. -/
lemma mem_of_leads (hc : IsCircle base? c) (hx : x ∈ c) (h : Leads base? x y) : y ∈ c := by
  induction h with
  | refl => exact hx
  | tail _ hzy ih =>
    obtain ⟨w, hw, hzw⟩ := hc.exists_base ih
    rw [standsOn_rightUnique hzy hzw]
    exact hw

end IsCircle

/-- Two chains that run from one frame to the first occurrence of another are one chain. -/
lemma isChain_unique {l m : List String} (hl : (x :: (l ++ [y])).IsChain (StandsOn base?))
    (hm : (x :: (m ++ [y])).IsChain (StandsOn base?)) (hyl : y ∉ l) (hym : y ∉ m) : l = m := by
  induction l generalizing x m with
  | nil =>
    cases m with
    | nil => rfl
    | cons b m =>
      have hy : StandsOn base? x y := by simpa using hl
      have hb : StandsOn base? x b := (List.isChain_cons_cons.mp hm).1
      rw [standsOn_rightUnique hy hb] at hym
      simp at hym
  | cons a l ih =>
    obtain ⟨ha, hl'⟩ := List.isChain_cons_cons.mp hl
    cases m with
    | nil =>
      have hy : StandsOn base? x y := by simpa using hm
      rw [standsOn_rightUnique hy ha] at hyl
      simp at hyl
    | cons b m =>
      obtain ⟨hb, hm'⟩ := List.isChain_cons_cons.mp hm
      obtain rfl := standsOn_rightUnique ha hb
      rw [ih hl' hm' (fun h => hyl (by simp [h])) (fun h => hym (by simp [h]))]

/-- **Circles that share a frame are equal.** -/
theorem IsCircle.eq_of_mem (hc : IsCircle base? c) (hd : IsCircle base? d) (hxc : x ∈ c)
    (hxd : x ∈ d) : c = d := by
  obtain ⟨l, rfl, hl, hcl⟩ := hc.exists_read hxc
  obtain ⟨m, rfl, hm, hcm⟩ := hd.exists_read hxd
  rw [isChain_unique hcl hcm hl hm]

namespace LeadsInto

lemma of_mem (hx : x ∈ c) : LeadsInto base? x c := ⟨x, hx, ReflTransGen.refl⟩

lemma head (hc : LeadsInto base? y c) (h : Leads base? x y) : LeadsInto base? x c := by
  obtain ⟨z, hz, hyz⟩ := hc
  exact ⟨z, hz, h.trans hyz⟩

/-- What is met on the way into a circle leads into it. -/
lemma of_leads (h : LeadsInto base? x c) (hc : IsCircle base? c) (hxy : Leads base? x y) :
    LeadsInto base? y c := by
  obtain ⟨z, hz, hxz⟩ := h
  rcases hxy.total hxz with hyz | hzy
  · exact ⟨z, hz, hyz⟩
  · exact of_mem (hc.mem_of_leads hz hzy)

/-- No frame on the way into a circle is without a base. -/
lemma base_ne_none (h : LeadsInto base? x c) (hc : IsCircle base? c) : base? x ≠ none := by
  intro hx
  obtain ⟨z, hz, hxz⟩ := h
  obtain rfl := hxz.eq_of_none hx
  obtain ⟨w, -, hzw⟩ := hc.exists_base hz
  rw [StandsOn, hx] at hzw
  exact absurd hzw (by simp)

/-- An ascent enters at most one circle. -/
lemma unique (hxc : LeadsInto base? x c) (hxd : LeadsInto base? x d) (hc : IsCircle base? c)
    (hd : IsCircle base? d) : c = d := by
  obtain ⟨y, hy, hxy⟩ := hxc
  obtain ⟨z, hz, hyz⟩ := hxd.of_leads hd hxy
  exact hc.eq_of_mem hd (hc.mem_of_leads hy hyz) hz

/-- An ascent that enters a circle meets no frame without a base. -/
lemma not_leads (h : LeadsInto base? x c) (hc : IsCircle base? c) (hy : base? y = none) :
    ¬ Leads base? x y :=
  fun hxy => (h.of_leads hc hxy).base_ne_none hc hy

end LeadsInto

/-! ### Ascents that miss the root -/

/-- The ascent from a frame enters a circle, or ends at a frame other than the root. -/
def Lost (base? : String → Option String) (x : String) : Prop :=
  (∃ c, IsCircle base? c ∧ LeadsInto base? x c) ∨ ∃ y, y ≠ "" ∧ base? y = none ∧ Leads base? x y

lemma Lost.head (hy : Lost base? y) (h : Leads base? x y) : Lost base? x := by
  rcases hy with ⟨c, hc, hyc⟩ | ⟨z, hz, hnone, hyz⟩
  · exact Or.inl ⟨c, hc, hyc.head h⟩
  · exact Or.inr ⟨z, hz, hnone, h.trans hyz⟩

end SceneFrames.Ascent
