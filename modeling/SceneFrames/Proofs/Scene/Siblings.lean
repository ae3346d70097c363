import SceneFrames.Proofs.Journal
import SceneFrames.Proofs.Names
import SceneFrames.Scene.Siblings

/-!
How siblings are gathered.

What is kept of the siblings and what is set aside can be read off the loaded entities alone,
whatever is noted on the way: the first uses of names are kept, and the later ones are set aside.
So nothing is lost, and nothing is set aside exactly when the names that are given are distinct.
-/

namespace SceneFrames.Siblings

open Journaled

variable {α : Type} {place : α → Placement} {s : Siblings α} {as : List α} {a : α}
  {onRepeat : Siblings α → α → Journaled Unit} {loads : List (Journaled α)}

def push (place : α → Placement) (s : Siblings α) (a : α) : Siblings α :=
  if (s.first? place a).isSome then { s with repeated := s.repeated ++ [a] }
  else { s with kept := s.kept ++ [a] }

/-- The siblings among entities, in order. -/
def gather (place : α → Placement) (as : List α) : Siblings α := as.foldl (push place) {}

def givenNames (place : α → Placement) (as : List α) : List String :=
  (as.map fun a => (place a).name).filter (· ≠ "")

/-! ### One sibling -/

lemma value_add : (s.add place onRepeat a).value = s.push place a := by
  unfold add push
  split <;> rfl

lemma problems_add : (s.add place onRepeat a).problems =
    if (s.first? place a).isSome then (onRepeat s a).problems else [] := by
  unfold add
  split <;> simp

lemma push_of_first? {b : α} (h : s.first? place a = some b) :
    s.push place a = { s with repeated := s.repeated ++ [a] } := by
  simp [push, h]

lemma push_of_new (h : s.first? place a = none) :
    s.push place a = { s with kept := s.kept ++ [a] } := by
  simp [push, h]

lemma first?_eq_none_iff :
    s.first? place a = none ↔ (place a).name = "" ∨ (place a).name ∉ givenNames place s.kept := by
  unfold first? givenNames
  by_cases h : (place a).name = "" <;> simp [h]

/-! ### All siblings -/

lemma value_loadAll : (loadAll place onRepeat s loads).value =
    (loads.map (·.value)).foldl (push place) s := by
  induction loads generalizing s with
  | nil => rfl
  | cons load loads ih =>
    rw [loadAll, value_bind, value_bind, ih, value_add, List.map_cons, List.foldl_cons]

lemma loadAll_concat (load : Journaled α) : loadAll place onRepeat s (loads ++ [load]) =
    loadAll place onRepeat s loads >>= fun s => load >>= fun a => s.add place onRepeat a := by
  induction loads generalizing s with
  | nil => simp [loadAll]
  | cons first loads ih => simp only [List.cons_append, loadAll, ih, bind_assoc]

@[simp] lemma gather_nil : gather place [] = {} := rfl

lemma gather_concat : gather place (as ++ [a]) = (gather place as).push place a := by
  simp [gather, List.foldl_append]

/-- Over the first uses of names, a sibling is new when it is a first use itself. -/
lemma first?_eq_none_iff_of_kept (h : s.kept = firstUses (fun a => (place a).name) as) :
    s.first? place a = none ↔ isFirstUse (fun a => (place a).name) as a = true := by
  rw [first?_eq_none_iff, isFirstUse_iff, givenNames, h, List.mem_filter, mem_map_firstUses]
  simp only [ne_eq, decide_not, Bool.not_eq_true', decide_eq_false_iff_not]
  tauto

/-- **The first uses of names are kept**, and the later ones are set aside. -/
theorem gather_eq (place : α → Placement) (as : List α) : gather place as =
    ⟨firstUses (fun a => (place a).name) as, laterUses (fun a => (place a).name) as⟩ := by
  induction as using List.reverseRecOn with
  | nil => rfl
  | append_singleton as a ih =>
    have hfirst := first?_eq_none_iff_of_kept (a := a) (congrArg Siblings.kept ih)
    rw [gather_concat, firstUses_concat, laterUses_concat]
    cases hf : (gather place as).first? place a with
    | none => rw [push_of_new hf, ih, if_pos (hfirst.mp hf), if_pos (hfirst.mp hf), List.append_nil]
    | some b =>
      have hlater : ¬ isFirstUse (fun a => (place a).name) as a := by
        rw [← hfirst, hf]
        simp
      rw [push_of_first? hf, ih, if_neg hlater, if_neg hlater, List.append_nil]

/-- The sibling that another repeats the name of is the first of that name. -/
lemma first?_gather : (gather place as).first? place a =
    if (place a).name = "" then none else as.find? fun b => (place b).name == (place a).name := by
  rw [first?, gather_eq]
  exact congrArg (ite _ none) (find?_firstUses (fun b => (place b).name) as (place a).name)

/-- Siblings of distinct names are kept. -/
lemma gather_of_nodup (h : (givenNames place as).Nodup) : gather place as = ⟨as, []⟩ := by
  rw [gather_eq, firstUses_eq_self h, laterUses_eq_nil_iff.mpr h]

/-- Nothing is set aside exactly when the names that are given are distinct. -/
lemma repeated_eq_nil_iff :
    (gather place as).repeated = [] ↔ (givenNames place as).Nodup := by
  rw [gather_eq]
  exact laterUses_eq_nil_iff

/-! ### Members and parts -/

lemma value_loadMembers :
    (loadMembers place loads).value = gather place (loads.map (·.value)) :=
  value_loadAll

lemma value_loadParts {k owner : Kind} {ownerName : String} :
    (loadParts k place owner ownerName loads).value = (gather place (loads.map (·.value))).kept :=
  congrArg Siblings.kept value_loadAll

/-- The problems of members are those of each in turn. -/
lemma problems_loadMembers : (loadMembers place loads).problems = loads.flatMap (·.problems) := by
  unfold loadMembers
  generalize ({} : Siblings α) = s
  induction loads generalizing s with
  | nil => rfl
  | cons load loads ih =>
    have hadd : (s.add place (fun _ _ => pure ()) load.value).problems = [] := by
      rw [problems_add]
      split <;> rfl
    simp [loadAll, ih, hadd]

/-- A repeated name is noted with the sibling that is kept. -/
lemma noteRepetition_of_first? {k owner : Kind} {ownerName : String} {b : α}
    (h : s.first? place a = some b) : noteRepetition k place owner ownerName s a =
      report (repetition k place owner ownerName a b) := by
  have hfind : (s.kept.find? fun b => (place b).name == (place a).name) = some b := by
    unfold first? at h
    split at h
    · cases h
    · exact h
  simp [noteRepetition, hfind]

/-- Parts are loaded without a problem when each of them is, and their names are distinct. -/
lemma problems_loadParts_eq_nil_iff {k owner : Kind} {ownerName : String} :
    (loadParts k place owner ownerName loads).problems = [] ↔
      (∀ load ∈ loads, load.problems = []) ∧
        (givenNames place (loads.map (·.value))).Nodup := by
  rw [← repeated_eq_nil_iff]
  simp only [loadParts, problems_bind, problems_pure, List.append_nil]
  induction loads using List.reverseRecOn with
  | nil => simp [loadAll]
  | append_singleton loads load ih =>
    rw [loadAll_concat, problems_bind, problems_bind, problems_add, value_loadAll, ← gather,
      List.append_eq_nil_iff, List.append_eq_nil_iff, ih, List.map_append, List.map_singleton,
      gather_concat, List.forall_mem_append, List.forall_mem_singleton]
    cases hf : (gather place (loads.map (·.value))).first? place load.value with
    | none =>
      rw [push_of_new hf]
      tauto
    | some b => simp [push_of_first? hf, noteRepetition_of_first? hf]

end SceneFrames.Siblings
