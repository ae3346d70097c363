import Mathlib.Data.List.Dedup
import Mathlib.Data.List.Induction
import Mathlib.Data.List.Perm.Basic
import Mathlib.Tactic.Lemma

/-!
First and later uses of names.

Of entries that may have names, a first use has no name, or one that no earlier entry has; every
other entry is a later use. What is a use of which kind depends on the entries before it alone, so
both are read off a list from its end. There are as many later uses as there are names given
beyond the distinct ones.
-/

namespace SceneFrames

variable {α β : Type} {name : α → String} {as bs : List α} {a : α} {x : String}

/-- The entries that pass a test together with those before them, in order. -/
def picked (test : List α → α → Bool) (as : List α) : List α :=
  (as.zipIdx.filter fun p => test (as.take p.2) p.1).map (·.1)

/-- The entry has no name, or one that no earlier entry has. -/
def isFirstUse (name : α → String) (before : List α) (a : α) : Bool :=
  name a = "" || !(before.map name).contains (name a)

/-- The entries without a name, and the first of each name. -/
def firstUses (name : α → String) : List α → List α := picked (isFirstUse name)

/-- The entries that have the name of an earlier one. -/
def laterUses (name : α → String) : List α → List α :=
  picked fun before a => !isFirstUse name before a

lemma isFirstUse_iff : isFirstUse name as a = true ↔ name a = "" ∨ name a ∉ as.map name := by
  simp [isFirstUse]

/-! ### From the end of the list -/

lemma picked_concat (test : List α → α → Bool) (as : List α) (a : α) :
    picked test (as ++ [a]) = picked test as ++ if test as a then [a] else [] := by
  have hbefore : (as.zipIdx.filter fun p => test ((as ++ [a]).take p.2) p.1) =
      as.zipIdx.filter fun p => test (as.take p.2) p.1 := by
    refine List.filter_congr fun p hp => ?_
    have hlt : p.2 < as.length := by simpa using (List.mem_zipIdx hp).2.1
    rw [List.take_append_of_le_length (Nat.le_of_lt hlt)]
  rw [picked, List.zipIdx_append, List.filter_append, hbefore, List.map_append]
  by_cases h : test as a <;> simp [picked, h]

lemma picked_map (test : List α → α → Bool) (f : β → α) (bs : List β) :
    picked test (bs.map f) = (picked (fun before b => test (before.map f) (f b)) bs).map f := by
  induction bs using List.reverseRecOn with
  | nil => rfl
  | append_singleton bs b ih =>
    rw [List.map_append, List.map_singleton, picked_concat, picked_concat, ih, List.map_append]
    by_cases h : test (bs.map f) (f b) <;> simp [h]

lemma firstUses_concat (name : α → String) (as : List α) (a : α) :
    firstUses name (as ++ [a]) =
      firstUses name as ++ if isFirstUse name as a then [a] else [] :=
  picked_concat _ as a

lemma laterUses_concat (name : α → String) (as : List α) (a : α) :
    laterUses name (as ++ [a]) =
      laterUses name as ++ if isFirstUse name as a then [] else [a] := by
  rw [laterUses, picked_concat]
  cases isFirstUse name as a <;> rfl

@[simp] lemma firstUses_nil : firstUses name [] = [] := rfl
@[simp] lemma laterUses_nil : laterUses name [] = [] := rfl

lemma isFirstUse_map (name : α → String) (f : β → α) (bs : List β) (b : β) :
    isFirstUse name (bs.map f) (f b) = isFirstUse (fun b => name (f b)) bs b := by
  simp only [isFirstUse, List.map_map, Function.comp_def]

/-- Which entries are first uses depends on their names alone. -/
lemma firstUses_map (name : α → String) (f : β → α) (bs : List β) :
    firstUses name (bs.map f) = (firstUses (fun b => name (f b)) bs).map f := by
  simp only [firstUses, picked_map, isFirstUse_map]

lemma laterUses_map (name : α → String) (f : β → α) (bs : List β) :
    laterUses name (bs.map f) = (laterUses (fun b => name (f b)) bs).map f := by
  simp only [laterUses, picked_map, isFirstUse_map]

lemma firstUses_congr {name' : α → String} (h : ∀ a ∈ as, name a = name' a) :
    firstUses name as = firstUses name' as := by
  have hpairs : as.map (fun a => (a, name a)) = as.map (fun a => (a, name' a)) :=
    List.map_congr_left fun a ha => by rw [h a ha]
  have huses := congrArg (fun ps => (firstUses Prod.snd ps).map Prod.fst) hpairs
  simpa [firstUses_map, Function.comp_def] using huses

lemma laterUses_congr {name' : α → String} (h : ∀ a ∈ as, name a = name' a) :
    laterUses name as = laterUses name' as := by
  have hpairs : as.map (fun a => (a, name a)) = as.map (fun a => (a, name' a)) :=
    List.map_congr_left fun a ha => by rw [h a ha]
  have huses := congrArg (fun ps => (laterUses Prod.snd ps).map Prod.fst) hpairs
  simpa [laterUses_map, Function.comp_def] using huses

/-- Every entry is a first use or a later one. -/
lemma uses_perm (name : α → String) (as : List α) :
    (firstUses name as ++ laterUses name as).Perm as := by
  have hsplit := (List.filter_append_perm (fun p : α × ℕ => isFirstUse name (as.take p.2) p.1)
    as.zipIdx).map (·.1)
  rw [List.map_append, List.zipIdx_map_fst] at hsplit
  exact hsplit

/-! ### The names of the uses -/

lemma mem_of_mem_firstUses (h : a ∈ firstUses name as) : a ∈ as :=
  (uses_perm name as).subset (List.mem_append_left _ h)

lemma mem_of_mem_laterUses (h : a ∈ laterUses name as) : a ∈ as :=
  (uses_perm name as).subset (List.mem_append_right _ h)

/-- Every name has a first use. -/
lemma mem_map_firstUses : x ∈ (firstUses name as).map name ↔ x ∈ as.map name := by
  induction as using List.reverseRecOn with
  | nil => rfl
  | append_singleton as a ih =>
    rw [firstUses_concat, List.map_append, List.mem_append, ih, List.map_append, List.mem_append]
    by_cases h : isFirstUse name as a
    · simp [h]
    · rw [isFirstUse_iff, not_or, not_not] at h
      have hold : x ∈ [a].map name → x ∈ as.map name := by
        rw [List.map_singleton, List.mem_singleton]
        rintro rfl
        exact h.2
      have hlater : ¬ isFirstUse name as a := by
        rw [isFirstUse_iff, not_or, not_not]
        exact h
      rw [if_neg hlater]
      constructor
      · exact fun hx => Or.inl (hx.resolve_right (by simp))
      · exact fun hx => Or.inl (hx.elim id hold)

/-- A later use has a name, and the name has a first use. -/
lemma name_of_mem_laterUses (h : a ∈ laterUses name as) :
    name a ≠ "" ∧ name a ∈ (firstUses name as).map name := by
  induction as using List.reverseRecOn with
  | nil => simp at h
  | append_singleton as b ih =>
    rw [laterUses_concat] at h
    have hgrow : (firstUses name as).map name ⊆ (firstUses name (as ++ [b])).map name := by
      rw [firstUses_concat, List.map_append]
      exact List.subset_append_left _ _
    rcases List.mem_append.mp h with ha | ha
    · exact ⟨(ih ha).1, hgrow (ih ha).2⟩
    · by_cases hfirst : isFirstUse name as b
      · simp [hfirst] at ha
      · obtain rfl : a = b := by simpa [hfirst] using ha
        rw [isFirstUse_iff, not_or, not_not] at hfirst
        exact ⟨hfirst.1, hgrow (mem_map_firstUses.mpr hfirst.2)⟩

/-- No name has two first uses. -/
lemma nodup_firstUses (name : α → String) (as : List α) :
    (((firstUses name as).map name).filter (· ≠ "")).Nodup := by
  induction as using List.reverseRecOn with
  | nil => simp
  | append_singleton as a ih =>
    rw [firstUses_concat, List.map_append, List.filter_append]
    by_cases h : isFirstUse name as a
    · rw [if_pos h]
      refine ih.append (List.Nodup.filter _ (by simp)) (List.disjoint_left.mpr fun x hx hxa => ?_)
      obtain ⟨rfl, hn⟩ : x = name a ∧ x ≠ "" := by simpa using hxa
      exact (isFirstUse_iff.mp h).elim hn fun hnew =>
        hnew (mem_map_firstUses.mp (List.mem_of_mem_filter hx))
    · simpa [h] using ih

/-- The names of the first uses are those given, in the order in which they first occur. -/
lemma filter_map_firstUses (name : α → String) (as : List α) :
    ((firstUses name as).map name).filter (· ≠ "") =
      ((as.map name).filter (· ≠ "")).eraseDups := by
  induction as using List.reverseRecOn with
  | nil => rfl
  | append_singleton as a ih =>
    rw [firstUses_concat, List.map_append, List.map_append, List.filter_append,
      List.filter_append, ih, List.eraseDups_append]
    congr 1
    by_cases hn : name a = ""
    · by_cases h : isFirstUse name as a <;> simp [h, hn]
    · by_cases h : ∃ b ∈ as, name b = name a <;>
        simp [isFirstUse, List.removeAll, List.eraseDups_cons, hn, h]

/-- Where the names given are distinct, all uses are first uses. -/
lemma laterUses_eq_nil_iff :
    laterUses name as = [] ↔ ((as.map name).filter (· ≠ "")).Nodup := by
  have hperm := (uses_perm name as).map name |>.filter (· ≠ "")
  rw [List.map_append, List.filter_append] at hperm
  constructor
  · intro h
    rw [h, List.map_nil, List.filter_nil, List.append_nil] at hperm
    exact hperm.nodup_iff.mp (nodup_firstUses name as)
  · intro h
    refine List.eq_nil_iff_forall_not_mem.mpr fun a ha => ?_
    obtain ⟨hn, hfirst⟩ := name_of_mem_laterUses ha
    refine List.disjoint_of_nodup_append (hperm.nodup_iff.mpr h)
      (List.mem_filter.mpr ⟨hfirst, by simpa using hn⟩)
      (List.mem_filter.mpr ⟨List.mem_map_of_mem ha, by simpa using hn⟩)

lemma firstUses_sublist (name : α → String) (as : List α) :
    (firstUses name as).Sublist as := by
  have hsub := (List.filter_sublist (l := as.zipIdx)
    (p := fun p => isFirstUse name (as.take p.2) p.1)).map (·.1)
  rwa [List.zipIdx_map_fst] at hsub

lemma firstUses_eq_self (h : ((as.map name).filter (· ≠ "")).Nodup) : firstUses name as = as := by
  have hlength := (uses_perm name as).length_eq
  rw [laterUses_eq_nil_iff.mpr h, List.append_nil] at hlength
  exact (firstUses_sublist name as).eq_of_length hlength

/-- Entries whose names are all in use are later uses. -/
lemma laterUses_append_of_mem (h : ∀ b ∈ bs, name b ≠ "" ∧ name b ∈ as.map name) :
    laterUses name (as ++ bs) = laterUses name as ++ bs := by
  induction bs using List.reverseRecOn with
  | nil => simp
  | append_singleton bs b ih =>
    have hlater : ¬ isFirstUse name (as ++ bs) b := by
      obtain ⟨hn, hb⟩ := h b (by simp)
      rw [isFirstUse_iff, not_or, not_not, List.map_append]
      exact ⟨hn, List.mem_append_left _ hb⟩
    rw [← List.append_assoc, laterUses_concat, if_neg hlater,
      ih fun a ha => h a (List.mem_append_left _ ha), List.append_assoc]

/-! ### Looking a name up -/

/-- The first entry of a name is a first use. -/
lemma find?_firstUses (name : α → String) (as : List α) (x : String) :
    (firstUses name as).find? (name · == x) = as.find? (name · == x) := by
  induction as using List.reverseRecOn with
  | nil => rfl
  | append_singleton as a ih =>
    rw [firstUses_concat, List.find?_append, List.find?_append, ih]
    by_cases hfirst : isFirstUse name as a
    · rw [if_pos hfirst]
    · have h := hfirst
      rw [isFirstUse_iff, not_or, not_not] at h
      rw [if_neg hfirst]
      by_cases hax : name a = x
      · obtain ⟨b, hb⟩ : ∃ b, as.find? (name · == x) = some b := by
          obtain ⟨b, hb, hbx⟩ := List.mem_map.mp h.2
          exact Option.isSome_iff_exists.mp (List.find?_isSome.mpr ⟨b, hb, by simp [hbx, hax]⟩)
        rw [hb, Option.some_or, Option.some_or]
      · simp [hax]

/-- Where no name is given twice, an entry with a name is the first of its name. -/
lemma findIdx?_of_nodup {i : ℕ} (hnd : ((as.map name).filter (· ≠ "")).Nodup)
    (hi : as[i]? = some a) (hn : name a ≠ "") : as.findIdx? (name · == name a) = some i := by
  obtain ⟨hlt, rfl⟩ := List.getElem?_eq_some_iff.mp hi
  refine List.findIdx?_eq_some_iff_getElem.mpr ⟨hlt, by simp, fun j hj => ?_⟩
  rw [List.Nodup, List.pairwise_filter, List.pairwise_map] at hnd
  have hdiffer := List.pairwise_iff_getElem.mp hnd j i (Nat.lt_trans hj hlt) hlt hj
  rw [beq_iff_eq]
  intro heq
  exact hdiffer (by simpa [heq] using hn) (by simpa using hn) heq

/-- **There are as many later uses as names given beyond the distinct ones.** -/
theorem length_laterUses (name : α → String) (as : List α) :
    (laterUses name as).length + ((as.map name).filter (· ≠ "")).dedup.length =
      ((as.map name).filter (· ≠ "")).length := by
  have hfirst : (((firstUses name as).map name).filter (· ≠ "")).Perm
      ((as.map name).filter (· ≠ "")).dedup := by
    refine (List.perm_ext_iff_of_nodup (nodup_firstUses name as) (List.nodup_dedup _)).mpr
      fun x => ?_
    rw [List.mem_dedup, List.mem_filter, List.mem_filter, mem_map_firstUses]
  have hlater : ((laterUses name as).map name).filter (· ≠ "") = (laterUses name as).map name := by
    refine List.filter_eq_self.mpr ?_
    rw [List.forall_mem_map]
    exact fun a ha => by simpa using (name_of_mem_laterUses ha).1
  have hall := (((uses_perm name as).map name).filter (· ≠ "")).length_eq
  rw [List.map_append, List.filter_append, hlater, List.length_append, hfirst.length_eq,
    List.length_map] at hall
  omega

end SceneFrames
