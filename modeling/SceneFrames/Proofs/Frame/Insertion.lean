import SceneFrames.Frame.Insertion
import SceneFrames.Proofs.Names

/-!
What insertion keeps of the records.

The frame of a name is the first record of that name, whatever stands around it; the names of
the frames are distinct, and none of them is the root's. The base of a frame can therefore be
read off the records alone.
-/

namespace SceneFrames

variable {P : Type} {scope name : String} {frames records : List (FrameRecord P)}
  {r first : FrameRecord P}

/-- The first record of a name. The root has none. -/
def firstRecord? (records : List (FrameRecord P)) (name : String) : Option (FrameRecord P) :=
  if name = "" then none else records.find? (·.name == name)

/-- The root, or the name of a record. -/
def IsDeclared (records : List (FrameRecord P)) (name : String) : Prop :=
  name = "" ∨ ∃ r ∈ records, r.name = name

instance : Decidable (IsDeclared records name) :=
  inferInstanceAs (Decidable (name = "" ∨ ∃ r ∈ records, r.name = name))

/-- What the first record of a name is relative to, if that is declared. -/
def declaredBase? (records : List (FrameRecord P)) (name : String) : Option String :=
  (firstRecord? records name).bind fun r =>
    if IsDeclared records r.relativeTo then some r.relativeTo else none

/-! ### Looking a name up -/

@[simp] lemma findFrame_nil : findFrame ([] : List (FrameRecord P)) name = none := rfl

lemma findFrame_concat : findFrame (frames ++ [r]) name =
    (findFrame frames name).or (if r.name = name then some r else none) := by
  by_cases h : r.name = name <;> simp [findFrame, List.find?_append, h]

lemma findFrame_eq_none_iff : findFrame frames name = none ↔ name ∉ frames.map (·.name) := by
  simp [findFrame]

lemma name_of_findFrame (h : findFrame frames name = some r) : r.name = name := by
  simpa using List.find?_some h

/-- Where names are distinct, a frame is found under its name. -/
lemma findFrame_of_mem (hnd : (frames.map (·.name)).Nodup) (hr : r ∈ frames) :
    findFrame frames r.name = some r := by
  obtain ⟨s, hs⟩ : ∃ s, findFrame frames r.name = some s :=
    Option.ne_none_iff_exists'.mp fun h =>
      findFrame_eq_none_iff.mp h (List.mem_map_of_mem hr)
  have hmem : s ∈ frames := List.mem_of_find?_eq_some hs
  rw [hs, List.inj_on_of_nodup_map hnd hmem hr (name_of_findFrame hs)]

lemma isNode_iff : isNode frames name = true ↔ name ∈ "" :: frames.map (·.name) := by
  simp [isNode, findFrame]

@[simp] lemma firstRecord?_nil : firstRecord? ([] : List (FrameRecord P)) name = none := by
  simp [firstRecord?]

@[simp] lemma firstRecord?_root : firstRecord? records "" = none := by simp [firstRecord?]

lemma firstRecord?_concat : firstRecord? (records ++ [r]) name =
    (firstRecord? records name).or (if r.name ≠ "" ∧ r.name = name then some r else none) := by
  unfold firstRecord?
  by_cases hn : name = ""
  · subst hn
    by_cases h : r.name = "" <;> simp [h]
  · by_cases h : r.name = name <;> simp [List.find?_append, hn, h]

lemma firstRecord?_eq_none_iff :
    firstRecord? records name = none ↔ name = "" ∨ name ∉ records.map (·.name) := by
  unfold firstRecord?
  by_cases hn : name = "" <;> simp [hn]

lemma name_of_firstRecord? (h : firstRecord? records name = some r) : r.name = name := by
  unfold firstRecord? at h
  split at h
  · simp at h
  · simpa using List.find?_some h

lemma mem_of_firstRecord? (h : firstRecord? records name = some r) : r ∈ records := by
  unfold firstRecord? at h
  split at h
  · simp at h
  · exact List.mem_of_find?_eq_some h

/-! ### One record -/

section Step

variable {st : List (FrameRecord P) × List Problem}

lemma insertRecord_nameless (h : r.name = "") : insertRecord scope st r = st := by
  simp [insertRecord, h]

lemma insertRecord_known (h : r.name ≠ "") (hf : findFrame st.1 r.name = some first) :
    insertRecord scope st r =
      (st.1, st.2 ++ [.frameRepeated r.name scope r.citation first.citation]) := by
  simp [insertRecord, h, hf]

lemma insertRecord_new (h : r.name ≠ "") (hf : findFrame st.1 r.name = none) :
    insertRecord scope st r = (st.1 ++ [r], st.2) := by
  simp [insertRecord, h, hf]

end Step

/-! ### All records -/

@[simp] lemma insertRecords_nil :
    insertRecords scope ([] : List (FrameRecord P)) = ([], []) := rfl

lemma insertRecords_concat : insertRecords scope (records ++ [r]) =
    insertRecord scope (insertRecords scope records) r := by
  simp [insertRecords, List.foldl_append]

/-- Records without a name leave no trace. -/
lemma insertRecords_filter_named :
    insertRecords scope (records.filter (·.name ≠ "")) = insertRecords scope records := by
  unfold insertRecords
  rw [List.foldl_filter]
  congr 1
  funext st r
  by_cases h : r.name = ""
  · simp [h, insertRecord_nameless]
  · simp [h]

/-- **The frame of a name is the first record of that name.** -/
theorem findFrame_insertRecords (scope : String) (records : List (FrameRecord P))
    (name : String) :
    findFrame (insertRecords scope records).1 name = firstRecord? records name := by
  induction records using List.reverseRecOn with
  | nil => simp
  | append_singleton records r ih =>
    rw [insertRecords_concat, firstRecord?_concat, ← ih]
    by_cases h : r.name = ""
    · simp [insertRecord_nameless h, h]
    cases hf : findFrame (insertRecords scope records).1 r.name with
    | none =>
      rw [insertRecord_new h hf, findFrame_concat]
      simp [h]
    | some first =>
      rw [insertRecord_known h hf]
      by_cases hn : r.name = name
      · simp [← hn, hf]
      · simp [hn]

/-- The names of the nodes are distinct. -/
lemma nodup_insertRecords (scope : String) (records : List (FrameRecord P)) :
    ("" :: (insertRecords scope records).1.map (·.name)).Nodup := by
  induction records using List.reverseRecOn with
  | nil => simp
  | append_singleton records r ih =>
    rw [insertRecords_concat]
    by_cases h : r.name = ""
    · rwa [insertRecord_nameless h]
    cases hf : findFrame (insertRecords scope records).1 r.name with
    | none =>
      rw [insertRecord_new h hf, List.map_append, ← List.cons_append]
      have hnew : r.name ∉ "" :: (insertRecords scope records).1.map (·.name) := by
        rw [List.mem_cons, not_or]
        exact ⟨h, findFrame_eq_none_iff.mp hf⟩
      exact ih.append (by simp) (List.disjoint_singleton.mpr hnew)
    | some first => rwa [insertRecord_known h hf]

lemma mem_of_mem_insertRecords (h : r ∈ (insertRecords scope records).1) :
    r ∈ records ∧ r.name ≠ "" := by
  have hnd := List.nodup_cons.mp (nodup_insertRecords scope records)
  have hfirst := findFrame_insertRecords scope records r.name
  rw [findFrame_of_mem hnd.2 h] at hfirst
  exact ⟨mem_of_firstRecord? hfirst.symm, fun he => hnd.1 (List.mem_map.mpr ⟨r, h, he⟩)⟩

lemma isNode_insertRecords :
    isNode (insertRecords scope records).1 name = true ↔ IsDeclared records name := by
  by_cases hn : name = ""
  · simp [isNode, IsDeclared, hn]
  · simp [isNode, IsDeclared, hn, findFrame_insertRecords, firstRecord?]

/-- The base of a frame is read off the records. -/
lemma baseOf?_insertRecords (scope : String) (records : List (FrameRecord P)) :
    baseOf? (insertRecords scope records).1 = declaredBase? records := by
  funext name
  simp only [baseOf?, declaredBase?, findFrame_insertRecords, isNode_insertRecords]

/-- A problem says that a record repeats the name of the first record of that name. -/
def SaysRepeated (scope : String) (records : List (FrameRecord P)) (r : FrameRecord P)
    (p : Problem) : Prop :=
  ∃ first, firstRecord? records r.name = some first ∧
    p = .frameRepeated r.name scope r.citation first.citation

lemma SaysRepeated.concat {p : Problem} (h : SaysRepeated scope records r p)
    (last : FrameRecord P) : SaysRepeated scope (records ++ [last]) r p := by
  obtain ⟨first, hfirst, hp⟩ := h
  refine ⟨first, ?_, hp⟩
  rw [firstRecord?_concat, hfirst, Option.some_or]

/-- A record is the first of its name, or of none, exactly when its name is no frame's. -/
lemma isFirstUse_iff_findFrame (scope : String) (records : List (FrameRecord P))
    (r : FrameRecord P) : isFirstUse (·.name) records r = true ↔
    r.name = "" ∨ findFrame (insertRecords scope records).1 r.name = none := by
  rw [isFirstUse_iff, findFrame_insertRecords, firstRecord?_eq_none_iff]
  tauto

/-- **Frames and repetitions.** The frames are the first records of their names, and each later
record of a name is reported, in order. -/
theorem insertRecords_uses (scope : String) (records : List (FrameRecord P)) :
    (insertRecords scope records).1 = (firstUses (·.name) records).filter (·.name ≠ "") ∧
      List.Forall₂ (SaysRepeated scope records) (laterUses (·.name) records)
        (insertRecords scope records).2 := by
  induction records using List.reverseRecOn with
  | nil => exact ⟨rfl, .nil⟩
  | append_singleton records r ih =>
    obtain ⟨hframes, hproblems⟩ := ih
    have hproblems' : List.Forall₂ (SaysRepeated scope (records ++ [r]))
        (laterUses (·.name) records) (insertRecords scope records).2 :=
      hproblems.imp fun _ _ h => h.concat r
    rw [insertRecords_concat, firstUses_concat, laterUses_concat]
    by_cases hn : r.name = ""
    · have hfirst := (isFirstUse_iff_findFrame scope records r).mpr (Or.inl hn)
      rw [insertRecord_nameless hn, if_pos hfirst, if_pos hfirst, List.append_nil]
      exact ⟨by simpa [hn] using hframes, hproblems'⟩
    cases hf : findFrame (insertRecords scope records).1 r.name with
    | none =>
      have hfirst := (isFirstUse_iff_findFrame scope records r).mpr (Or.inr hf)
      rw [insertRecord_new hn hf, if_pos hfirst, if_pos hfirst, List.append_nil]
      exact ⟨by simp [hframes, hn], hproblems'⟩
    | some first =>
      have hlater : ¬ isFirstUse (·.name) records r := by
        rw [isFirstUse_iff_findFrame scope, hf]
        simp [hn]
      rw [insertRecord_known hn hf, if_neg hlater, if_neg hlater, List.append_nil]
      refine ⟨hframes, List.rel_append hproblems' (.cons ⟨first, ?_, rfl⟩ .nil)⟩
      rw [findFrame_insertRecords] at hf
      rw [firstRecord?_concat, hf, Option.some_or]

/-- What is met on insertion reports a record. -/
lemma exists_saysRepeated {rs : List (FrameRecord P)} {ps : List Problem} {p : Problem}
    (h : List.Forall₂ (SaysRepeated scope records) rs ps) (hp : p ∈ ps) :
    ∃ r ∈ rs, SaysRepeated scope records r p := by
  induction h with
  | nil => simp at hp
  | cons hr _ ih =>
    rcases List.mem_cons.mp hp with rfl | hp'
    · exact ⟨_, List.mem_cons_self, hr⟩
    · obtain ⟨r, hmem, hsays⟩ := ih hp'
      exact ⟨r, List.mem_cons_of_mem _ hmem, hsays⟩

/-- No name is repeated exactly when the names given are distinct. -/
lemma insertRecords_problems_eq_nil_iff :
    (insertRecords scope records).2 = [] ↔ ((records.map (·.name)).filter (· ≠ "")).Nodup := by
  rw [← laterUses_eq_nil_iff, ← List.length_eq_zero_iff, ← List.length_eq_zero_iff,
    (insertRecords_uses scope records).2.length_eq]

end SceneFrames
