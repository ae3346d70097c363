import SceneFrames.Proofs.Frame.Graph

/-!
Which records make a valid graph.

A graph is valid exactly when its records declare a tree: the names are distinct, everything
that a frame is relative to is declared, and from every frame the root is reached. One direction
needs that a frame which does not lead to the root has a reason for it, a circle or a missing
base; the other that a frame which leads to the root leads into no circle.
-/

namespace SceneFrames

open Ascent Relation

variable {P : Type} {records : List (FrameRecord P)} {r : FrameRecord P} {x y : String}

/-- A record declares the first name relative to the second. -/
def DeclaredOn (records : List (FrameRecord P)) (x y : String) : Prop :=
  ∃ r ∈ records, r.name ≠ "" ∧ r.name = x ∧ r.relativeTo = y

/-- The named records declare a tree of frames with the implicit root. -/
structure DeclareTree (records : List (FrameRecord P)) : Prop where
  distinct : ((records.map (·.name)).filter (· ≠ "")).Nodup
  resolved : ∀ r ∈ records, r.name ≠ "" →
    r.relativeTo = "" ∨ ∃ s ∈ records, s.name ≠ "" ∧ s.name = r.relativeTo
  grounded : ∀ r ∈ records, r.name ≠ "" → ReflTransGen (DeclaredOn records) r.name ""

/-- Where names are distinct, a named record is the first of its name. -/
lemma firstRecord?_of_mem (hnd : ((records.map (·.name)).filter (· ≠ "")).Nodup)
    (hr : r ∈ records) (hn : r.name ≠ "") : firstRecord? records r.name = some r := by
  obtain ⟨s, hs⟩ : ∃ s, firstRecord? records r.name = some s :=
    Option.ne_none_iff_exists'.mp fun h =>
      (firstRecord?_eq_none_iff.mp h).elim hn fun h' => h' (List.mem_map_of_mem hr)
  have hsn := name_of_firstRecord? hs
  have hfilter : ((records.filter (·.name ≠ "")).map (·.name)).Nodup := by
    rw [List.filter_map] at hnd
    exact hnd
  have hsr := List.inj_on_of_nodup_map hfilter
    (List.mem_filter.mpr ⟨mem_of_firstRecord? hs, by simpa [hsn] using hn⟩)
    (List.mem_filter.mpr ⟨hr, by simpa using hn⟩) hsn
  rw [hs, hsr]

lemma isDeclared_iff_named : IsDeclared records x ↔
    x = "" ∨ ∃ s ∈ records, s.name ≠ "" ∧ s.name = x := by
  constructor
  · rintro (rfl | ⟨s, hs, rfl⟩)
    · exact Or.inl rfl
    · by_cases h : s.name = ""
      · exact Or.inl h
      · exact Or.inr ⟨s, hs, h, rfl⟩
  · rintro (rfl | ⟨s, hs, -, rfl⟩)
    · exact Or.inl rfl
    · exact Or.inr ⟨s, hs, rfl⟩

/-- A base is declared by a record. -/
lemma declaredOn_of_standsOn (h : StandsOn (declaredBase? records) x y) :
    DeclaredOn records x y := by
  obtain ⟨r, hr, hy, -⟩ := declaredBase?_eq_some_iff.mp h
  have hx : x ≠ "" := fun he => by simp [he] at hr
  have hname := name_of_firstRecord? hr
  exact ⟨r, mem_of_firstRecord? hr, hname ▸ hx, hname, hy⟩

namespace DeclareTree

/-- In a tree, what a record declares is the base of its frame. -/
lemma standsOn (h : DeclareTree records) (hxy : DeclaredOn records x y) :
    StandsOn (declaredBase? records) x y := by
  obtain ⟨r, hr, hn, rfl, rfl⟩ := hxy
  exact declaredBase?_eq_some_iff.mpr ⟨r, firstRecord?_of_mem h.distinct hr hn, rfl,
    isDeclared_iff_named.mpr (h.resolved r hr hn)⟩

/-- In a tree, every declared name leads to the root. -/
lemma leads_root (h : DeclareTree records) (hx : IsDeclared records x) :
    Leads (declaredBase? records) x "" := by
  rcases isDeclared_iff_named.mp hx with rfl | ⟨r, hr, hn, rfl⟩
  · exact .refl
  · exact ReflTransGen.mono (fun _ _ => h.standsOn) _ _ (h.grounded r hr hn)

end DeclareTree

/-- Where every base is declared, only circles keep a frame from the root. -/
lemma leads_root_of_no_circle
    (hres : ∀ r ∈ records, r.name ≠ "" → firstRecord? records r.name = some r ∧
      IsDeclared records r.relativeTo)
    (hcirc : ∀ c, ¬ IsCircle (declaredBase? records) c) (hx : IsDeclared records x) :
    Leads (declaredBase? records) x "" := by
  rcases leads_or_lost_of_isDeclared hx with h | ⟨c, hc, -⟩ | ⟨y, hy, hnone, hxy⟩
  · exact h
  · exact absurd hc (hcirc c)
  -- an ascent stays among the declared names, so its end is the name of a record
  have hydecl : IsDeclared records y := by
    rcases hxy.cases_tail with rfl | ⟨z, -, hzy⟩
    · exact hx
    · exact isDeclared_base hzy
  obtain ⟨s, hs, hn, rfl⟩ := (isDeclared_iff_named.mp hydecl).resolve_left hy
  obtain ⟨hfirst, hdecl⟩ := hres s hs hn
  have hbase := declaredBase?_eq_some_iff.mpr ⟨s, hfirst, rfl, hdecl⟩
  rw [hnone] at hbase
  exact absurd hbase (by simp)

namespace FrameGraph

variable [RigidMotion P]

/-- Whatever the traversal, a graph is valid exactly when its records declare a tree. -/
lemma valid_iff_declareTree (traverse : List (FrameRecord P) → Traversal)
    (records : List (FrameRecord P)) (scope : String) :
    (buildAlong traverse records scope).valid = true ↔ DeclareTree records := by
  rw [valid_buildAlong_iff]
  constructor
  · rintro ⟨hdistinct, hdangling, hcirc⟩
    have hres : ∀ r ∈ records, r.name ≠ "" → firstRecord? records r.name = some r ∧
        IsDeclared records r.relativeTo := by
      intro r hr hn
      have hfirst := firstRecord?_of_mem hdistinct hr hn
      refine ⟨hfirst, hdangling r ?_⟩
      rw [← findFrame_insertRecords scope] at hfirst
      exact List.mem_of_find?_eq_some hfirst
    refine ⟨hdistinct, fun r hr hn => isDeclared_iff_named.mp (hres r hr hn).2, ?_⟩
    intro r hr hn
    have hleads := leads_root_of_no_circle hres hcirc (Or.inr ⟨r, hr, rfl⟩)
    exact ReflTransGen.mono (fun _ _ => declaredOn_of_standsOn) _ _ hleads
  · intro htree
    refine ⟨htree.distinct, fun r hr => ?_, fun c hc => ?_⟩
    · obtain ⟨hmem, hn⟩ := mem_of_mem_insertRecords hr
      exact isDeclared_iff_named.mpr (htree.resolved r hmem hn)
    · obtain ⟨x, hx⟩ := hc.exists_mem
      obtain ⟨y, -, hxy⟩ := hc.exists_base hx
      have hdecl : IsDeclared records x :=
        mem_nodes_iff.mp (encloses_nodes scope records x y hxy)
      exact (LeadsInto.of_mem hx).not_leads hc declaredBase?_root (htree.leads_root hdecl)

/-- **Validity.** A graph is valid exactly when its named records declare a tree of frames with
the implicit root. Records without a name make no difference to it. -/
theorem valid_build_iff (records : List (FrameRecord P)) (scope : String) :
    ((build records scope).valid = true ↔ DeclareTree records) ∧
      build (records.filter (·.name ≠ "")) scope = build records scope := by
  refine ⟨valid_iff_declareTree depthFirst records scope, ?_⟩
  simp only [build, buildAlong, insertRecords_filter_named]

end FrameGraph

end SceneFrames
