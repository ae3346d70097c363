import SceneFrames.Proofs.Frame.Traversal
import SceneFrames.Proofs.Frame.Validity
import SceneFrames.Proofs.Scene.WellFormed

/-!
Scopes of named members.

The graph of a scope whose members all have names is without problems exactly when what they
declare forms a scope. The order of the members is of no account to that, although the graph is
built in an order of its own.
-/

namespace SceneFrames

open Ascent Relation

variable {P : Type} {records : List (FrameRecord P)} {x y : String}

/-- The name that a record declares, and the frame that it is relative to. -/
def FrameRecord.declaration (r : FrameRecord P) : String × String := (r.name, r.relativeTo)

lemma map_declaration_fst : (records.map (·.declaration)).map (·.1) = records.map (·.name) :=
  List.map_map

/-- Whether declarations form a scope does not depend on their order. -/
lemma FormsScope.perm {ds es : List (String × String)} (h : FormsScope ds) (hp : ds.Perm es) :
    FormsScope es where
  distinct := ((hp.map _).nodup_iff).mp h.distinct
  resolved d hd := (h.resolved d (hp.mem_iff.mpr hd)).imp_right ((hp.map _).mem_iff.mp ·)
  acyclic x hx := h.acyclic x (TransGen.mono (fun _ _ hd => hp.mem_iff.mpr hd) _ _ hx)

/-- Over a circle, every frame of it leads back to itself. -/
lemma Ascent.IsCircle.loop {base? : String → Option String} {c : Cycle String}
    (hc : IsCircle base? c) (hx : x ∈ c) : TransGen (StandsOn base?) x x := by
  obtain ⟨l, -, -, hchain⟩ := hc.exists_read hx
  cases l with
  | nil => exact .single (by simpa using hchain)
  | cons y l =>
    obtain ⟨hxy, hback⟩ := List.isChain_cons_cons.mp hchain
    refine TransGen.head' hxy ?_
    exact List.relationReflTransGen_of_exists_isChain_cons (l ++ [x]) hback (by simp)

section Named

variable (hnamed : ∀ r ∈ records, r.name ≠ "")

include hnamed

lemma filter_names : (records.map (·.name)).filter (· ≠ "") = records.map (·.name) := by
  simpa [List.filter_eq_self] using hnamed

lemma declaredOn_iff : DeclaredOn records x y ↔ (x, y) ∈ records.map (·.declaration) := by
  simp only [DeclaredOn, FrameRecord.declaration, List.mem_map, Prod.mk.injEq]
  constructor
  · rintro ⟨r, hr, -, hxy⟩
    exact ⟨r, hr, hxy⟩
  · rintro ⟨r, hr, hxy⟩
    exact ⟨r, hr, hnamed r hr, hxy⟩

/-- The declarations of a tree form a scope. -/
lemma DeclareTree.formsScope (h : DeclareTree records) :
    FormsScope (records.map (·.declaration)) where
  distinct := by simpa only [map_declaration_fst, filter_names hnamed] using h.distinct
  resolved := by
    rw [List.forall_mem_map]
    intro r hr
    refine (h.resolved r hr (hnamed r hr)).imp_right ?_
    rintro ⟨s, hs, -, heq⟩
    rw [map_declaration_fst]
    exact List.mem_map.mpr ⟨s, hs, heq⟩
  acyclic x hloop := by
    have hstands : TransGen (StandsOn (declaredBase? records)) x x :=
      TransGen.mono (fun _ _ hd => h.standsOn ((declaredOn_iff hnamed).mpr hd)) _ _ hloop
    obtain ⟨y, hxy, -⟩ := TransGen.head'_iff.mp hstands
    have hx : IsDeclared records x := mem_nodes_iff.mp (encloses_nodes "" records x y hxy)
    exact not_transGen_self declaredBase?_root (h.leads_root hx) hstands

/-- A circle of bases would make a frame relative to itself. -/
lemma FormsScope.not_isCircle (h : FormsScope (records.map (·.declaration))) (c : Cycle String) :
    ¬ IsCircle (declaredBase? records) c := by
  intro hc
  obtain ⟨x, hx⟩ := hc.exists_mem
  exact h.acyclic x (TransGen.mono
    (fun _ _ hxy => (declaredOn_iff hnamed).mp (declaredOn_of_standsOn hxy)) _ _ (hc.loop hx))

variable [RigidMotion P]

/-- **A scope of named members** has a graph without problems exactly when what they declare
forms a scope. -/
theorem valid_iff_formsScope (scope : String) :
    (FrameGraph.build records scope).valid = true ↔
      FormsScope (records.map (·.declaration)) := by
  constructor
  · intro hvalid
    exact ((FrameGraph.valid_iff_declareTree _ _ _).mp hvalid).formsScope hnamed
  · intro hscope
    refine FrameGraph.valid_buildAlong_iff.mpr ⟨?_, fun r hr => ?_, hscope.not_isCircle hnamed⟩
    · simpa only [map_declaration_fst, filter_names hnamed] using hscope.distinct
    · have hmem := (mem_of_mem_insertRecords hr).1
      refine (hscope.resolved r.declaration (List.mem_map_of_mem hmem)).imp_right fun h => ?_
      rw [map_declaration_fst] at h
      exact List.mem_map.mp h

end Named

/-- The graph of a scope has no problems exactly when what is declared, in any order and never
without a name, forms a scope. -/
lemma problems_build_eq_nil_iff [RigidMotion P] {ds : List (String × String)} (scope : String)
    (hperm : (records.map (·.declaration)).Perm ds) (hnamed : ∀ d ∈ ds, d.1 ≠ "") :
    (FrameGraph.build records scope).problems = [] ↔ FormsScope ds := by
  have hrecords : ∀ r ∈ records, r.name ≠ "" :=
    fun r hr => hnamed r.declaration (hperm.mem_iff.mp (List.mem_map_of_mem hr))
  rw [← List.isEmpty_iff]
  exact (valid_iff_formsScope hrecords scope).trans ⟨(·.perm hperm), (·.perm hperm.symm)⟩

/-- In a scope the children of one kind have distinct names. -/
lemma FormsScope.nodup_namesOf {options : Options} {kinds : List Kind} {e : Element} {k : Kind}
    (h : FormsScope (e.declarations options kinds)) (hk : k ∈ kinds) : (e.namesOf k).Nodup := by
  have hnames : (e.declarations options kinds).map (·.1) = kinds.flatMap e.namesOf := by
    rw [Element.declarations, List.map_map, List.map_flatMap]
    rfl
  exact (List.nodup_flatMap.mp (hnames ▸ h.distinct)).1 k hk

end SceneFrames
