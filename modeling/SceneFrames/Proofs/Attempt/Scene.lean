import SceneFrames.Proofs.Attempt.Step
import SceneFrames.Scene.Document
import SceneFrames.Scene.Entity

/-!
Nothing is loaded with a mishap.

Every load is made once for all monads, so that an attempt makes the steps of the running load,
in the same order. The steps that need not be defined come to this. Most are always defined. A
first child is asked for where there are children, and a namesake where a name is taken. So each
attempt makes what the running load makes; for models this is an induction on the element, since
the models inside a model are children of its element.
-/

namespace SceneFrames

open Attempt Loading

variable {options : Options} {e : Element} {k : Kind} {name : String}

/-! ### Placements and shapes -/

namespace Placement

lemma loadBase_attempt (pose : Element) :
    (loadBase options pose : Attempt String) = sure (loadBase options pose) := by
  simp only [loadBase, text_eq_sure, sure_bind, sure_ite, sure_pure]

lemma loadPose_attempt (p : Placement) :
    (p.loadPose options e : Attempt Placement) = sure (p.loadPose options e) := by
  unfold loadPose
  cases e.first? "pose" with
  | none => exact (sure_pure p).symm
  | some child =>
    simp only [loadBase_attempt, pose_eq_sure, sure_bind, sure_ite, sure_pure]

end Placement

namespace Shape

/-- The first shape is asked for where there is one. -/
lemma loadGeometry_attempt (old : String) :
    (loadGeometry k name e old : Attempt String) = sure (loadGeometry k name e old) := by
  unfold loadGeometry
  cases e.first? "geometry" with
  | none => simp only [note_eq_sure, note_eq, sure_bind, sure_pure]
  | some g =>
    cases hg : g.children with
    | nil => simp [hg, sure_pure]
    | cons shape more =>
      have hdefined : (Step.firstChild g).Defined := by simp [Step.Defined, hg]
      simp only [take_eq_sure hdefined, note_eq_sure, note_eq, sure_bind, sure_ite, sure_pure]

lemma load_attempt (old : Shape) :
    (load k options old e : Attempt Shape) = sure (load k options old e) := by
  rw [load, load, ← loadAs_sure]
  simp only [note_eq_sure, note_eq, Placement.loadPose_attempt, loadGeometry_attempt, sure_bind,
    sure_pure]

end Shape

/-! ### Siblings and links -/

namespace Siblings

variable {α : Type} {place : α → Placement}

/-- A name that is repeated is the name of a sibling that is kept. -/
lemma namesake_defined {s : Siblings α} {a : α} (h : (s.first? place a).isSome) :
    (Step.namesake (fun b => (place b).name) s.kept a).Defined := by
  obtain ⟨b, hb⟩ := Option.isSome_iff_exists.mp h
  rw [first?] at hb
  split at hb
  · cases hb
  · exact ⟨b, List.mem_of_find?_eq_some hb, by simpa using List.find?_some hb⟩

/-- A rule is only asked about a name that is repeated. -/
lemma loadAll_attempt {onRepeat : Siblings α → α → Attempt Unit}
    {onRepeat' : Siblings α → α → Journaled Unit}
    (hrule : ∀ s a, (s.first? place a).isSome → onRepeat s a = sure (onRepeat' s a))
    (s : Siblings α) (loads : List (Journaled α)) :
    loadAll place onRepeat s (loads.map sure) = sure (loadAll place onRepeat' s loads) := by
  have hadd (s : Siblings α) (a : α) : s.add place onRepeat a = sure (s.add place onRepeat' a) := by
    unfold add
    by_cases h : (s.first? place a).isSome
    · simp only [h, if_true, hrule s a h, sure_bind, sure_pure]
    · simp only [h, Bool.false_eq_true, if_false, sure_pure]
  induction loads generalizing s with
  | nil => exact (sure_pure s).symm
  | cons load loads ih => simp only [List.map_cons, loadAll, hadd, ih, sure_bind]

lemma loadMembers_attempt (loads : List (Journaled α)) :
    loadMembers place (loads.map sure) = sure (loadMembers place loads) :=
  loadAll_attempt (fun _ _ _ => (sure_pure ()).symm) {} loads

lemma loadParts_attempt {owner : Kind} {ownerName : String} (loads : List (Journaled α)) :
    loadParts k place owner ownerName (loads.map sure) =
      sure (loadParts k place owner ownerName loads) := by
  have hrule (s : Siblings α) (a : α) (h : (s.first? place a).isSome) :
      (noteRepetition k place owner ownerName s a : Attempt Unit) =
        sure (noteRepetition k place owner ownerName s a) := by
    simp only [noteRepetition, take_eq_sure (namesake_defined h), note_eq_sure, note_eq, sure_bind]
  simp only [loadParts, loadAll_attempt hrule, sure_bind, sure_pure]

end Siblings

namespace Link

lemma loadShapes_attempt : (loadShapes k options name e : Attempt (List Shape)) =
    sure (loadShapes k options name e) := by
  rw [loadShapes, loadShapes, ← Siblings.loadParts_attempt,
    map_eq_sure fun _ => Shape.load_attempt {}]

lemma load_attempt (old : Link) :
    (load options old e : Attempt Link) = sure (load options old e) := by
  rw [load, load, ← loadAs_sure]
  simp only [note_eq_sure, note_eq, Placement.loadPose_attempt, loadShapes_attempt, sure_bind,
    sure_pure]

end Link

/-! ### Joints and frames -/

namespace Joint

lemma loadType_attempt : (loadType name e : Attempt String) = sure (loadType name e) := by
  simp only [loadType, text_eq_sure, note_eq_sure, note_eq, sure_bind, sure_ite, sure_pure]

lemma loadEnd_attempt (side : JointEnd) :
    (loadEnd name e side : Attempt String) = sure (loadEnd name e side) := by
  simp only [loadEnd, text_eq_sure, note_eq_sure, note_eq, sure_bind, sure_ite, sure_pure]

lemma load_attempt (old : Joint) :
    (load options old e : Attempt Joint) = sure (load options old e) := by
  rw [load, load, ← loadAs_sure]
  simp only [note_eq_sure, note_eq, loadType_attempt, loadEnd_attempt, Placement.loadPose_attempt]
  cases e.first? "axis" <;> simp only [sure_bind, sure_pure, sure_map]

end Joint

lemma ExplicitFrame.load_attempt (old : ExplicitFrame) :
    (load options old e : Attempt ExplicitFrame) = sure (load options old e) := by
  rw [load, load, ← loadAs_sure]
  simp only [note_eq_sure, note_eq, Placement.loadPose_attempt, sure_bind, sure_pure]

/-! ### Models and worlds -/

namespace Model

lemma loadWith_attempt (old : Model) (models : List (Journaled Model)) :
    loadWith options old e (models.map sure) = sure (loadWith options old e models) := by
  rw [loadWith, loadWith, ← loadAs_sure, ← closing_sure,
    map_eq_sure fun _ => Link.load_attempt {}, map_eq_sure fun _ => Joint.load_attempt {},
    map_eq_sure fun _ => ExplicitFrame.load_attempt {}]
  simp only [note_eq_sure, note_eq, graph_eq_sure, Placement.loadPose_attempt,
    Siblings.loadMembers_attempt, sure_bind, sure_ite, sure_pure]

lemma loadNested_attempt {es : List Element}
    (h : ∀ c ∈ es, (loadFresh options c : Attempt Model) = sure (loadFresh options c)) :
    loadNested options es = (loadNested options es).map sure := by
  induction es with
  | nil => simp only [loadNested, List.map_nil]
  | cons e es ih =>
    obtain ⟨he, hes⟩ := List.forall_mem_cons.mp h
    rw [loadNested, loadNested, ih hes]
    split
    · rw [he, List.map_cons]
    · rfl

lemma loadFresh_attempt (options : Options) (e : Element) :
    (loadFresh options e : Attempt Model) = sure (loadFresh options e) := by
  induction e using Element.induction with
  | step e ih =>
    obtain ⟨name, attributes, children, value, line⟩ := e
    rw [loadFresh, loadFresh, loadNested_attempt ih, loadWith_attempt]

lemma load_attempt (old : Model) :
    (load options old e : Attempt Model) = sure (load options old e) := by
  rw [load, load, ← loadWith_attempt, map_eq_sure (loadFresh_attempt options)]

end Model

lemma World.load_attempt (old : World) :
    (load options old e : Attempt World) = sure (load options old e) := by
  rw [load, load, ← loadAs_sure, map_eq_sure fun _ => Model.load_attempt {},
    map_eq_sure fun _ => ExplicitFrame.load_attempt {}]
  simp only [note_eq_sure, note_eq, graph_eq_sure, Siblings.loadMembers_attempt, sure_bind,
    sure_pure]

/-! ### Entities and documents -/

/-- The load of an entity as an attempt. -/
def Entity.attempt (options : Options) (x : Entity) (e : Element) : Attempt Entity :=
  x.load options e

lemma Entity.attempt_eq (x : Entity) : x.attempt options e = sure (x.load options e) := by
  cases x with
  | world w => rw [attempt, load, load, World.load_attempt, sure_map]
  | model m => rw [attempt, load, load, Model.load_attempt, sure_map]
  | link l => rw [attempt, load, load, Link.load_attempt, sure_map]
  | joint j => rw [attempt, load, load, Joint.load_attempt, sure_map]
  | frame f => rw [attempt, load, load, ExplicitFrame.load_attempt, sure_map]
  | visual s => rw [attempt, load, load, Shape.load_attempt, sure_map]
  | collision s => rw [attempt, load, load, Shape.load_attempt, sure_map]

namespace Document

lemma loadVersion_attempt : (loadVersion e : Attempt String) = sure (loadVersion e) := by
  simp only [loadVersion, text_eq_sure, note_eq_sure, note_eq, sure_bind, sure_ite, sure_pure]

lemma loadTopLevel_attempt : (loadTopLevel options e : Attempt (List World × List Model)) =
    sure (loadTopLevel options e) := by
  unfold loadTopLevel
  cases e.children.filter isTopLevel with
  | nil => exact (sure_pure _).symm
  | cons first surplus =>
    simp only [World.load_attempt, Model.load_attempt, note_eq_sure, note_eq, sure_ite, sure_bind,
      sure_map, sure_pure]

/-- The load of a document as an attempt. -/
def attemptElement (d : Document) (e : Element) : Attempt Document := d.loadElement e

lemma settle_sure (x : Journaled Document) : settle (sure x) = sure (settle x) := by
  simp only [settle, overhear_sure, sure_bind, sure_pure]

lemma attemptElement_eq (d : Document) : d.attemptElement e = sure (d.loadElement e) := by
  rw [attemptElement, loadElement, loadElement, ← settle_sure]
  simp only [loadVersion_attempt, loadTopLevel_attempt, note_eq_sure, note_eq, sure_ite, sure_bind,
    sure_pure]

end Document

/-- **Loading never fails.** Into whatever entity or document an element is loaded, of whatever
shape, no step is made where it is not defined: the attempt succeeds, with what the load makes
and notes. -/
theorem attempts_succeed (options : Options) (e : Element) :
    (∀ x : Entity, (x.attempt options e).run = Except.ok <$> x.load options e) ∧
      ∀ d : Document, (d.attemptElement e).run = Except.ok <$> d.loadElement e := by
  refine ⟨fun x => ?_, fun d => ?_⟩
  · rw [Entity.attempt_eq, run_sure]
  · rw [Document.attemptElement_eq, run_sure]

end SceneFrames
