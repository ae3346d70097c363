import SceneFrames.Proofs.Scene.Load
import SceneFrames.Scene.Entity

/-!
Elements that are loaded alike.

Of an element a load reads the name, the line, and fields. Of a pose it reads the text and the base,
of a geometry the name of the first shape, and of everything else the children of one name at a
time. So two elements that agree in this, each under options of its own, are loaded alike: both
loads note and log the same, and make the same entity.
-/

namespace SceneFrames

variable {options options' : Options} {e e' : Element} {k : Kind}

namespace Element

/-- Elements that show a load the same, the first under some options and the second under
others. -/
inductive Alike (options options' : Options) : Element → Element → Prop
  | pose {p p' : Element} (name : p.name = "pose") (name' : p'.name = "pose")
      (value : p.value = p'.value)
      (base : Placement.baseOf options p = Placement.baseOf options' p') :
      Alike options options' p p'
  | other {e e' : Element} (name_ne : e.name ≠ "pose") (name : e.name = e'.name)
      (line : e.line = e'.line) (value : e.value = e'.value)
      (attributes : ∀ key, e.attribute? key = e'.attribute? key)
      (shape : e.name = "geometry" →
        e.children.head?.map (·.name) = e'.children.head?.map (·.name))
      (children : ∀ name, List.Forall₂ (Alike options options') (e.named name) (e'.named name)) :
      Alike options options' e e'

lemma first?_eq_head? (e : Element) (name : String) : e.first? name = (e.named name).head? :=
  (List.head?_filter ..).symm

lemma map_first? {α : Type} (e : Element) (name : String) (f : Element → α) :
    (e.first? name).map f = ((e.named name).map f).head? := by
  rw [first?_eq_head?, List.head?_map]

lemma fieldText?_congr {key : String} (hattribute : e.attribute? key = e'.attribute? key)
    (hvalue : (e.named key).map (·.value) = (e'.named key).map (·.value)) :
    e.fieldText? key = e'.fieldText? key := by
  rw [fieldText?, fieldText?, hattribute, map_first?, map_first?, hvalue]

/-- Related lists have the same images under functions that do not tell related entries apart. -/
lemma map_eq_of_forall₂ {α β γ : Type} {R : α → β → Prop} {as : List α} {bs : List β}
    {f : α → γ} {g : β → γ} (h : List.Forall₂ R as bs) (hf : ∀ a ∈ as, ∀ b, R a b → f a = g b) :
    as.map f = bs.map g := by
  rw [← List.forall₂_eq_eq_eq, List.forall₂_map_left_iff, List.forall₂_map_right_iff]
  have hmem : List.Forall₂ (fun a b => a ∈ as ∧ R a b) as bs :=
    (List.forall₂_and_left ..).mpr ⟨fun _ ha => ha, h⟩
  exact hmem.imp fun a b hab => hf a hab.1 b hab.2

namespace Alike

lemma name (h : Alike options options' e e') : e.name = e'.name := by
  cases h with
  | pose name name' => rw [name, name']
  | other _ name => exact name

lemma value (h : Alike options options' e e') : e.value = e'.value := by
  cases h <;> assumption

lemma base (h : Alike options options' e e') (hpose : e.name = "pose") :
    Placement.baseOf options e = Placement.baseOf options' e' := by
  cases h with
  | pose _ _ _ base => exact base
  | other hne => exact absurd hpose hne

lemma shape (h : Alike options options' e e') (hgeometry : e.name = "geometry") :
    e.children.head?.map (·.name) = e'.children.head?.map (·.name) := by
  cases h with
  | pose hpose => exact absurd (hpose.symm.trans hgeometry) (by decide)
  | other _ _ _ _ _ hshape => exact hshape hgeometry

section Fields

variable (h : Alike options options' e e') (hne : e.name ≠ "pose")

include h hne

lemma line : e.line = e'.line := by
  cases h with
  | pose hpose => exact absurd hpose hne
  | other => assumption

lemma named (name : String) :
    List.Forall₂ (Alike options options') (e.named name) (e'.named name) := by
  cases h with
  | pose hpose => exact absurd hpose hne
  | other _ _ _ _ _ _ hchildren => exact hchildren name

lemma attribute? (key : String) : e.attribute? key = e'.attribute? key := by
  cases h with
  | pose hpose => exact absurd hpose hne
  | other _ _ _ _ hattributes => exact hattributes key

lemma map_named {α : Type} (name : String) {f g : Element → α}
    (hf : ∀ c ∈ e.named name, ∀ c', Alike options options' c c' → f c = g c') :
    (e.named name).map f = (e'.named name).map g :=
  map_eq_of_forall₂ (h.named hne name) hf

lemma map_first?_eq {α : Type} (name : String) {f g : Element → α}
    (hf : ∀ c c', c.name = name → Alike options options' c c' → f c = g c') :
    (e.first? name).map f = (e'.first? name).map g := by
  rw [map_first?, map_first?, h.map_named hne name fun c hc c' => hf c c' (name_of_mem_named hc)]

lemma fieldText? (key : String) : e.fieldText? key = e'.fieldText? key :=
  fieldText?_congr (h.attribute? hne key) (h.map_named hne key fun _ _ _ hc => hc.value)

lemma word (key : String) : e.word key = e'.word key := by
  rw [Element.word, Element.word, word?, word?, h.fieldText? hne]

lemma getWith {α : Type} (f : FieldKind) (key : String) (default : α) (use : f.Value → α) :
    e.getWith f key default use = e'.getWith f key default use := by
  unfold Element.getWith read?
  rw [h.fieldText? hne, h.name, h.line hne]

lemma get (f : FieldKind) (key : String) (default : f.Value) :
    e.get f key default = e'.get f key default :=
  h.getWith hne f key default id

end Fields

end Alike

end Element

open Element (Alike)

/-! ### Placements -/

lemma Kind.tag_ne_pose (k : Kind) : k.tag ≠ "pose" := by
  cases k <;> decide

lemma loadAs_congr {α : Type} {old : α} {x x' : Journaled α} (hname : e.name = e'.name)
    (hload : e.name = k.tag → x = x') : loadAs k old e x = loadAs k old e' x' := by
  unfold loadAs
  rw [← hname]
  split
  · rename_i htag
    exact hload htag
  · rfl

namespace Placement

variable (h : Alike options options' e e') (hne : e.name ≠ "pose")

include h hne

lemma loadName_alike (p : Placement) : p.loadName k e = p.loadName k e' := by
  rw [loadName, loadName, h.word hne, h.line hne]

lemma loadPose_alike (p : Placement) : p.loadPose options e = p.loadPose options' e' := by
  have hgives : e.givesPose = e'.givesPose := by
    have hvalues := h.map_first?_eq hne "pose" fun _ _ _ hc => hc.value
    have hany := congrArg (·.any (· != "")) hvalues
    rwa [Option.any_map, Option.any_map] at hany
  have hbase : e.baseOver options p.base = e'.baseOver options' p.base :=
    congrArg (·.getD p.base) (h.map_first?_eq hne "pose" fun c c' hname hc => hc.base hname)
  rw [loadPose_eq, loadPose_eq, hbase]
  simp only [Element.poseOver, Element.poseProblems, hgives, h.get hne]

end Placement

/-! ### Kinds of entities -/

section Parts

variable (h : Alike options options' e e') (hne : e.name ≠ "pose")

include h hne

lemma Shape.loadGeometry_alike (name old : String) :
    loadGeometry k name e old = loadGeometry k name e' old := by
  have hshapes := h.map_first?_eq hne "geometry" fun _ _ hname hc => hc.shape hname
  unfold loadGeometry
  cases hg : e.first? "geometry" with
  | none =>
    have hg' : e'.first? "geometry" = none := by simpa [hg] using hshapes.symm
    rw [hg']
  | some g =>
    rw [hg, Option.map_some] at hshapes
    obtain ⟨g', hg', hfirst⟩ := Option.map_eq_some_iff.mp hshapes.symm
    rw [hg']
    cases hs : g.children <;> cases hs' : g'.children <;> simp_all

lemma Joint.loadType_alike (name : String) : loadType name e = loadType name e' := by
  rw [loadType_eq, loadType_eq, typeProblems, typeProblems, h.word hne]

lemma Joint.loadEnd_alike (name : String) (side : JointEnd) :
    loadEnd name e side = loadEnd name e' side := by
  rw [loadEnd_eq, loadEnd_eq, endProblems, endProblems, h.word hne]

lemma Joint.loadAxis_alike : loadAxis e = loadAxis e' := by
  rw [loadAxis, loadAxis, h.getWith hne]

end Parts

section Kinds

variable (h : Alike options options' e e')

include h

lemma Shape.load_alike (k : Kind) (old : Shape) :
    load k options old e = load k options' old e' := by
  refine loadAs_congr h.name fun htag => ?_
  have hne : e.name ≠ "pose" := htag ▸ k.tag_ne_pose
  simp only [Placement.loadName_alike h hne, Placement.loadPose_alike h hne,
    loadGeometry_alike h hne]

lemma Link.load_alike (old : Link) : load options old e = load options' old e' := by
  refine loadAs_congr h.name fun htag => ?_
  have hne : e.name ≠ "pose" := htag ▸ Kind.link.tag_ne_pose
  have hshapes (k : Kind) (name : String) :
      loadShapes k options name e = loadShapes k options' name e' := by
    rw [loadShapes, loadShapes, h.map_named hne k.tag fun c _ c' hc => Shape.load_alike hc k {}]
  simp only [Placement.loadName_alike h hne, Placement.loadPose_alike h hne, hshapes]

lemma Joint.load_alike (old : Joint) : load options old e = load options' old e' := by
  refine loadAs_congr h.name fun htag => ?_
  have hne : e.name ≠ "pose" := htag ▸ Kind.joint.tag_ne_pose
  have haxis : (e.first? "axis").map loadAxis = (e'.first? "axis").map loadAxis :=
    h.map_first?_eq hne "axis" fun c c' hname hc => loadAxis_alike hc (hname ▸ by decide)
  simp only [Placement.loadName_alike h hne, Placement.loadPose_alike h hne,
    loadType_alike h hne, loadEnd_alike h hne]
  cases ha : e.first? "axis" with
  | none =>
    have ha' : e'.first? "axis" = none := by simpa [ha] using haxis.symm
    rw [ha']
  | some axis =>
    rw [ha, Option.map_some] at haxis
    obtain ⟨axis', ha', hsame⟩ := Option.map_eq_some_iff.mp haxis.symm
    simp only [ha', hsame]

lemma ExplicitFrame.load_alike (old : ExplicitFrame) :
    load options old e = load options' old e' := by
  refine loadAs_congr h.name fun htag => ?_
  have hne : e.name ≠ "pose" := htag ▸ Kind.frame.tag_ne_pose
  simp only [Placement.loadName_alike h hne, Placement.loadPose_alike h hne, h.word hne]

end Kinds

/-- Models that are alike are loaded alike, by induction on what is inside them. -/
lemma Model.load_alike (h : Alike options options' e e') (old : Model) :
    load options old e = load options' old e' := by
  induction e using Element.induction generalizing e' old with
  | step e ih =>
    refine loadAs_congr h.name fun htag => ?_
    have hne : e.name ≠ "pose" := htag ▸ Kind.model.tag_ne_pose
    have hlinks := h.map_named hne Kind.link.tag fun c _ c' hc => Link.load_alike hc {}
    have hjoints := h.map_named hne Kind.joint.tag fun c _ c' hc => Joint.load_alike hc {}
    have hframes := h.map_named hne Kind.frame.tag fun c _ c' hc =>
      ExplicitFrame.load_alike hc {}
    have hmodels : (e.named Kind.model.tag).map (loadFresh options) =
        (e'.named Kind.model.tag).map (loadFresh options') :=
      h.map_named hne Kind.model.tag fun c hc c' hcc' => by
        rw [loadFresh_eq_load, loadFresh_eq_load]
        exact ih c (Element.mem_named.mp hc).1 hcc' {}
    simp only [Placement.loadName_alike h hne, Placement.loadPose_alike h hne, h.get hne, hlinks,
      hjoints, hframes, hmodels]

lemma World.load_alike (h : Alike options options' e e') (old : World) :
    load options old e = load options' old e' := by
  refine loadAs_congr h.name fun htag => ?_
  have hne : e.name ≠ "pose" := htag ▸ Kind.world.tag_ne_pose
  have hmodels := h.map_named hne Kind.model.tag fun c _ c' hc => Model.load_alike hc {}
  have hframes := h.map_named hne Kind.frame.tag fun c _ c' hc =>
    ExplicitFrame.load_alike hc {}
  simp only [Placement.loadName_alike h hne, h.get hne, hmodels, hframes]

namespace Entity

/-- **Elements that are alike are loaded alike.** -/
theorem load_alike (h : Alike options options' e e') (x : Entity) :
    x.load options e = x.load options' e' := by
  cases x with
  | world w => rw [load, load, World.load_alike h]
  | model m => rw [load, load, Model.load_alike h]
  | link l => rw [load, load, Link.load_alike h]
  | joint j => rw [load, load, Joint.load_alike h]
  | frame f => rw [load, load, ExplicitFrame.load_alike h]
  | visual s => rw [load, load, Shape.load_alike h]
  | collision s => rw [load, load, Shape.load_alike h]

end Entity

end SceneFrames
