import SceneFrames.Proofs.Scene.Alike

/-!
Siblings of different names.

A load asks an element for its children of one name at a time, so it is of no account how the
children of different names are interleaved. The one place where it is, is inside a geometry, whose
shape is its first child whatever the name. Elements that are otherwise the same up to interleaving,
at any depth, are loaded alike.
-/

namespace SceneFrames

variable {options : Options} {e e' c d : Element}

namespace Element

/-- Elements that differ only in how children of different names are interleaved. In a geometry
the children keep their order. -/
inductive Interleaved : Element → Element → Prop
  | intro {e e' : Element} (name : e.name = e'.name)
      (attributes : ∀ key, e.attribute? key = e'.attribute? key) (value : e.value = e'.value)
      (line : e.line = e'.line)
      (children : ∀ name, List.Forall₂ Interleaved (e.named name) (e'.named name))
      (geometry : e.name = "geometry" → List.Forall₂ Interleaved e.children e'.children) :
      Interleaved e e'

namespace Interleaved

lemma name (h : Interleaved e e') : e.name = e'.name := by
  cases h
  assumption

lemma value (h : Interleaved e e') : e.value = e'.value := by
  cases h
  assumption

protected lemma refl (e : Element) : Interleaved e e := by
  induction e using Element.induction with
  | step e ih =>
    refine ⟨rfl, fun _ => rfl, rfl, rfl, fun name => ?_, fun _ => ?_⟩
    · exact List.forall₂_same.mpr fun c hc => ih c (mem_named.mp hc).1
    · exact List.forall₂_same.mpr ih

/-- Neighbours of different names may change places. -/
lemma swap (he : e.name ≠ "geometry") (hne : c.name ≠ d.name) (before after : List Element) :
    Interleaved { e with children := before ++ c :: d :: after }
      { e with children := before ++ d :: c :: after } := by
  refine ⟨rfl, fun _ => rfl, rfl, rfl, fun name => ?_, fun h => absurd h he⟩
  have hsame : (c :: d :: after).filter (·.name == name) =
      (d :: c :: after).filter (·.name == name) := by
    by_cases hc : c.name = name
    · have hd : d.name ≠ name := fun hd => hne (hc.trans hd.symm)
      simp [hc, hd]
    · simp [List.filter_cons, hc]
  rw [named, named, List.filter_append, List.filter_append, hsame]
  exact List.forall₂_same.mpr fun c _ => .refl c

/-- By induction on the elements: what a load reads of each is the same. -/
lemma alike (h : Interleaved e e') (options : Options) : Alike options options e e' := by
  induction e using Element.induction generalizing e' with
  | step e ih =>
    obtain ⟨hname, hattributes, hvalue, hline, hchildren, hgeometry⟩ := h
    by_cases hpose : e.name = "pose"
    · refine .pose hpose (hname.symm.trans hpose) hvalue ?_
      have hfield (key : String) : e.fieldText? key = e'.fieldText? key :=
        fieldText?_congr (hattributes key)
          (map_eq_of_forall₂ (hchildren key) fun _ _ _ hc => hc.value)
      unfold Placement.baseOf word word?
      rw [hfield, hfield]
    · refine .other hpose hname hline hvalue hattributes (fun hg => ?_) fun name => ?_
      · rw [← List.head?_map, ← List.head?_map,
          map_eq_of_forall₂ (hgeometry hg) fun _ _ _ hc => hc.name]
      · have hmem : List.Forall₂ (fun c c' => c ∈ e.named name ∧ Interleaved c c')
            (e.named name) (e'.named name) :=
          (List.forall₂_and_left ..).mpr ⟨fun _ hc => hc, hchildren name⟩
        exact hmem.imp fun c c' ⟨hc, hcc'⟩ => ih c (mem_named.mp hc).1 hcc'

end Interleaved

end Element

namespace Entity

/-- **Interleaving is irrelevant.** Elements that differ in how children of different names are
interleaved, at any depth, are loaded alike into any entity, and so into a new one of any kind:
the same is noted and logged, and the same entity is made, with its members and graphs, which
give the same answers. -/
theorem load_interleaved (options : Options) (x : Entity) (e e' : Element)
    (h : e.Interleaved e') : x.load options e = x.load options e' :=
  load_alike (h.alike options) x

/-- A model with two links and then a joint between them. -/
def linksFirst : Element :=
  { name := "model"
    attributes := [("name", "m")]
    children := [
      { name := "link", attributes := [("name", "a")] },
      { name := "link", attributes := [("name", "b")] },
      { name := "joint"
        attributes := [("name", "j"), ("type", "fixed"), ("parent", "a"), ("child", "b")] }] }

/-- The same model with the joint between the links. -/
def jointBetween : Element :=
  { name := "model"
    attributes := [("name", "m")]
    children := [
      { name := "link", attributes := [("name", "a")] },
      { name := "joint"
        attributes := [("name", "j"), ("type", "fixed"), ("parent", "a"), ("child", "b")] },
      { name := "link", attributes := [("name", "b")] }] }

theorem load_jointBetween : linksFirst.Interleaved jointBetween ∧
    linksFirst.children.map (·.name) ≠ jointBetween.children.map (·.name) ∧
    (fresh .model).load {} linksFirst = (fresh .model).load {} jointBetween := by
  have hswap : linksFirst.Interleaved jointBetween :=
    Element.Interleaved.swap (e := linksFirst)
      (c := { name := "link", attributes := [("name", "b")] }) (by decide) (by decide)
      [{ name := "link", attributes := [("name", "a")] }] []
  exact ⟨hswap, by decide, load_interleaved {} (fresh .model) linksFirst jointBetween hswap⟩

/-- The shapes of a geometry may not change places. -/
example :
    let visual (shapes : List String) : Element :=
      { name := "visual"
        attributes := [("name", "v")]
        children := [{ name := "geometry", children := shapes.map fun s => { name := s } }] }
    ((fresh .visual).load {} (visual ["box", "teapot"])).problems = [] ∧
      ((fresh .visual).load {} (visual ["teapot", "box"])).problems =
        [.geometryUnknown "visual" "v" "teapot"] := by
  decide

end Entity

end SceneFrames
