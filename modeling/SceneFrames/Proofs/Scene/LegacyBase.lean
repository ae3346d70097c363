import SceneFrames.Proofs.Scene.Alike
import SceneFrames.Proofs.Scene.History
import Mathlib.Data.List.Find

/-!
The old name of a base.

Where options allow it, a pose may name its base in a field `frame` and not `relative_to`. A pose
that has no field of the new name is brought up to date by giving that name to the fields of the
old one. An element in which every pose is up to date shows a load without the old name what the
element has shown to a load that allows it; so the old name is a way of writing and nothing more.
-/

namespace SceneFrames

variable {options : Options} {e : Element}

namespace Options

/-- The options that allow the old name of a base. -/
def legacy (options : Options) : Options := { options with allowsLegacyBase := true }

/-- The options that do not. -/
def modern (options : Options) : Options := { options with allowsLegacyBase := false }

end Options

namespace Element

/-- The element with a new name for its fields of an old name. -/
def renameField (old new : String) (e : Element) : Element :=
  { e with
    attributes := e.attributes.map fun p => if p.1 == old then (new, p.2) else p
    children := e.children.map fun c => if c.name == old then { c with name := new } else c }

/-- The element, brought up to date if it is a pose. -/
def updatePose (e : Element) : Element :=
  if e.name == "pose" && !e.hasAttribute "relative_to" && !e.hasElement "relative_to" then
    e.renameField "frame" "relative_to"
  else e

mutual

/-- The element with every pose in it brought up to date, at any depth. -/
def updated : Element → Element
  | ⟨name, attributes, children, value, line⟩ =>
    updatePose ⟨name, attributes, updatedAll children, value, line⟩

def updatedAll : List Element → List Element
  | [] => []
  | e :: es => updated e :: updatedAll es

end

/-- The element with its children brought up to date. -/
def updatedInside (e : Element) : Element := { e with children := e.children.map updated }

lemma updatedAll_eq (es : List Element) : updatedAll es = es.map updated := by
  induction es with
  | nil => rw [updatedAll, List.map_nil]
  | cons e es ih => rw [updatedAll, List.map_cons, ih]

lemma updated_eq (e : Element) : e.updated = e.updatedInside.updatePose := by
  cases e
  rw [updated, updatedAll_eq, updatedInside]

/-! ### Fields under a new name -/

lemma find?_map_of_iff {α : Type} {l : List α} {f : α → α} {p q : α → Bool}
    (h : ∀ a ∈ l, q (f a) = p a) : (l.map f).find? q = (l.find? p).map f := by
  rw [List.find?_map]
  exact congrArg (Option.map f) (List.find?_congr h)

lemma attribute?_renameField {old new : String} (h : e.hasAttribute new = false) :
    (e.renameField old new).attribute? new = e.attribute? old := by
  have hkey : ∀ p ∈ e.attributes, p.1 ≠ new := by simpa [hasAttribute] using h
  have hfind := find?_map_of_iff (l := e.attributes) (p := (·.1 == old)) (q := (·.1 == new))
    (f := fun p => if p.1 == old then (new, p.2) else p) fun p hp => by
      by_cases hold : p.1 = old <;> simp [hold, hkey p hp]
  rw [attribute?, attribute?, renameField, hfind, Option.map_map]
  congr 1
  funext p
  by_cases hold : p.1 = old <;> simp [hold]

lemma value_first?_renameField {old new : String} (h : e.hasElement new = false) :
    ((e.renameField old new).first? new).map (·.value) = (e.first? old).map (·.value) := by
  have hname : ∀ c ∈ e.children, c.name ≠ new := by simpa [hasElement, first?] using h
  have hfind := find?_map_of_iff (l := e.children) (p := (·.name == old)) (q := (·.name == new))
    (f := fun c => if c.name == old then { c with name := new } else c) fun c hc => by
      by_cases hold : c.name = old
      · simp [hold]
      · simpa [hold] using hname c hc
  rw [first?, first?, renameField, hfind, Option.map_map]
  congr 1
  funext c
  by_cases hold : c.name = old <;> simp [hold]

/-- A field has the text under its new name that it has had under the old one. -/
lemma fieldText?_renameField {old new : String} (hattribute : e.hasAttribute new = false)
    (helement : e.hasElement new = false) :
    (e.renameField old new).fieldText? new = e.fieldText? old := by
  rw [fieldText?, fieldText?, attribute?_renameField hattribute,
    value_first?_renameField helement]

lemma isSome_word? (e : Element) (key : String) :
    (e.word? key).isSome = (e.hasAttribute key || e.hasElement key) := by
  have hattribute : (e.attribute? key).isSome = e.hasAttribute key := by
    rw [attribute?, Option.isSome_map, List.isSome_find?, hasAttribute]
  rw [word?, Option.isSome_map, fieldText?, ← hattribute]
  cases e.attribute? key with
  | some v => rfl
  | none => exact Option.isSome_map ..

@[simp] lemma name_updatePose (e : Element) : e.updatePose.name = e.name := by
  unfold updatePose
  split <;> rfl

@[simp] lemma value_updatePose (e : Element) : e.updatePose.value = e.value := by
  unfold updatePose
  split <;> rfl

lemma updatePose_of_ne (h : e.name ≠ "pose") : e.updatePose = e := by
  simp [updatePose, h]

@[simp] lemma name_updated (e : Element) : e.updated.name = e.name := by
  rw [updated_eq, name_updatePose]
  rfl

@[simp] lemma value_updated (e : Element) : e.updated.value = e.value := by
  rw [updated_eq, value_updatePose]
  rfl

lemma filter_map_updated (es : List Element) {keep : Element → Bool}
    (hkeep : ∀ c, keep c.updated = keep c) :
    (es.map updated).filter keep = (es.filter keep).map updated := by
  rw [List.filter_map]
  congr 2
  exact funext hkeep

lemma named_updatedInside (e : Element) (name : String) :
    e.updatedInside.named name = (e.named name).map updated :=
  filter_map_updated e.children fun c => by rw [name_updated]

lemma fieldText?_updatedInside (e : Element) (key : String) :
    e.updatedInside.fieldText? key = e.fieldText? key := by
  refine fieldText?_congr rfl ?_
  rw [named_updatedInside, List.map_map]
  exact List.map_congr_left fun c _ => value_updated c

/-! ### Poses that are up to date -/

lemma baseOf_modern (p : Element) :
    Placement.baseOf options.modern p = p.word "relative_to" := by
  unfold Placement.baseOf word
  cases p.word? "relative_to" <;> rfl

/-- A pose has the base under the new name that it has had under either. -/
lemma baseOf_updatePose {p : Element} (hp : p.name = "pose") :
    Placement.baseOf options.modern p.updatePose = Placement.baseOf options.legacy p := by
  have hhas := p.isSome_word? "relative_to"
  rw [baseOf_modern, Placement.baseOf]
  cases hword : p.word? "relative_to" with
  | none =>
    -- no base under the new name: the load that allows the old one looks for that
    rw [hword, Option.isSome_none, eq_comm, Bool.or_eq_false_iff] at hhas
    have hupdate : p.updatePose = p.renameField "frame" "relative_to" := by
      simp [updatePose, hp, hhas]
    rw [hupdate, word, word?, fieldText?_renameField hhas.1 hhas.2]
    rfl
  | some base =>
    have hkeep : p.updatePose = p := by
      rw [hword, Option.isSome_some] at hhas
      refine if_neg ?_
      rw [hp, beq_self_eq_true, Bool.true_and, ← Bool.not_or, ← hhas]
      decide
    rw [hkeep, word, hword]
    rfl

/-- **What is up to date reads as before.** -/
theorem alike_updated (options : Options) (e : Element) :
    Alike options.legacy options.modern e e.updated := by
  induction e using Element.induction with
  | step e ih =>
    by_cases hpose : e.name = "pose"
    · refine .pose hpose ((name_updated e).trans hpose) (value_updated e).symm ?_
      have hinside : Placement.baseOf options.legacy e.updatedInside =
          Placement.baseOf options.legacy e := by
        unfold Placement.baseOf word word?
        rw [fieldText?_updatedInside, fieldText?_updatedInside]
      rw [updated_eq, baseOf_updatePose (p := e.updatedInside) hpose, hinside]
    · rw [updated_eq, updatePose_of_ne (e := e.updatedInside) hpose]
      refine .other hpose rfl rfl rfl (fun _ => rfl) (fun _ => ?_) fun name => ?_
      · rw [updatedInside, List.head?_map, Option.map_map]
        congr 1
        funext c
        simp
      · rw [named_updatedInside, List.forall₂_map_right_iff, List.forall₂_same]
        exact fun c hc => ih c (mem_named.mp hc).1

end Element

/-! ### Documents -/

namespace Document

variable {options' : Options} {top top' : Element}

lemma loadTopLevel_alike
    (h : List.Forall₂ (Element.Alike options options') (top.children.filter isTopLevel)
      (top'.children.filter isTopLevel)) :
    loadTopLevel options top = loadTopLevel options' top' := by
  have htop : ∀ c ∈ top.children.filter isTopLevel, c.name ≠ "pose" := by
    intro c hc
    obtain ⟨-, hkind⟩ := List.mem_filter.mp hc
    rintro hpose
    simp [isTopLevel, hpose, Kind.tag] at hkind
  unfold loadTopLevel
  generalize top.children.filter isTopLevel = cs at h htop
  generalize top'.children.filter isTopLevel = cs' at h
  cases h with
  | nil => rfl
  | cons hfirst hsurplus =>
    have hreports := Element.map_eq_of_forall₂ hsurplus
      (f := fun c => Problem.surplusEntity c.name ((c.attribute? "name").getD ""))
      (g := fun c => Problem.surplusEntity c.name ((c.attribute? "name").getD ""))
      fun c hc c' hcc' => by
        rw [hcc'.name, hcc'.attribute? (htop c (List.mem_cons_of_mem _ hc))]
    simp only [hfirst.name, World.load_alike hfirst, Model.load_alike hfirst, hreports]

/-- **The old name of a base is only another name.** A document that is loaded under options that
allow it is, but for these options, the document that is loaded under options that do not from
the element with every pose brought up to date; the same is noted and logged. -/
theorem loadElement_updated (options : Options) (top : Element) :
    let old := (new options.legacy).loadElement top
    let updated := (new options.modern).loadElement top.updated
    updated.problems = old.problems ∧ updated.events = old.events ∧
      updated.value.version = old.value.version ∧ updated.value.worlds = old.value.worlds ∧
      updated.value.models = old.value.models ∧ updated.value.problems = old.value.problems := by
  intro old updated
  by_cases htag : top.name = tag
  · have hne : top.name ≠ "pose" := by
      rw [htag]
      decide
    have hchildren : top.updated.children = top.children.map Element.updated := by
      rw [Element.updated_eq, Element.updatePose_of_ne (e := top.updatedInside) hne]
      rfl
    have hversion : loadVersion top.updated = loadVersion top := by
      rw [loadVersion_eq, loadVersion_eq, versionProblems, versionProblems,
        (Element.alike_updated options top).word hne]
    have hcontents : loadTopLevel options.modern top.updated = loadTopLevel options.legacy top := by
      refine (loadTopLevel_alike ?_).symm
      rw [hchildren, Element.filter_map_updated _ fun c => by rw [isTopLevel, isTopLevel,
        Element.name_updated], List.forall₂_map_right_iff, List.forall₂_same]
      exact fun c _ => Element.alike_updated options c
    simp [old, updated, loadElement, settle_eq, new, htag, hversion, hcontents]
  · simp [old, updated, loadElement, settle_eq, new, htag]

end Document

end SceneFrames
