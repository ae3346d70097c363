import SceneFrames.Proofs.Scene.Members

/-!
Documents are accepted exactly when they are well formed.

Kind by kind, a load is without problems exactly when the element is well formed. For shapes,
links, joints and frames this compares each problem with the condition that it belongs to. For
models it is an induction on the element: once the members are known to be well formed they all
have names, so the graph of the scope has no problems exactly when the declarations form a scope;
then no name is repeated, all members are kept, and the ends of joints can be looked up among the
elements.
-/

namespace SceneFrames

open Element (name_of_mem_named)

variable {options : Options} {e : Element} {k : Kind}

/-! ### Placements -/

namespace Element

@[simp] lemma nameProblems_eq_nil_iff : e.nameProblems k = [] ↔ e.HasName := by
  simp [nameProblems, HasName]

@[simp] lemma poseProblems_eq_nil_iff : e.poseProblems = [] ↔ e.PoseReadable := by
  unfold poseProblems givesPose PoseReadable
  cases hpose : e.first? "pose" with
  | none => simp
  | some pose =>
    have hread : (e.get .pose "pose" Pose.identity).problems = [] ↔
        ∀ text, e.fieldText? "pose" = some text →
          ∃ bs, ListsNumbers text bs ∧ bs.length = 6 := by
      rw [problems_get_eq_nil_iff]
      exact forall₂_congr fun text _ => exists_readPose_iff
    obtain ⟨text, htext⟩ : ∃ text, e.fieldText? "pose" = some text := by
      unfold fieldText?
      cases e.attribute? "pose" with
      | none => exact ⟨pose.value, by simp [hpose]⟩
      | some v => exact ⟨v, rfl⟩
    by_cases hvalue : pose.value = "" <;> simp [hvalue, hread, htext]

end Element

/-! ### Shapes and links -/

namespace Shape

@[simp] lemma geometryProblems_eq_nil_iff {name : String} : geometryProblems k name e = [] ↔
    ∃ g, e.first? "geometry" = some g ∧
      ∀ shape, g.children.head? = some shape → shape.name ∈ geometryTypes := by
  unfold geometryProblems
  cases e.first? "geometry" with
  | none => simp
  | some g =>
    cases hg : g.children with
    | nil => simp [hg]
    | cons shape more => simp [hg]

theorem problems_load_eq_nil_iff (options : Options) (old : Shape) (h : e.name = k.tag) :
    (load k options old e).problems = [] ↔ WellFormed e := by
  simp only [load_eq h, List.append_eq_nil_iff, Element.nameProblems_eq_nil_iff,
    Element.poseProblems_eq_nil_iff, geometryProblems_eq_nil_iff]
  exact ⟨fun ⟨⟨hn, hp⟩, hg⟩ => ⟨hn, hp, hg⟩, fun ⟨hn, hp, hg⟩ => ⟨⟨hn, hp⟩, hg⟩⟩

end Shape

namespace Link

/-- The shapes of one kind are loaded without a problem when they are well formed and have
distinct names. -/
lemma problems_loadShapes_eq_nil_iff {name : String} :
    (loadShapes k options name e).problems = [] ↔
      (∀ s ∈ e.named k.tag, Shape.WellFormed s) ∧ (e.namesOf k).Nodup := by
  have htag : ∀ s ∈ e.named k.tag, s.name = k.tag := fun s hs => (Element.mem_named.mp hs).2
  rw [loadShapes, Siblings.problems_loadParts_eq_nil_iff, List.forall_mem_map, List.map_map]
  simp only [Function.comp_def]
  rw [givenNames_map (by intro s hs; rw [Shape.load_eq (htag s hs)]; rfl),
    forall₂_congr fun s hs => Shape.problems_load_eq_nil_iff options {} (htag s hs)]
  refine and_congr_right fun hshapes => ?_
  rw [filter_words fun s hs => (hshapes s hs).named, Element.namesOf]

theorem problems_load_eq_nil_iff (options : Options) (old : Link) (h : e.name = Kind.link.tag) :
    (load options old e).problems = [] ↔ WellFormed e := by
  simp only [load_eq h, List.append_eq_nil_iff, Element.nameProblems_eq_nil_iff,
    Element.poseProblems_eq_nil_iff, problems_loadShapes_eq_nil_iff]
  constructor
  · rintro ⟨⟨⟨hn, hp⟩, hvisuals, hvisualNames⟩, hcollisions, hcollisionNames⟩
    exact ⟨hn, hp, hvisuals, hcollisions, hvisualNames, hcollisionNames⟩
  · rintro ⟨hn, hp, hvisuals, hcollisions, hvisualNames, hcollisionNames⟩
    exact ⟨⟨⟨hn, hp⟩, hvisuals, hvisualNames⟩, hcollisions, hcollisionNames⟩

end Link

/-! ### Joints and frames -/

namespace Joint

@[simp] lemma typeProblems_eq_nil_iff {name : String} :
    typeProblems name e = [] ↔ e.word "type" ∈ jointTypes := by
  unfold typeProblems
  by_cases hempty : e.word "type" = ""
  · simp [hempty, jointTypes]
  · simp [hempty]

@[simp] lemma endProblems_eq_nil_iff {name : String} {side : JointEnd} :
    endProblems name e side = [] ↔ e.word side.key ≠ "" := by
  simp [endProblems]

lemma direction?_ne_none_iff {v : Vec3 Float} :
    direction? v ≠ none ↔ HasLength v.x v.y v.z := by
  have hlength : HasLength v.x v.y v.z ↔ (v.norm == 0) = false := Iff.rfl
  rw [hlength, direction?]
  cases v.norm == 0 <;> simp

/-- An axis is loaded without a problem when it is one, if it is given. -/
lemma problems_loadAxis_eq_nil_iff : (loadAxis e).problems = [] ↔
    ∀ text, e.fieldText? "xyz" = some text → ∃ x y z, ListsNumbers text [x, y, z] ∧
      HasLength x.toFloat y.toFloat z.toFloat := by
  have hread (text : String) : (∃ v, readTriple text = .ok v ∧ direction? v ≠ none) ↔
      ∃ x y z, ListsNumbers text [x, y, z] ∧ HasLength x.toFloat y.toFloat z.toFloat := by
    simp only [readTriple_eq_ok_iff, direction?_ne_none_iff]
    constructor
    · rintro ⟨_, ⟨x, y, z, hlist, rfl⟩, hnorm⟩
      exact ⟨x, y, z, hlist, hnorm⟩
    · rintro ⟨x, y, z, hlist, hnorm⟩
      exact ⟨_, ⟨x, y, z, hlist, rfl⟩, hnorm⟩
  simp only [← hread, loadAxis, Element.getWith, Element.read?]
  cases e.fieldText? "xyz" with
  | none => simp
  | some text =>
    cases hv : readTriple text with
    | error fault => simp [FieldKind.read, hv]
    | ok v => cases hd : direction? v <;> simp [FieldKind.read, hv, hd]

@[simp] lemma axisProblems_eq_nil_iff : axisProblems e = [] ↔
    ∀ axis, e.first? "axis" = some axis → ∀ text, axis.fieldText? "xyz" = some text →
      ∃ x y z, ListsNumbers text [x, y, z] ∧ HasLength x.toFloat y.toFloat z.toFloat := by
  unfold axisProblems
  cases e.first? "axis" with
  | none => simp
  | some axis => simp [problems_loadAxis_eq_nil_iff]

theorem problems_load_eq_nil_iff (options : Options) (old : Joint) (h : e.name = Kind.joint.tag) :
    (load options old e).problems = [] ↔ WellFormed e := by
  simp only [load_eq h, List.append_eq_nil_iff, Element.nameProblems_eq_nil_iff,
    Element.poseProblems_eq_nil_iff, typeProblems_eq_nil_iff, endProblems_eq_nil_iff,
    axisProblems_eq_nil_iff]
  constructor
  · rintro ⟨⟨⟨⟨⟨hn, ht⟩, hparent⟩, hchild⟩, haxis⟩, hp⟩
    exact ⟨hn, hp, ht, hparent, hchild, haxis⟩
  · rintro ⟨hn, hp, ht, hparent, hchild, haxis⟩
    exact ⟨⟨⟨⟨⟨hn, ht⟩, hparent⟩, hchild⟩, haxis⟩, hp⟩

end Joint

theorem ExplicitFrame.problems_load_eq_nil_iff (options : Options) (old : ExplicitFrame)
    (h : e.name = Kind.frame.tag) :
    (ExplicitFrame.load options old e).problems = [] ↔ ExplicitFrame.WellFormed e := by
  simp only [ExplicitFrame.load_eq h, List.append_eq_nil_iff, Element.nameProblems_eq_nil_iff,
    Element.poseProblems_eq_nil_iff]
  exact ⟨fun ⟨hn, hp⟩ => ⟨hn, hp⟩, fun ⟨hn, hp⟩ => ⟨hn, hp⟩⟩

/-! ### Models -/

/-- A joint with two ends fits its model when the ends are links of it, or the world. -/
lemma Members.jointProblems_eq_nil_iff {m : Members} {model : String} {j : Joint}
    (hparent : j.parent ≠ "") (hchild : j.child ≠ "") : m.jointProblems model j = [] ↔
      m.hasLink j.child = true ∧ (j.parent = worldFrame ∨ m.hasLink j.parent = true) ∧
        j.parent ≠ j.child := by
  simp [jointProblems, hparent, hchild]
  tauto

namespace Model

variable {old : Model}

/-- In a scope, the links of a model are found among the children of its element. -/
lemma hasLink_iff (h : FormsScope (e.declarations options memberKinds)) {name : String} :
    (members options e).hasLink name = true ↔ name ∈ e.namesOf .link := by
  simp only [Members.hasLink, members_of_scope h, List.any_map, List.any_eq_true,
    Function.comp_apply, beq_iff_eq, Element.namesOf, List.mem_map]
  refine exists_congr fun c => and_congr_right fun hc => ?_
  rw [Link.placement_load options {} (name_of_mem_named hc)]
  rfl

lemma jointProblems_eq_nil_iff (h : FormsScope (e.declarations options memberKinds))
    (hjoints : ∀ j ∈ e.named Kind.joint.tag, Joint.WellFormed j) :
    jointProblems options e = [] ↔ ∀ j ∈ e.named Kind.joint.tag, Joint.FitsInto e j := by
  have hkept : (members options e).joints.kept =
      (e.named Kind.joint.tag).map fun c => (Joint.load options {} c).value := by
    rw [members_of_scope h]
  rw [jointProblems, hkept, List.flatMap_eq_nil_iff, List.forall_mem_map]
  refine forall₂_congr fun j hj => ?_
  have hwell := hjoints j hj
  rw [Joint.load_eq (name_of_mem_named hj),
    Members.jointProblems_eq_nil_iff hwell.parent hwell.child, hasLink_iff h, hasLink_iff h]
  constructor
  · rintro ⟨hchild, hparent, hdiffer⟩
    exact ⟨hchild, hparent, hdiffer⟩
  · rintro ⟨hchild, hparent, hdiffer⟩
    exact ⟨hchild, hparent, hdiffer⟩

lemma emptyProblems_eq_nil_iff (h : FormsScope (e.declarations options memberKinds)) :
    emptyProblems options e = [] ↔
      e.named Kind.link.tag ≠ [] ∨ e.named Kind.model.tag ≠ [] := by
  simp [emptyProblems, members_of_scope h]
  tauto

lemma hasName_of_problems (h : e.name = Kind.model.tag)
    (hload : (load options old e).problems = []) : e.HasName := by
  simp only [problems_load h, List.append_eq_nil_iff, Element.nameProblems_eq_nil_iff] at hload
  tauto

lemma static_iff : (e.get .flag "static" false).problems = [] ↔
    ∀ text, e.fieldText? "static" = some text → IsFlag text := by
  rw [Element.problems_get_eq_nil_iff]
  simp only [FieldKind.read, exists_readFlag_iff]

/-- One level: a model is loaded without a problem when it is proper and the models inside it
are loaded without a problem. -/
lemma problems_load_eq_nil_iff_proper (h : e.name = Kind.model.tag) :
    (load options old e).problems = [] ↔ Proper options e ∧
      ∀ m ∈ e.named Kind.model.tag, (load options {} m).problems = [] := by
  have hlinks := forall₂_congr fun l (hl : l ∈ e.named Kind.link.tag) =>
    Link.problems_load_eq_nil_iff options {} (name_of_mem_named hl)
  have hjoints := forall₂_congr fun j (hj : j ∈ e.named Kind.joint.tag) =>
    Joint.problems_load_eq_nil_iff options {} (name_of_mem_named hj)
  have hframes := forall₂_congr fun f (hf : f ∈ e.named Kind.frame.tag) =>
    ExplicitFrame.problems_load_eq_nil_iff options {} (name_of_mem_named hf)
  simp only [problems_load h, List.append_eq_nil_iff, Element.nameProblems_eq_nil_iff,
    Element.poseProblems_eq_nil_iff, static_iff, List.flatMap_eq_nil_iff, hlinks, hjoints, hframes]
  have hnamed (hl : ∀ l ∈ e.named Kind.link.tag, Link.WellFormed l)
      (hj : ∀ j ∈ e.named Kind.joint.tag, Joint.WellFormed j)
      (hf : ∀ f ∈ e.named Kind.frame.tag, ExplicitFrame.WellFormed f)
      (hm : ∀ m ∈ e.named Kind.model.tag, (load options {} m).problems = []) :
      ∀ k ∈ memberKinds, ∀ c ∈ e.named k.tag, c.HasName := by
    simp only [memberKinds, List.forall_mem_cons]
    exact ⟨fun l h => (hl l h).named, fun j h => (hj j h).named, fun f h => (hf f h).named,
      fun m h => hasName_of_problems (name_of_mem_named h) (hm m h), by simp⟩
  -- The scope comes first: only in a scope are all members kept, so that the other checks see them.
  constructor
  · rintro ⟨⟨⟨⟨⟨⟨⟨⟨⟨hn, hp⟩, hstatic⟩, hl⟩, hj⟩, hf⟩, hm⟩, hempty⟩, hends⟩, hgraph⟩
    have hscope := (problems_graph_eq_nil_iff _ (hnamed hl hj hf hm)).mp hgraph
    have hfits := (jointProblems_eq_nil_iff hscope hj).mp hends
    have hinhabited := (emptyProblems_eq_nil_iff hscope).mp hempty
    exact ⟨⟨hn, hp, hstatic, hinhabited, hl, fun j h => ⟨hj j h, hfits j h⟩, hf, hscope⟩, hm⟩
  · rintro ⟨⟨hn, hp, hstatic, hinhabited, hl, hj, hf, hscope⟩, hm⟩
    have hends := (jointProblems_eq_nil_iff hscope fun j h => (hj j h).1).mpr fun j h => (hj j h).2
    have hempty := (emptyProblems_eq_nil_iff hscope).mpr hinhabited
    have hgraph := (problems_graph_eq_nil_iff (e.word "name")
      (hnamed hl (fun j h => (hj j h).1) hf hm)).mpr hscope
    exact ⟨⟨⟨⟨⟨⟨⟨⟨⟨hn, hp⟩, hstatic⟩, hl⟩, fun j h => (hj j h).1⟩, hf⟩, hm⟩, hempty⟩, hends⟩,
      hgraph⟩

/-- **Models**, by induction on the element: a load is without problems exactly when the element
is well formed, down to the models inside it. -/
theorem problems_load_eq_nil_iff (options : Options) (old : Model)
    (h : e.name = Kind.model.tag) :
    (load options old e).problems = [] ↔ WellFormed options e := by
  induction e using Element.induction generalizing old with
  | step e ih =>
    have hinner : ∀ m ∈ e.named Kind.model.tag,
        ((load options {} m).problems = [] ↔ WellFormed options m) :=
      fun m hm => ih m (Element.mem_named.mp hm).1 {} (name_of_mem_named hm)
    rw [problems_load_eq_nil_iff_proper h, forall₂_congr hinner]
    exact ⟨fun ⟨hproper, hmodels⟩ => .intro hproper hmodels,
      fun ⟨hproper, hmodels⟩ => ⟨hproper, hmodels⟩⟩

end Model

/-! ### Worlds -/

namespace World

lemma gravity_iff {default : Vec3 Float} : (e.get .vector "gravity" default).problems = [] ↔
    e.TripleReadable "gravity" := by
  rw [Element.problems_get_eq_nil_iff]
  simp only [FieldKind.read, readTriple_eq_ok_iff, Element.TripleReadable]
  refine forall₂_congr fun text _ => ⟨?_, ?_⟩
  · rintro ⟨v, x, y, z, hlist, -⟩
    exact ⟨x, y, z, hlist⟩
  · rintro ⟨x, y, z, hlist⟩
    exact ⟨_, x, y, z, hlist, rfl⟩

theorem problems_load_eq_nil_iff (options : Options) (old : World) (h : e.name = Kind.world.tag) :
    (load options old e).problems = [] ↔ WellFormed options e := by
  have hmodels := forall₂_congr fun m (hm : m ∈ e.named Kind.model.tag) =>
    Model.problems_load_eq_nil_iff options {} (name_of_mem_named hm)
  have hframes := forall₂_congr fun f (hf : f ∈ e.named Kind.frame.tag) =>
    ExplicitFrame.problems_load_eq_nil_iff options {} (name_of_mem_named hf)
  have hnamed (hm : ∀ m ∈ e.named Kind.model.tag, Model.WellFormed options m)
      (hf : ∀ f ∈ e.named Kind.frame.tag, ExplicitFrame.WellFormed f) :
      ∀ k ∈ memberKinds, ∀ c ∈ e.named k.tag, c.HasName := by
    simp only [memberKinds, List.forall_mem_cons]
    exact ⟨fun m h => (hm m h).proper.named, fun f h => (hf f h).named, by simp⟩
  simp only [problems_load h, List.append_eq_nil_iff, Element.nameProblems_eq_nil_iff, gravity_iff,
    List.flatMap_eq_nil_iff, hmodels, hframes]
  constructor
  · rintro ⟨⟨⟨⟨hn, hg⟩, hm⟩, hf⟩, hgraph⟩
    exact ⟨hn, hg, hm, hf, (problems_graphOf_eq_nil_iff _ (hnamed hm hf)).mp hgraph⟩
  · rintro ⟨hn, hg, hm, hf, hscope⟩
    exact ⟨⟨⟨⟨hn, hg⟩, hm⟩, hf⟩, (problems_graphOf_eq_nil_iff _ (hnamed hm hf)).mpr hscope⟩

end World

/-! ### Documents -/

namespace Document

lemma problems_loadVersion_eq_nil_iff :
    (loadVersion e).problems = [] ↔ e.word "version" ∈ supportedVersions := by
  rw [loadVersion_eq, versionProblems]
  by_cases hempty : e.word "version" = ""
  · simp [hempty, supportedVersions]
  · by_cases hknown : e.word "version" ∈ supportedVersions <;> simp [hempty, hknown]

/-- The worlds and models of a document are the children that it may hold. -/
lemma mem_topLevel {c : Element} : c ∈ e.children.filter isTopLevel ↔
    c ∈ e.named Kind.world.tag ∨ c ∈ e.named Kind.model.tag := by
  simp [isTopLevel, Element.mem_named]
  tauto

lemma problems_loadTopLevel {first : Element} {surplus : List Element}
    (h : e.children.filter isTopLevel = first :: surplus) : (loadTopLevel options e).problems =
      (if first.name = Kind.world.tag then (World.load options {} first).problems
        else (Model.load options {} first).problems) ++
        surplus.map fun c => .surplusEntity c.name ((c.attribute? "name").getD "") := by
  unfold loadTopLevel
  rw [h]
  by_cases hworld : first.name = Kind.world.tag <;> simp [hworld]

/-- The first world or model is loaded without a problem, and there is no other. -/
lemma problems_loadTopLevel_eq_nil_iff : (loadTopLevel options e).problems = [] ↔
    (e.children.filter isTopLevel).length ≤ 1 ∧
      (∀ w ∈ e.named Kind.world.tag, World.WellFormed options w) ∧
      ∀ m ∈ e.named Kind.model.tag, Model.WellFormed options m := by
  have htop := fun c => mem_topLevel (e := e) (c := c)
  cases hfilter : e.children.filter isTopLevel with
  | nil =>
    have hnone (c : Element) : c ∉ e.named Kind.world.tag ∧ c ∉ e.named Kind.model.tag := by
      simpa [hfilter] using (htop c).not
    simp [loadTopLevel, hfilter, hnone]
  | cons first surplus =>
    rw [problems_loadTopLevel hfilter, List.append_eq_nil_iff, List.map_eq_nil_iff,
      List.length_cons, Nat.succ_le_succ_iff, Nat.le_zero, List.length_eq_zero_iff, and_comm]
    refine and_congr_right fun hsurplus => ?_
    have honly {c : Element} (hc : c ∈ e.named Kind.world.tag ∨ c ∈ e.named Kind.model.tag) :
        c = first := by
      simpa [hfilter, hsurplus] using (htop c).mpr hc
    have hfirst : first ∈ e.named Kind.world.tag ∨ first ∈ e.named Kind.model.tag :=
      (htop first).mp (by simp [hfilter])
    have htags : Kind.model.tag ≠ Kind.world.tag := by decide
    rcases hfirst with hworld | hmodel
    · have htag := name_of_mem_named hworld
      rw [if_pos htag, World.problems_load_eq_nil_iff options {} htag]
      constructor
      · refine fun hwell => ⟨fun w hw => honly (Or.inl hw) ▸ hwell, fun m hm => ?_⟩
        rw [honly (Or.inr hm)] at hm
        exact absurd ((name_of_mem_named hm).symm.trans htag) htags
      · exact fun hwell => hwell.1 first hworld
    · have htag := name_of_mem_named hmodel
      rw [if_neg (htag ▸ htags), Model.problems_load_eq_nil_iff options {} htag]
      constructor
      · refine fun hwell => ⟨fun w hw => ?_, fun m hm => honly (Or.inr hm) ▸ hwell⟩
        rw [honly (Or.inl hw)] at hw
        exact absurd (htag.symm.trans (name_of_mem_named hw)) htags
      · exact fun hwell => hwell.2 first hmodel

/-- **Documents are accepted exactly when they are well formed.** A load into a new document is
without problems exactly when the element is of a supported version and holds at most one world
or model, which is well formed down to the models inside it. -/
theorem accepted_iff_wellFormed (options : Options) (e : Element) :
    (({ options := options } : Document).loadElement e).problems = [] ↔ WellFormed options e := by
  by_cases h : e.name = tag
  · have hparts : (({ options := options } : Document).loadElement e).problems =
        (loadVersion e).problems ++ (loadTopLevel options e).problems := by
      simp [loadElement, settle_eq, h]
    rw [hparts, List.append_eq_nil_iff, problems_loadVersion_eq_nil_iff,
      problems_loadTopLevel_eq_nil_iff]
    exact ⟨fun ⟨hversion, hsingle, hworld, hmodel⟩ => ⟨h, hversion, hsingle, hworld, hmodel⟩,
      fun ⟨_, hversion, hsingle, hworld, hmodel⟩ => ⟨hversion, hsingle, hworld, hmodel⟩⟩
  · refine iff_of_false ?_ fun hwell => h hwell.tagged
    simp [loadElement, settle_eq, h]

end Document

end SceneFrames
