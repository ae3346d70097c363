import SceneFrames.Proofs.Frame.Circles
import SceneFrames.Proofs.Scene.Blocks

/-!
The one world or model that a document holds.

Of the worlds and models among the children of the top element the first is loaded, as what it is,
and each further one is reported and nothing else is made of it. What a load of an entity notes is
never a problem of the document, so the reports of further worlds and models can be told from all
else in the problems of a document. A call that comes to no element changes nothing of what is
held, so after any calls a document holds at most one world or model.
-/

namespace SceneFrames

open Journaled

variable {options : Options} {e c : Element} {k : Kind} {p : Problem} {ps : List Problem}

namespace Problem

/-- A problem that the load of an entity can note: with the entity itself, with something inside
it, or with the graph of a scope. -/
def isOfEntity : Problem → Bool
  | wrongElement .. | versionMissing | versionUnsupported .. | surplusEntity .. | fileMissing ..
  | fileMalformed .. | fileUnreadable .. | textMalformed => false
  | _ => true

/-- A document holds more than one world or model. -/
def isSurplus : Problem → Bool
  | surplusEntity .. => true
  | _ => false

lemma isSurplus_of_isOfEntity (h : p.isOfEntity = true) : p.isSurplus = false := by
  cases p <;> simp_all [isOfEntity, isSurplus]

end Problem

/-! ### What the load of an entity notes -/

/-- All problems are such as the load of an entity can note. -/
def AllOfEntities (ps : List Problem) : Prop := ∀ p ∈ ps, p.isOfEntity = true

namespace AllOfEntities

@[simp] lemma nil : AllOfEntities [] := List.forall_mem_nil _

@[simp] lemma append_iff {qs : List Problem} :
    AllOfEntities (ps ++ qs) ↔ AllOfEntities ps ∧ AllOfEntities qs :=
  List.forall_mem_append

@[simp] lemma singleton_iff : AllOfEntities [p] ↔ p.isOfEntity = true :=
  List.forall_mem_singleton

lemma flatMap {α : Type} {as : List α} {f : α → List Problem}
    (h : ∀ a ∈ as, AllOfEntities (f a)) : AllOfEntities (as.flatMap f) :=
  List.forall_mem_flatMap.mpr h

lemma get (e : Element) (f : FieldKind) (key : String) (default : f.Value) :
    AllOfEntities (e.get f key default).problems := by
  unfold Element.get Element.getWith
  split <;> simp [Problem.isOfEntity]

lemma nameProblems (e : Element) (k : Kind) : AllOfEntities (e.nameProblems k) := by
  unfold Element.nameProblems
  split <;> simp [Problem.isOfEntity]

lemma poseProblems (e : Element) : AllOfEntities e.poseProblems := by
  unfold Element.poseProblems
  split
  · exact get e _ _ _
  · exact nil

lemma geometryProblems (k : Kind) (name : String) (e : Element) :
    AllOfEntities (Shape.geometryProblems k name e) := by
  unfold Shape.geometryProblems
  cases e.first? "geometry" with
  | none => simp [Problem.isOfEntity]
  | some g =>
    cases hg : g.children with
    | nil => simp [hg]
    | cons shape more =>
      simp only [hg]
      split <;> simp [Problem.isOfEntity]

lemma typeProblems (name : String) (e : Element) : AllOfEntities (Joint.typeProblems name e) := by
  unfold Joint.typeProblems
  split
  · simp [Problem.isOfEntity]
  · split <;> simp [Problem.isOfEntity]

lemma endProblems (name : String) (e : Element) (side : JointEnd) :
    AllOfEntities (Joint.endProblems name e side) := by
  unfold Joint.endProblems
  split <;> simp [Problem.isOfEntity]

lemma axisProblems (e : Element) : AllOfEntities (Joint.axisProblems e) := by
  unfold Joint.axisProblems
  cases e.first? "axis" with
  | none => simp
  | some axis =>
    have hread : AllOfEntities (axis.getWith FieldKind.vector "xyz" none some).problems := by
      unfold Element.getWith
      split <;> simp [Problem.isOfEntity]
    simp only [Option.map_some, Option.getD_some, Joint.loadAxis, problems_bind, append_iff]
    refine ⟨hread, ?_⟩
    split
    · simp
    · split <;> simp [Problem.isOfEntity]

/-- The problems of a graph are filed as repeated names, as unknown bases and as circles. -/
lemma build (records : List (FrameRecord (Pose Float))) (scope : String) :
    AllOfEntities (FrameGraph.build records scope).problems := by
  have hcode {p : Problem} (h : p.code = .duplicateName ∨ p.code = .poseRelativeToInvalid ∨
      p.code = .poseRelativeToCycle) : p.isOfEntity = true := by
    cases p <;> simp_all [Problem.code, Problem.isOfEntity]
  rw [FrameGraph.build, FrameGraph.buildAlong_problems, append_iff, append_iff]
  refine ⟨⟨fun p hp => ?_, fun p hp => ?_⟩, fun p hp => ?_⟩
  · exact hcode (.inl (code_of_mem_insertRecords hp))
  · obtain ⟨r, -, hr⟩ := List.mem_filterMap.mp hp
    exact hcode (.inr (.inl (code_of_baseProblem? hr)))
  · obtain ⟨route, -, rfl⟩ := List.mem_map.mp hp
    exact hcode (.inr (.inr rfl))

lemma graphProblems (options : Options) (h : e.name = k.tag) :
    AllOfEntities (Entity.loaded options k e).graphProblems := by
  cases hscope : k.isScope with
  | false =>
    rw [graphProblems_of_not_scope options e hscope]
    exact nil
  | true =>
    rw [Entity.graphProblems, Entity.graph?_loaded options h hscope]
    exact build _ _

lemma ownProblems (e : Element) (k : Kind) : AllOfEntities (e.ownProblems k) := by
  cases k <;>
    simp only [Element.ownProblems, append_iff, nameProblems, poseProblems, get, geometryProblems,
      typeProblems, endProblems, axisProblems, and_self]

lemma repeatProblems (e : Element) (o k : Kind) (earlier : List Element) (c : Element) :
    AllOfEntities (e.repeatProblems o k earlier c) := by
  unfold Element.repeatProblems
  split
  · exact nil
  · split <;> simp [Problem.isOfEntity]

lemma referenceProblems (options : Options) (x : Source) :
    AllOfEntities (referenceProblems options x) := by
  unfold SceneFrames.referenceProblems
  split
  · rw [append_iff]
    refine ⟨?_, flatMap fun j _ => ?_⟩
    · unfold Model.emptyProblems
      split <;> simp [Problem.isOfEntity]
    · simp only [Members.jointProblems, append_iff]
      refine ⟨⟨?_, ?_⟩, ?_⟩ <;> split <;> simp [Problem.isOfEntity]
  · exact nil

/-- What is noted of a child right after it is that it repeats a name. -/
lemma repetition {o : Kind} {part : MemberPart} (h : part ∈ e.parts o) :
    AllOfEntities part.repetition := by
  obtain ⟨k, -, hpart⟩ := List.mem_flatMap.mp h
  have hparts (cs earlier : List Element) :
      part ∈ e.partsAfter o k earlier cs → AllOfEntities part.repetition := by
    induction cs generalizing earlier with
    | nil => simp [Element.partsAfter]
    | cons c cs ih =>
      rw [Element.partsAfter, List.mem_cons]
      rintro (rfl | hrest)
      · exact repeatProblems e o k earlier c
      · exact ih _ hrest
  exact hparts _ _ hpart

/-- **What a load of an entity notes** is never a problem of the document, by induction on the
element. -/
theorem noted (options : Options) (h : e.name = k.tag) :
    AllOfEntities (SceneFrames.noted options (k, e)) := by
  induction e using Element.induction generalizing k with
  | step e ih =>
    have hblocks : AllOfEntities ((e.parts k).flatMap (MemberPart.block options)) := by
      refine flatMap fun part hpart => ?_
      have hchild := (Element.exists_mem_parts_iff.mp ⟨part, hpart, rfl⟩).2
      rw [MemberPart.block, append_iff]
      exact ⟨ih _ (Element.mem_named.mp hchild).1 (Element.name_of_mem_named hchild),
        repetition hpart⟩
    rw [SceneFrames.noted, problems_load_eq options h]
    simp only [append_iff]
    exact ⟨⟨⟨ownProblems e k, hblocks⟩, referenceProblems options (k, e)⟩, graphProblems options h⟩

end AllOfEntities

/-! ### The worlds and models of an element -/

namespace Document

/-- The kind of a child that a document can hold. -/
def topLevelKind (c : Element) : Kind := if c.name = Kind.world.tag then .world else .model

/-- The children that a document can hold, each with its kind. -/
def topLevel (e : Element) : List Source :=
  (e.children.filter isTopLevel).map fun c => (topLevelKind c, c)

/-- What is reported of a world or model that is not the first: what it is, and the name that an
attribute gives it. -/
def surplusProblem (x : Source) : Problem :=
  .surplusEntity x.1.tag ((x.2.attribute? "name").getD "")

/-- The worlds or the models that a document holds. -/
def entities (d : Document) : Kind → List Entity
  | .world => d.worlds.map .world
  | .model => d.models.map .model
  | _ => []

/-- The worlds and models that are loaded from a child: the one, as what it is. -/
def loadFirst (options : Options) (x : Source) : Journaled (List World × List Model) :=
  if x.1 = .world then (fun w => ([w], [])) <$> World.load options {} x.2
  else (fun m => ([], [m])) <$> Model.load options {} x.2

lemma name_of_isTopLevel (h : isTopLevel c = true) : c.name = (topLevelKind c).tag := by
  unfold topLevelKind
  split
  · assumption
  · rename_i hworld
    simpa [isTopLevel, hworld] using h

lemma name_of_mem_topLevel {x : Source} (h : x ∈ topLevel e) : x.2.name = x.1.tag := by
  obtain ⟨c, hc, rfl⟩ := List.mem_map.mp h
  exact name_of_isTopLevel (List.mem_filter.mp hc).2

/-- The load of what a document holds: the first world or model is loaded, and the further ones
are reported. -/
lemma loadTopLevel_eq (options : Options) (e : Element) : loadTopLevel options e = (do
    let top ← ((topLevel e).head?.map (loadFirst options)).getD (pure ([], []))
    reportAll ((topLevel e).tail.map surplusProblem)
    return top) := by
  unfold loadTopLevel topLevel
  cases hfilter : e.children.filter isTopLevel with
  | nil => rfl
  | cons first surplus =>
    have hname : ∀ c ∈ first :: surplus, c.name = (topLevelKind c).tag := fun c hc =>
      name_of_isTopLevel (List.mem_filter.mp (hfilter ▸ hc)).2
    have hsurplus : surplus.map (fun c => Problem.surplusEntity c.name
        ((c.attribute? "name").getD "")) =
        (surplus.map fun c => (topLevelKind c, c)).map surplusProblem := by
      rw [List.map_map]
      exact List.map_congr_left fun c hc => by
        rw [hname c (List.mem_cons_of_mem _ hc)]
        rfl
    have hfirst : topLevelKind first = .world ↔ first.name = Kind.world.tag := by
      unfold topLevelKind
      split <;> simp_all
    simp only [hsurplus, List.map_cons, List.head?_cons, List.tail_cons, Option.map_some,
      Option.getD_some, loadFirst, hfirst]
    split <;> rfl

lemma loadElement_eq (h : e.name = tag) (d : Document) : d.loadElement e = settle (do
    let version ← loadVersion e
    let (worlds, models) ← loadTopLevel d.options e
    return { d with version := version, worlds := worlds, models := models }) := by
  rw [loadElement, if_pos h]

lemma kind_of_mem_topLevel {x : Source} (h : x ∈ topLevel e) : x.1 = .world ∨ x.1 = .model := by
  obtain ⟨c, -, rfl⟩ := List.mem_map.mp h
  unfold topLevelKind
  split <;> simp

/-- A document holds what is loaded from the first world or model, as what it is. -/
lemma entities_loadElement (h : e.name = tag) (d : Document) (k : Kind) :
    (d.loadElement e).value.entities k =
      (((topLevel e).take 1).filter (·.1 = k)).map fun x => Entity.loaded d.options x.1 x.2 := by
  rw [loadElement_eq h, loadTopLevel_eq]
  cases htop : topLevel e with
  | nil => cases k <;> rfl
  | cons first surplus =>
    obtain ⟨j, c⟩ := first
    have hj := kind_of_mem_topLevel (htop ▸ List.mem_cons_self : (j, c) ∈ topLevel e)
    rcases hj with rfl | rfl <;> cases k <;> rfl

/-- The problems of the version come first, then those of the first world or model, and then the
reports of the further ones. -/
lemma problems_loadElement (h : e.name = tag) (d : Document) :
    (d.loadElement e).problems = (loadVersion e).problems ++
      ((topLevel e).take 1).flatMap (noted d.options) ++ (topLevel e).tail.map surplusProblem := by
  have hfirst : (((topLevel e).head?.map (loadFirst d.options)).getD (pure ([], []))).problems =
      ((topLevel e).take 1).flatMap (noted d.options) := by
    cases htop : topLevel e with
    | nil => rfl
    | cons first surplus =>
      obtain ⟨j, c⟩ := first
      have hj := kind_of_mem_topLevel (htop ▸ List.mem_cons_self : (j, c) ∈ topLevel e)
      rcases hj with rfl | rfl <;> simp [loadFirst, noted, Entity.load, Entity.fresh]
  simp [loadElement_eq h, loadTopLevel_eq, settle_eq, hfirst]

/-- What is noted of the version is noted of the document. -/
lemma problems_loadVersion (e : Element) :
    ∀ p ∈ (loadVersion e).problems, p.isOfEntity = false ∧ p.isSurplus = false := by
  rw [loadVersion_eq, versionProblems]
  by_cases hempty : e.word "version" = ""
  · simp [hempty, Problem.isOfEntity, Problem.isSurplus]
  · by_cases hknown : e.word "version" ∈ supportedVersions <;>
      simp [hempty, hknown, Problem.isOfEntity, Problem.isSurplus]

lemma loadVersion_congr {e' : Element} (h : e'.word "version" = e.word "version") :
    loadVersion e' = loadVersion e := by
  rw [loadVersion_eq, loadVersion_eq, versionProblems, versionProblems, h]

/-- Of a further world or model only the report is left. -/
lemma loadTopLevel_congr {e' : Element} (htake : (topLevel e').take 1 = (topLevel e).take 1)
    (htail : (topLevel e').tail.map surplusProblem = (topLevel e).tail.map surplusProblem) :
    loadTopLevel options e' = loadTopLevel options e := by
  have hhead : (topLevel e').head? = (topLevel e).head? := by
    simpa [List.head?_take] using congrArg List.head? htake
  rw [loadTopLevel_eq, loadTopLevel_eq, hhead, htail]

/-- What is noted of the first world or model is noted while an entity is loaded. -/
lemma allOfEntities_first (options : Options) (e : Element) :
    AllOfEntities (((topLevel e).take 1).flatMap (noted options)) :=
  .flatMap fun _ hx => .noted options (name_of_mem_topLevel (List.mem_of_mem_take hx))

/-! ### Many calls -/

/-- A document after calls, each with the files as they are at the time. -/
def afterRun (parse : Markup.Parser) (d : Document) (run : List (FileSystem × LoadCall)) :
    Document :=
  run.foldl (fun d c => (d.call parse c.1 c.2).value) d

def HoldsAtMostOne (d : Document) : Prop := d.worlds.length + d.models.length ≤ 1

lemma holdsAtMostOne_loadElement (d : Document) (e : Element) :
    (d.loadElement e).value.HoldsAtMostOne := by
  by_cases h : e.name = tag
  · have hworlds := congrArg List.length (entities_loadElement h d .world)
    have hmodels := congrArg List.length (entities_loadElement h d .model)
    simp only [entities, List.length_map] at hworlds hmodels
    rw [HoldsAtMostOne, hworlds, hmodels]
    cases topLevel e with
    | nil => simp
    | cons first surplus =>
      by_cases hworld : first.1 = .world
      · simp [hworld]
      · by_cases hmodel : first.1 = .model <;> simp [hworld, hmodel]
  · simp [HoldsAtMostOne, loadElement, settle_eq, h]

/-- **One call**: a document that comes to an element holds what it loads from that, and one that
does not holds what it has held. -/
lemma HoldsAtMostOne.call {d : Document} (h : d.HoldsAtMostOne) (parse : Markup.Parser)
    (files : FileSystem) (c : LoadCall) : (d.call parse files c).value.HoldsAtMostOne := by
  rw [value_call]
  cases outcome parse files d.options c with
  | ok e => exact holdsAtMostOne_loadElement d e
  | error p => exact h

lemma HoldsAtMostOne.afterRun {d : Document} (h : d.HoldsAtMostOne) (parse : Markup.Parser)
    (run : List (FileSystem × LoadCall)) : (d.afterRun parse run).HoldsAtMostOne := by
  induction run generalizing d with
  | nil => exact h
  | cons c run ih => exact ih (h.call parse c.1 c.2)

/-- **A document holds the first world or model.** After any calls, whether or not they come to an
element, it holds at most one. A load from an element holds what is loaded from the first world or
model among the children, as what it is. Its problems are those of the version, those of that one
entity, and one report for each further world or model in order; nothing else is a report of that
form, and nothing else is noted of an entity. So of a further world or model nothing is seen but
what it is and how an attribute names it. -/
theorem holds_first_topLevel :
    (∀ (parse : Markup.Parser) (options : Options) (run : List (FileSystem × LoadCall)),
      ((new options).afterRun parse run).HoldsAtMostOne) ∧
    ∀ (d : Document) (e : Element), e.name = tag →
      let x := d.loadElement e
      (∀ k, x.value.entities k =
        (((topLevel e).take 1).filter (·.1 = k)).map fun s => Entity.loaded d.options s.1 s.2) ∧
      x.value.problems = x.problems ∧
      x.problems = (loadVersion e).problems ++ ((topLevel e).take 1).flatMap (noted d.options) ++
        (topLevel e).tail.map surplusProblem ∧
      x.problems.filter (·.isSurplus) = (topLevel e).tail.map surplusProblem ∧
      (x.problems.filter (·.isSurplus)).length = (topLevel e).length - 1 ∧
      x.problems.filter (·.isOfEntity) = ((topLevel e).take 1).flatMap (noted d.options) ∧
      ∀ e' : Element, e'.name = tag → e'.word "version" = e.word "version" →
        (topLevel e').take 1 = (topLevel e).take 1 →
        (topLevel e').tail.map surplusProblem = (topLevel e).tail.map surplusProblem →
        d.loadElement e' = x := by
  refine ⟨fun parse options run =>
      HoldsAtMostOne.afterRun (by simp [HoldsAtMostOne, new]) parse run,
    fun d e h => ?_⟩
  intro x
  have hproblems : x.problems = _ := problems_loadElement h d
  have hfirst := allOfEntities_first d.options e
  have hversion := problems_loadVersion e
  have hsurplus : x.problems.filter (·.isSurplus) = (topLevel e).tail.map surplusProblem := by
    have hnone : (loadVersion e).problems.filter Problem.isSurplus = [] :=
      List.filter_eq_nil_iff.mpr fun p hp => by simp [(hversion p hp).2]
    have hentities : (((topLevel e).take 1).flatMap (noted d.options)).filter (·.isSurplus) = [] :=
      List.filter_eq_nil_iff.mpr fun p hp => by
        simp [Problem.isSurplus_of_isOfEntity (hfirst p hp)]
    rw [hproblems, List.filter_append, List.filter_append, hnone, hentities, List.nil_append,
      List.nil_append]
    exact List.filter_eq_self.mpr (List.forall_mem_map.mpr fun _ _ => rfl)
  have hentity : x.problems.filter (·.isOfEntity) =
      ((topLevel e).take 1).flatMap (noted d.options) := by
    have hnone : (loadVersion e).problems.filter Problem.isOfEntity = [] :=
      List.filter_eq_nil_iff.mpr fun p hp => by simp [(hversion p hp).1]
    have hreports : ((topLevel e).tail.map surplusProblem).filter (·.isOfEntity) = [] :=
      List.filter_eq_nil_iff.mpr (List.forall_mem_map.mpr fun _ _ => by
        simp [surplusProblem, Problem.isOfEntity])
    rw [hproblems, List.filter_append, List.filter_append, hnone, hreports,
      List.filter_eq_self.mpr hfirst, List.nil_append, List.append_nil]
  have hheld : x.value.problems = x.problems := by simp [x, loadElement, settle_eq]
  refine ⟨entities_loadElement h d, hheld, hproblems, hsurplus, ?_, hentity, ?_⟩
  · rw [hsurplus, List.length_map, List.length_tail]
  · intro e' h' hword htake htail
    have hload : d.loadElement e' = d.loadElement e := by
      rw [loadElement_eq h', loadElement_eq h, loadVersion_congr hword,
        loadTopLevel_congr htake htail]
    exact hload

/-- A model without a name and without a link, then a world that holds the same, then a model. -/
def crowded : Element :=
  { name := "sdf"
    attributes := [("version", "1.7")]
    children := [
      { name := "note" },
      { name := "model" },
      { name := "world", attributes := [("name", "w")], children := [{ name := "model" }] },
      { name := "model", children := [{ name := "name", value := "m" }] }] }

/-- The same without the note, and with other things inside the models and worlds after the
first. -/
def crowdedOtherwise : Element :=
  { name := "sdf"
    attributes := [("version", "1.7")]
    children := [
      { name := "model" },
      { name := "world", attributes := [("name", "w")] },
      { name := "model", children := [{ name := "link" }] }] }

/-- The nameless model is held, with what is wrong with it, and the others are only reported: the
last without a name, since no attribute gives it one. -/
theorem holds_first_topLevel_crowded : crowded.name = tag ∧
    let x := (new {}).loadElement crowded
    x.problems = [.nameMissing "model", .linkMissing "", .surplusEntity "world" "w",
      .surplusEntity "model" ""] ∧
    x.problems.filter (·.isSurplus) = (topLevel crowded).tail.map surplusProblem ∧
    (x.problems.filter (·.isSurplus)).length = 2 ∧
    (x.value.entities .world).length = 0 ∧ (x.value.entities .model).length = 1 ∧
    (new {}).loadElement crowdedOtherwise = x := by
  obtain ⟨hentities, -, -, hsurplus, hlength, -, hseen⟩ :=
    holds_first_topLevel.2 (new {}) crowded rfl
  refine ⟨rfl, by decide +kernel, hsurplus, hlength, ?_, ?_, ?_⟩
  · rw [hentities]
    rfl
  · rw [hentities]
    rfl
  · exact hseen crowdedOtherwise rfl rfl rfl (by decide +kernel)

end Document

end SceneFrames
