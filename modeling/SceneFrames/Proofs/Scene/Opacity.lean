import SceneFrames.Proofs.Frame.Reordering
import SceneFrames.Proofs.Scene.Entities

/-!
What a scope does not see of its members.

A scope sees the name, the line and the declared pose of a member. It does not see how a joint
moves and what it connects, the shapes of a link, what a frame is attached to, or anything inside a
model. Without these an element is an outline of itself; elements with the same outline make the
same graph, and their scopes answer alike. In particular no loop of joints makes a graph faulty.
-/

namespace SceneFrames

variable {options : Options} {e e' c : Element} {o k : Kind} {key : String} {keys : List String}

namespace Kind

/-- The fields of an entity that its scope does not see. -/
def hiddenFields : Kind → List String
  | joint => ["type", "parent", "child", "axis"]
  | link => ["visual", "collision"]
  | frame => ["attached_to"]
  | model => ["static", "link", "joint", "frame", "model"]
  | world | visual | collision => []

lemma ofTag?_tag (k : Kind) : ofTag? k.tag = some k := by
  cases k <;> rfl

/-- The name and the pose are seen of every entity. -/
lemma not_mem_hiddenFields (k : Kind) : "name" ∉ k.hiddenFields ∧ "pose" ∉ k.hiddenFields := by
  cases k <;> decide

end Kind

namespace Element

/-- The element without its fields of some names. -/
def without (keys : List String) (e : Element) : Element :=
  { e with
    attributes := e.attributes.filter fun p => !keys.contains p.1
    children := e.children.filter fun c => !keys.contains c.name }

/-- What a scope sees of a member. -/
def outlined (c : Element) : Element :=
  c.without (((Kind.ofTag? c.name).map Kind.hiddenFields).getD [])

/-- The element with what its scope sees of its members. -/
def outline (e : Element) : Element := { e with children := e.children.map outlined }

/-! ### Fields that are left -/

lemma first?_without (hkey : key ∉ keys) : (e.without keys).first? key = e.first? key := by
  simp only [first?, without, List.find?_filter]
  congr 1
  funext c
  by_cases hc : c.name = key <;> simp [hc, hkey]

lemma fieldText?_without (hkey : key ∉ keys) :
    (e.without keys).fieldText? key = e.fieldText? key := by
  have hattribute : (e.without keys).attribute? key = e.attribute? key := by
    simp only [attribute?, without, List.find?_filter]
    congr 2
    funext p
    by_cases hp : p.1 = key <;> simp [hp, hkey]
  rw [fieldText?, fieldText?, hattribute, first?_without hkey]

/-- An element with its name and its pose declares the same place. -/
lemma loaded_without (options : Options) (e : Element) (p : Placement) (hname : "name" ∉ keys)
    (hpose : "pose" ∉ keys) :
    Placement.loaded options (e.without keys) p = Placement.loaded options e p := by
  simp only [Placement.loaded, poseOver, baseOver, givesPose, word, word?, get, getWith, read?,
    first?_without hpose, fieldText?_without hname, fieldText?_without hpose]
  rfl

/-! ### Outlines -/

lemma loaded_outlined (options : Options) (hc : c.name = k.tag) (p : Placement) :
    Placement.loaded options c.outlined p = Placement.loaded options c p := by
  obtain ⟨hname, hpose⟩ := k.not_mem_hiddenFields
  rw [outlined, hc, Kind.ofTag?_tag]
  exact loaded_without options c p hname hpose

lemma named_outline (e : Element) (tag : String) :
    e.outline.named tag = (e.named tag).map outlined := by
  rw [named, outline, List.filter_map]
  rfl

/-- The outline of an element declares the same places. -/
lemma placements_outline (options : Options) (k : Kind) (e : Element) :
    e.outline.placements options k = e.placements options k := by
  rw [placements, named_outline, List.map_map]
  exact List.map_congr_left fun c hc => loaded_outlined options (name_of_mem_named hc) {}

lemma word_outline (e : Element) (key : String) : e.outline.word key = e.word key := by
  have hfirst : (e.outline.first? key).map (·.value) = (e.first? key).map (·.value) := by
    rw [first?, outline, List.find?_map, Option.map_map]
    rfl
  rw [word, word?, fieldText?, hfirst]
  rfl

/-- The frames that a scope gets are a matter of what its members declare. -/
lemma scopeRecords_eq (options : Options) (kinds : List Kind) (e : Element) :
    e.scopeRecords options kinds =
      (kinds.flatMap fun k => (firstUses (·.name) (e.placements options k)).map (·.record k)) ++
        kinds.flatMap fun k => (laterUses (·.name) (e.placements options k)).map (·.record k) := by
  simp only [scopeRecords, keptChildren, leftOutChildren, List.map_append, List.map_flatMap,
    List.map_map, placements, firstUses_map, laterUses_map]
  rfl

lemma memberRecords_eq (options : Options) (kinds : List Kind) (e : Element) :
    e.memberRecords options kinds =
      kinds.flatMap fun k => (e.placements options k).map (·.record k) := by
  simp only [memberRecords, placements, List.map_map]
  rfl

end Element

/-! ### Elements with the same outline -/

section Outline

variable (hsame : e.outline = e'.outline)

include hsame

lemma placements_of_outline (options : Options) (k : Kind) :
    e.placements options k = e'.placements options k := by
  rw [← e.placements_outline, hsame, e'.placements_outline]

/-- The scopes get the same frames. -/
lemma scopeRecords_of_outline (options : Options) (kinds : List Kind) :
    e.scopeRecords options kinds = e'.scopeRecords options kinds := by
  simp only [Element.scopeRecords_eq, placements_of_outline hsame]

lemma word_of_outline (key : String) : e.word key = e'.word key := by
  rw [← e.word_outline, hsame, e'.word_outline]

end Outline

namespace Entity

/-- **Opacity.** Scopes that are loaded from elements with the same outline have the same graph;
so every question about their frames has the same answer, whether it is put to the scope or to a
member. The graph is valid exactly when the members of the outline declare a tree, whatever the
joints connect. -/
theorem loaded_of_outline (options : Options) (o : Kind) (e e' : Element)
    (h : e.name = o.tag) (ho : o.isScope = true) (hsame : e.outline = e'.outline) :
    let x := loaded options o e
    let x' := loaded options o e'
    ∃ g, x.graph? = some g ∧ x'.graph? = some g ∧
      (∀ a b, x.framePose? a b = x'.framePose? a b) ∧
      (∀ k ∈ o.memberKinds, ∃ ys ys', x.members? k = some ys ∧ x'.members? k = some ys' ∧
        ∀ r, (ys.map fun y => (y.name, y.pose (some r))) =
          ys'.map fun y => (y.name, y.pose (some r))) ∧
      (g.valid = true ↔ DeclareTree (e.outline.memberRecords options o.memberKinds)) := by
  intro x x'
  have h' : e'.name = o.tag := (congrArg Element.name hsame).symm.trans h
  have hgraph := graph?_loaded options h ho
  have hgraph' : x'.graph? = x.graph? := by
    rw [graph?_loaded options h' ho, hgraph, scopeRecords_of_outline hsame,
      word_of_outline hsame]
  refine ⟨_, hgraph, hgraph'.trans hgraph, fun a b => ?_, fun k hk => ?_, ?_⟩
  · rw [framePose?_of_graph? hgraph, framePose?_of_graph? (hgraph'.trans hgraph)]
  · have hys := members?_loaded options h hk
    have hys' := members?_loaded options h' hk
    refine ⟨_, _, hys, hys', fun r => ?_⟩
    rw [answers_of_members h hk hys, answers_of_members h' hk hys', ← hgraph',
      placements_of_outline hsame]
  · have htree := FrameGraph.valid_iff_declareTree depthFirst
      (e.scopeRecords options o.memberKinds) (e.word "name")
    have hperm := e.scopeRecords_perm options o.memberKinds
    rw [Element.memberRecords_eq] at hperm
    simp only [Element.memberRecords_eq, Element.placements_outline]
    exact htree.trans ⟨(·.perm hperm), (·.perm hperm.symm)⟩

/-- A joint between two links. -/
def hinge (name parent child : String) : Element :=
  { name := "joint"
    attributes := [("name", name), ("type", "revolute")]
    children := [{ name := "parent", value := parent }, { name := "child", value := child }] }

/-- Four links in a ring of joints. -/
def fourBar : Element :=
  { name := "model"
    attributes := [("name", "m")]
    children :=
      ["a", "b", "c", "d"].map (fun link => { name := "link", attributes := [("name", link)] }) ++
        [hinge "ab" "a" "b", hinge "bc" "b" "c", hinge "cd" "c" "d", hinge "da" "d" "a"] }

/-- The same links with a shape each, and joints that connect nothing. -/
def looseBars : Element :=
  { name := "model"
    attributes := [("name", "m")]
    children :=
      ["a", "b", "c", "d"].map (fun link =>
        { name := "link", attributes := [("name", link)], children := [{ name := "visual" }] }) ++
        ["ab", "bc", "cd", "da"].map fun joint =>
          { name := "joint", attributes := [("name", joint)] } }

theorem loaded_fourBar : fourBar.name = Kind.model.tag ∧ Kind.model.isScope = true ∧
    fourBar.outline = looseBars.outline ∧ ∃ g, (loaded {} .model fourBar).graph? = some g ∧
      (loaded {} .model looseBars).graph? = some g ∧ g.valid = true := by
  have houtline : fourBar.outline = looseBars.outline := rfl
  have hvalid : (FrameGraph.build (fourBar.scopeRecords {} Kind.model.memberKinds)
      (fourBar.word "name")).valid = true := by decide +kernel
  obtain ⟨g, hgraph, hgraph', -⟩ :=
    loaded_of_outline {} .model fourBar looseBars (by decide) (by decide) houtline
  refine ⟨by decide, by decide, houtline, g, hgraph, hgraph', ?_⟩
  rw [graph?_loaded {} (by decide) (by decide)] at hgraph
  exact Option.some.inj hgraph ▸ hvalid

end Entity

end SceneFrames
