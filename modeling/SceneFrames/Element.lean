import SceneFrames.Field.Kind

/-!
Elements: named nodes with attributes, a text value and child elements. A field of an element
is an attribute, or else the value of the first child of that name.
-/

namespace SceneFrames

/-- A named element with ordered attributes, ordered children, a text value and the line it was
read from. -/
structure Element where
  name : String := ""
  attributes : List (String × String) := []
  children : List Element := []
  value : String := ""
  line : Option Int := none
  deriving Inhabited

/-- Keys with their values, each key once: a later value of a key takes the place of an earlier
one. -/
def setAttribute (kvs : List (String × String)) (k v : String) : List (String × String) :=
  if kvs.any (·.1 == k) then kvs.map fun p => if p.1 == k then (k, v) else p else kvs ++ [(k, v)]

/-- The attributes of a list of keys and values in which a key may be repeated. -/
def attributesOf (kvs : List (String × String)) : List (String × String) :=
  kvs.foldl (fun acc p => setAttribute acc p.1 p.2) []

/-- Where something stands in its source, as part of a message. -/
def lineSuffix (line : Option Int) : String :=
  match line with
  | some n => " (line " ++ toString n ++ ")"
  | none => ""

namespace Element

/-- The value of an attribute. -/
def attribute? (e : Element) (key : String) : Option String :=
  (e.attributes.find? (·.1 == key)).map (·.2)

/-- There is an attribute of the key. -/
def hasAttribute (e : Element) (key : String) : Bool := e.attributes.any (·.1 == key)

/-- The children of a name. -/
def named (e : Element) (name : String) : List Element := e.children.filter (·.name == name)

/-- The first child of a name. -/
def first? (e : Element) (name : String) : Option Element := e.children.find? (·.name == name)

/-- There is a child of the name. -/
def hasElement (e : Element) (name : String) : Bool := (e.first? name).isSome

/-- The element with one more child at the end. -/
def add (e child : Element) : Element := { e with children := e.children ++ [child] }

/-- The element reached by child indices. -/
def at? (e : Element) : List Nat → Option Element
  | [] => some e
  | i :: is => (e.children[i]?).bind (·.at? is)

/-- The element after a change of the element that child indices reach. -/
def modifyAt (e : Element) (f : Element → Element) : List Nat → Element
  | [] => f e
  | i :: is => { e with children := e.children.modify i (·.modifyAt f is) }

/-- The text of a field: an attribute, or else the value of the first child of that name. -/
def fieldText? (e : Element) (key : String) : Option String :=
  match e.attribute? key with
  | some v => some v
  | none => (e.first? key).map (·.value)

/-- A field as a value of a kind, if there is one. -/
def read? (e : Element) (k : FieldKind) (key : String) : Option (Except ValueFault k.Value) :=
  (e.fieldText? key).map k.read

/-- Where the element stands in its source. -/
def location (e : Element) : String := lineSuffix e.line

/-- Attributes in braces. -/
def attributesText (kvs : List (String × String)) : String :=
  "\x7b" ++ ", ".intercalate (kvs.map fun p => Text.quoted p.1 ++ ": " ++ Text.quoted p.2) ++
    "\x7d"

/-- The element in words: its name, its attributes, and how many children it has. -/
def description (e : Element) : String :=
  "Element(<" ++ e.name ++ ">, " ++ attributesText e.attributes ++ ", " ++
    toString e.children.length ++ " children)"

theorem mem_named {e c : Element} {name : String} :
    c ∈ e.named name ↔ c ∈ e.children ∧ c.name = name := by
  simp [named]

theorem name_of_mem_named {e c : Element} {name : String} (h : c ∈ e.named name) :
    c.name = name :=
  (mem_named.mp h).2

/-- What holds of an element whenever it holds of the children holds of all elements. -/
@[elab_as_elim]
theorem induction {motive : Element → Prop}
    (step : ∀ e, (∀ c ∈ e.children, motive c) → motive e) (e : Element) : motive e :=
  step e fun c _ => induction step c
termination_by sizeOf e
decreasing_by
  rename_i hc
  have hlt := List.sizeOf_lt_of_mem hc
  cases e
  simp only [mk.sizeOf_spec] at hlt ⊢
  omega

end Element

end SceneFrames
