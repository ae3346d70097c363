import SceneFrames.Proofs.Markup.Decoding
import SceneFrames.Proofs.Text.Blanks

/-!
Asides: the comments and instructions of a document.

An aside is put into the content of some element of a document, between two nodes or in the middle
of a text. No element comes or goes, and none has its name or its attributes changed. Texts go on
over a comment, so a comment changes nothing but where things stand. An instruction ends the text
before it: what the element says after the instruction is lost, and the element has another value
unless that was blank or did not belong to the value in the first place.
-/

namespace SceneFrames

namespace Element

mutual

/-- The element with every line in it replaced by the same one. -/
def unlined : Element → Element
  | ⟨name, attributes, children, value, _⟩ =>
    ⟨name, attributes, unlinedAll children, value, some 0⟩

/-- The elements with every line in them replaced by the same one. -/
def unlinedAll : List Element → List Element
  | [] => []
  | e :: es => e.unlined :: unlinedAll es

end

end Element

namespace Markup

open Text

namespace Node

/-- The node is no part of what the document says. -/
def isAside : Node → Bool
  | .comment _ | .instruction _ _ => true
  | _ => false

/-- The text before the node goes on behind it. -/
def continuesText : Node → Bool
  | .text _ | .comment _ => true
  | _ => false

mutual

/-- The node with every line in it replaced by the same one. -/
def unlined : Node → Node
  | .element name attributes _ content => .element name attributes 0 (unlinedAll content)
  | n => n

/-- The nodes with every line in them replaced by the same one. -/
def unlinedAll : List Node → List Node
  | [] => []
  | n :: ns => n.unlined :: unlinedAll ns

end

end Node

/-- The content is parted at a place: between two nodes, or in the middle of a text. -/
inductive Parted : List Node → List Node → List Node → Prop
  | between (before after : List Node) : Parted (before ++ after) before after
  | inText (before : List Node) (cs cs' : List Char) (after : List Node) :
      Parted (before ++ .text (cs ++ cs') :: after) (before ++ [.text cs]) (.text cs' :: after)

/-- A node is put in between the two parts of the content of an element, which child indices
reach. -/
inductive PutIn (n : Node) (before after : List Node) : List Nat → Node → Node → Prop
  | here {content : List Node} (name : String) (attributes : List (String × String)) (line : Nat)
      (h : Parted content before after) :
      PutIn n before after [] (.element name attributes line content)
        (.element name attributes line (before ++ n :: after))
  | inside {path : List Nat} {m m' : Node} (name : String) (attributes : List (String × String))
      (line : Nat) (left right : List Node) (h : PutIn n before after path m m') :
      PutIn n before after ((elementsOf left).length :: path)
        (.element name attributes line (left ++ m :: right))
        (.element name attributes line (left ++ m' :: right))

variable {n m : Node} {ns before after content : List Node} {path : List Nat} {t t' : Node}

/-! ### Content -/

lemma elementsOf_cons_of_some {e : Element} (h : n.toElement? = some e) :
    elementsOf (n :: ns) = e :: elementsOf ns := by
  rw [elementsOf, h]

lemma elementsOf_cons_of_none (h : n.toElement? = none) :
    elementsOf (n :: ns) = elementsOf ns := by
  rw [elementsOf, h]

@[simp] lemma elementsOf_append :
    elementsOf (before ++ after) = elementsOf before ++ elementsOf after := by
  induction before with
  | nil => rfl
  | cons m before ih =>
    cases hm : m.toElement? with
    | none => rw [List.cons_append, elementsOf_cons_of_none hm, elementsOf_cons_of_none hm, ih]
    | some e => rw [List.cons_append, elementsOf_cons_of_some hm, elementsOf_cons_of_some hm, ih,
        List.cons_append]

/-- An aside is no element. -/
lemma elementsOf_aside (hn : n.isAside = true) :
    elementsOf (before ++ n :: after) = elementsOf (before ++ after) := by
  have hnone : n.toElement? = none := by
    cases n <;> first | rfl | simp [Node.isAside] at hn
  rw [elementsOf_append, elementsOf_cons_of_none hnone, elementsOf_append]

lemma Parted.elementsOf_eq (h : Parted content before after) :
    elementsOf content = elementsOf (before ++ after) := by
  cases h with
  | between => rfl
  | inText before cs cs' after => simp [elementsOf, Node.toElement?]

lemma leadingText_append_of_continues (h : ∀ m ∈ before, m.continuesText = true) :
    leadingText (before ++ after) = leadingText before ++ leadingText after := by
  induction before with
  | nil => rfl
  | cons m before ih =>
    have hbefore := ih fun x hx => h x (List.mem_cons_of_mem m hx)
    have hm := h m List.mem_cons_self
    cases m with
    | text cs => simp [leadingText, hbefore]
    | comment cs => simpa [leadingText] using hbefore
    | _ => simp [Node.continuesText] at hm

lemma leadingText_append_of_stops (h : ∃ m ∈ before, m.continuesText = false) :
    leadingText (before ++ after) = leadingText before := by
  induction before with
  | nil => simp at h
  | cons m before ih =>
    cases m with
    | text cs | comment cs =>
      have hbefore : ∃ m ∈ before, m.continuesText = false := by
        simpa [Node.continuesText] using h
      simp [leadingText, ih hbefore]
    | _ => rfl

lemma leadingText_append_congr {after' : List Node} (h : leadingText after = leadingText after') :
    leadingText (before ++ after) = leadingText (before ++ after') := by
  by_cases hstops : ∃ m ∈ before, m.continuesText = false
  · rw [leadingText_append_of_stops hstops, leadingText_append_of_stops hstops]
  · have hgoes : ∀ m ∈ before, m.continuesText = true := by simpa using hstops
    rw [leadingText_append_of_continues hgoes, leadingText_append_of_continues hgoes, h]

lemma Parted.leadingText_eq (h : Parted content before after) :
    leadingText content = leadingText (before ++ after) := by
  cases h with
  | between => rfl
  | inText before cs cs' after =>
    rw [List.append_assoc]
    exact leadingText_append_congr (by simp [leadingText])

/-- A text ends at an element. -/
lemma leadingText_element {e : Element} (h : n.toElement? = some e) :
    leadingText (n :: ns) = [] := by
  cases n <;> first | rfl | simp [Node.toElement?] at h

/-- A text goes on over a comment. -/
lemma leadingText_comment (cs : List Char) :
    leadingText (before ++ .comment cs :: after) = leadingText (before ++ after) :=
  leadingText_append_congr rfl

/-- A text ends at an instruction. -/
lemma leadingText_instruction (target : String) (cs : List Char) :
    leadingText (before ++ .instruction target cs :: after) = leadingText before := by
  have hends : leadingText (before ++ .instruction target cs :: after) =
      leadingText (before ++ []) := leadingText_append_congr rfl
  rw [hends, List.append_nil]

/-! ### Elements -/

/-- The value of an element with this content. -/
def valueOf (content : List Node) : String := String.ofList (trim (leadingText content))

/-- To change the element that child indices reach is to change that child. -/
lemma modifyAt_length_append {e c : Element} {left right : List Element} (f : Element → Element)
    (h : e.children = left ++ c :: right) : e.modifyAt f (left.length :: path) =
      { e with children := left ++ c.modifyAt f path :: right } := by
  rw [Element.modifyAt, h, List.modify_eq_take_drop]
  simp

/-- An aside changes the value of the one element that it is put in, or nothing. -/
lemma PutIn.toElement?_eq (hn : n.isAside = true) (h : PutIn n before after path t t') :
    ∃ e, t.toElement? = some e ∧
      t'.toElement? =
        some (e.modifyAt ({ · with value := valueOf (before ++ n :: after) }) path) ∧
      (e.modifyAt ({ · with value := valueOf (before ++ n :: after) }) path = e ↔
        valueOf (before ++ n :: after) = valueOf (before ++ after)) := by
  induction h with
  | here name attributes line h =>
    refine ⟨_, rfl, ?_, ?_⟩
    · rw [Node.toElement?, elementsOf_aside hn, ← h.elementsOf_eq]
      rfl
    · simp only [Element.modifyAt, Element.mk.injEq, true_and, and_true, h.leadingText_eq]
      rfl
  | @inside path m m' name attributes line left right _ ih =>
    obtain ⟨c, hm, hm', hsame⟩ := ih
    have hchildren {m : Node} {c : Element} (hm : m.toElement? = some c) :
        elementsOf (left ++ m :: right) = elementsOf left ++ c :: elementsOf right := by
      rw [elementsOf_append, elementsOf_cons_of_some hm]
    refine ⟨_, rfl, ?_, ?_⟩
    · rw [modifyAt_length_append _ (hchildren hm), Node.toElement?, hchildren hm']
      have hleading : leadingText (left ++ m' :: right) = leadingText (left ++ m :: right) :=
        leadingText_append_congr (by rw [leadingText_element hm', leadingText_element hm])
      rw [hleading]
    · rw [modifyAt_length_append _ (hchildren hm), ← hsame]
      simp [hchildren hm]

/-- What follows in the content shows in the value unless the text had ended before or all of it
is blank. -/
lemma valueOf_append_eq_iff : valueOf (before ++ after) = valueOf before ↔
    (∃ m ∈ before, m.continuesText = false) ∨ AllBlank (leadingText after) := by
  rw [valueOf, valueOf, String.ofList_inj]
  by_cases hstops : ∃ m ∈ before, m.continuesText = false
  · rw [leadingText_append_of_stops hstops]
    exact iff_of_true rfl (.inl hstops)
  · have hgoes : ∀ m ∈ before, m.continuesText = true := by simpa using hstops
    rw [leadingText_append_of_continues hgoes, trim_append_eq_iff]
    exact (or_iff_right hstops).symm

/-! ### Lines -/

lemma leadingText_unlinedAll (ns : List Node) :
    leadingText (Node.unlinedAll ns) = leadingText ns := by
  induction ns with
  | nil => rfl
  | cons n ns ih => cases n <;> simp [Node.unlinedAll, Node.unlined, leadingText, ih]

mutual

/-- The element of a node knows the lines only as its lines. -/
lemma Node.toElement?_unlined :
    ∀ n : Node, n.unlined.toElement? = n.toElement?.map Element.unlined
  | .element name attributes line content => by
    simp only [Node.unlined, Node.toElement?, elementsOf_unlinedAll content,
      leadingText_unlinedAll, Option.map_some, Element.unlined]
    rfl
  | .text _ | .comment _ | .instruction _ _ | .unresolved _ => rfl

lemma elementsOf_unlinedAll :
    ∀ ns : List Node, elementsOf (Node.unlinedAll ns) = Element.unlinedAll (elementsOf ns)
  | [] => rfl
  | n :: ns => by
    rw [Node.unlinedAll, elementsOf, elementsOf, Node.toElement?_unlined n,
      elementsOf_unlinedAll ns]
    cases n.toElement? <;> rfl

end

/-- **What an aside does to the elements.** A comment in the content of an element changes no
element. An instruction changes at most the value of that element, to the text before the
instruction, and changes nothing just where the text of the value had ended before, or where the
rest of it was blank. -/
theorem PutIn.elements_of_aside (hn : n.isAside = true)
    (h : PutIn n before after path t.unlined t'.unlined) :
    ∃ e e', t.toElement? = some e ∧ t'.toElement? = some e' ∧
      ((∃ cs, n = .comment cs) → e'.unlined = e.unlined) ∧
      ((∃ target cs, n = .instruction target cs) →
        e'.unlined = e.unlined.modifyAt ({ · with value := valueOf before }) path ∧
        (e'.unlined = e.unlined ↔
          (∃ m ∈ before, m.continuesText = false) ∨ AllBlank (leadingText after))) := by
  obtain ⟨u, hu, hu', hsame⟩ := h.toElement?_eq hn
  rw [Node.toElement?_unlined] at hu hu'
  obtain ⟨e, he, rfl⟩ := Option.map_eq_some_iff.mp hu
  obtain ⟨e', he', hchanged⟩ := Option.map_eq_some_iff.mp hu'
  refine ⟨e, e', he, he', ?_, ?_⟩
  · rintro ⟨cs, rfl⟩
    rw [hchanged, hsame, valueOf, leadingText_comment, valueOf]
  · rintro ⟨target, cs, rfl⟩
    rw [hchanged, hsame]
    have hvalue : valueOf (before ++ .instruction target cs :: after) = valueOf before := by
      rw [valueOf, leadingText_instruction, valueOf]
    rw [hvalue]
    exact ⟨rfl, eq_comm.trans valueOf_append_eq_iff⟩

/-- A blank follows the instruction in the text, and then another element: nothing changes. -/
theorem PutIn.elements_of_aside_before_blank :
    let t : Node := .element "a" [] 1 [.text ['x', ' '], .element "b" [] 1 []]
    let t' : Node :=
      .element "a" [] 1 [.text ['x'], .instruction "p" [], .text [' '], .element "b" [] 1 []]
    PutIn (.instruction "p" []) [.text ['x']] [.text [' '], .element "b" [] 0 []] []
        t.unlined t'.unlined ∧
      t'.toElement?.map Element.unlined = t.toElement?.map Element.unlined := by
  intro t t'
  have h : PutIn (.instruction "p" []) [.text ['x']] [.text [' '], .element "b" [] 0 []] []
      t.unlined t'.unlined :=
    .here "a" [] 0 (.inText [] ['x'] [' '] [.element "b" [] 0 []])
  obtain ⟨e, e', he, he', -, hinstruction⟩ := PutIn.elements_of_aside rfl h
  have hblank : AllBlank (leadingText [.text [' '], .element "b" [] 0 []]) := by decide
  refine ⟨h, ?_⟩
  rw [he, he', Option.map_some, Option.map_some,
    (hinstruction ⟨"p", [], rfl⟩).2.mpr (.inr hblank)]

/-- An instruction in the middle of a word takes the rest of the word away, in a document and in
the text of one. -/
theorem PutIn.instruction_inside_word :
    let t : Node := .element "a" [] 1 [.text ['x', 'y']]
    let t' : Node := .element "a" [] 1 [.text ['x'], .instruction "p" [], .text ['y']]
    PutIn (.instruction "p" []) [.text ['x']] [.text ['y']] [] t.unlined t'.unlined ∧
      t.toElement?.map (·.value) = some "xy" ∧ t'.toElement?.map (·.value) = some "x" ∧
      (Element.ofText? Decoder.western.parse "<a>xy</a>").map (·.value) = some "xy" ∧
      (Element.ofText? Decoder.western.parse "<a>x<?p?>y</a>").map (·.value) = some "x" := by
  have hread (cs : List Char) :
      Element.ofText? Decoder.western.parse (String.ofList ('<' :: 'a' :: cs)) =
        (node? false 0 ('<' :: 'a' :: cs)).bind Node.toElement? := by
    rw [Element.ofText?, Element.ofBytes?, String.toList_ofList,
      Decoder.western_standard.parse_undeclared (by decide) (by decide) (by decide)]
  have hword := hread ['>', 'x', 'y', '<', '/', 'a', '>']
  have hbroken := hread ['>', 'x', '<', '?', 'p', '?', '>', 'y', '<', '/', 'a', '>']
  refine ⟨.here "a" [] 0 (.inText [] ['x'] ['y'] []), rfl, rfl, ?_, ?_⟩
  · exact (congrArg (Option.map Element.value) hword).trans (by decide +kernel)
  · exact (congrArg (Option.map Element.value) hbroken).trans (by decide +kernel)

end Markup

end SceneFrames
