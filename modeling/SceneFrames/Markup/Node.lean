import SceneFrames.Element

/-!
Nodes: what a document holds after its references are replaced and its names are resolved. An
element of the library is what remains of an element node: comments are passed over, and the
text before the first other node is its value.
-/

namespace SceneFrames

open Text

namespace Markup

/-- A node of a document. -/
inductive Node
  | element (name : String) (attributes : List (String × String)) (line : Nat)
      (content : List Node)
  | text (cs : List Char)
  | comment (cs : List Char)
  | instruction (target : String) (cs : List Char)
  /-- A reference to an entity that is declared nowhere. -/
  | unresolved (name : String)
  deriving Repr

/-- A reader of documents: the element node of the document that bytes are, if they are one. -/
abbrev Parser := List UInt8 → Option Node

/-- The bytes of a text in memory. -/
def textBytes (cs : List Char) : List UInt8 := cs.flatMap String.utf8EncodeChar

/-- The text before the first node that is neither text nor a comment. -/
def leadingText : List Node → List Char
  | .text cs :: more => cs ++ leadingText more
  | .comment _ :: more => leadingText more
  | _ => []

mutual

/-- The element that a node is, if it is one. -/
def Node.toElement? : Node → Option Element
  | .element name attributes line content =>
    some
      { name := name
        attributes := attributesOf attributes
        children := elementsOf content
        value := String.ofList (trim (leadingText content))
        line := some line }
  | _ => none

/-- The elements among nodes. -/
def elementsOf : List Node → List Element
  | [] => []
  | n :: more =>
    match n.toElement? with
    | some e => e :: elementsOf more
    | none => elementsOf more

end

end Markup

/-- The element that bytes hold, if they are a document. -/
def Element.ofBytes? (parse : Markup.Parser) (bytes : List UInt8) : Option Element :=
  (parse bytes).bind Markup.Node.toElement?

/-- The element that a text holds, if it is a document. -/
def Element.ofText? (parse : Markup.Parser) (text : String) : Option Element :=
  Element.ofBytes? parse (Markup.textBytes text.toList)

end SceneFrames
