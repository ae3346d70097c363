import SceneFrames.Text.CodeRange

/-!
The characters of markup: which may occur at all, which separate, and which make up names.
-/

namespace SceneFrames.Markup

open Text

/-- The characters that may occur in a document. -/
def allowedCodes : CodeRanges :=
  [(0x09, 0x0A), (0x0D, 0x0D), (0x20, 0xD7FF), (0xE000, 0xFFFD), (0x10000, 0x10FFFF)]

/-- The code points at which a name may start, beside the colon. -/
def nameStartCodes : CodeRanges :=
  [(0x61, 0x7A), (0x41, 0x5A), (0x5F, 0x5F), (0xC0, 0xD6), (0xD8, 0xF6), (0xF8, 0x2FF),
   (0x370, 0x37D), (0x37F, 0x1FFF), (0x200C, 0x200D), (0x2070, 0x218F), (0x2C00, 0x2FEF),
   (0x3001, 0xD7FF), (0xF900, 0xFDCF), (0xFDF0, 0xFFFD), (0x10000, 0xEFFFF)]

/-- The code points that a name may have after its start only. -/
def nameRestCodes : CodeRanges :=
  [(0x2D, 0x2E), (0x30, 0x39), (0xB7, 0xB7), (0x300, 0x36F), (0x203F, 0x2040)]

/-- The character may occur in a document. -/
def isAllowed (c : Char) : Bool := allowedCodes.has c

/-- The character separates the parts of a tag. -/
def isSpace (c : Char) : Bool := c == ' ' || c == '\n' || c == '\t' || c == '\r'

/-- A name without a colon may start with the character. -/
def isNameStart (c : Char) : Bool := nameStartCodes.has c

/-- A name without a colon may have the character. -/
def isNamePart (c : Char) : Bool := isNameStart c || nameRestCodes.has c

/-- A name may have the character. -/
def isNameChar (c : Char) : Bool := c == ':' || isNamePart c

/-- A name that holds no colon. -/
def isPlainName (cs : List Char) : Bool :=
  match cs with
  | c :: rest => isNameStart c && rest.all isNamePart
  | [] => false

/-- Line ends as single line feeds: a carriage return before a line feed goes. -/
def unifyLineEnds : List Char → List Char
  | '\r' :: '\n' :: cs => '\n' :: unifyLineEnds cs
  | c :: cs => c :: unifyLineEnds cs
  | [] => []

/-- A carriage return that stands alone is a line feed in text. -/
def asLineFeed (c : Char) : Char := if c = '\r' then '\n' else c

end SceneFrames.Markup
