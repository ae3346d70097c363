import SceneFrames.Markup.Character

/-!
Scans: readers that take characters from the front of a text and fail on the first departure
from the grammar. A scan counts lines, and notes the departures that do not make it fail:
remarks, and faults. A document whose last note is a fault is refused all the same.
-/

namespace SceneFrames.Markup

/-- What a scan knows: the text that is left, the length of the whole text, the line, whether
the last note is a fault, how much entities may still expand to, and the identifiers and the
entities met. -/
structure ScanState where
  rest : List Char
  size : Nat := rest.length
  line : Nat := 1
  faulty : Bool := false
  allowance : Nat := 0
  identifiers : List String := []
  expanded : List String := []

/-- A reader of the front of a text. -/
abbrev Scan := StateT ScanState Option

/-- The most bytes that a name may have. -/
def nameLimit : Nat := 50000

/-- The text before the first occurrence of a word, and the text after it. -/
def splitAtWord (word : List Char) : List Char → List Char → Option (List Char × List Char)
  | passed, [] => if word.isEmpty then some (passed.reverse, []) else none
  | passed, c :: cs =>
    match word.isPrefixOf? (c :: cs) with
    | some after => some (passed.reverse, after)
    | none => splitAtWord word (c :: passed) cs

namespace Scan

variable {α σ : Type}

/-- Notes a departure that does no harm. -/
def remark : Scan Unit := modify fun s => { s with faulty := false }

/-- Notes a departure that makes the document be refused unless a remark follows. -/
def fault : Scan Unit := modify fun s => { s with faulty := true }

/-- Notes a fault if a condition holds. -/
def faultIf (b : Bool) : Scan Unit := if b then fault else pure ()

/-- Fails unless a condition holds. -/
def require (b : Bool) : Scan Unit := if b then pure () else failure

/-- The text that is left. -/
def rest : Scan (List Char) := return (← get).rest

/-- Moves past characters. -/
def moveTo (taken rest : List Char) : Scan Unit :=
  modify fun s => { s with rest := rest, line := s.line + taken.count '\n' }

/-- Takes one character. -/
def next : Scan Char := do
  match ← rest with
  | c :: cs => moveTo [c] cs; return c
  | [] => failure

/-- Takes the characters of a class. -/
def takeWhile (p : Char → Bool) : Scan (List Char) := do
  let cs ← rest
  let taken := cs.takeWhile p
  moveTo taken (cs.dropWhile p)
  return taken

/-- Takes a word if the text starts with it. -/
def accept (word : String) : Scan Bool := do
  match word.toList.isPrefixOf? (← rest) with
  | some after => moveTo word.toList after; return true
  | none => return false

/-- Takes a word. -/
def expect (word : String) : Scan Unit := do require (← accept word)

/-- The text starts with a word. -/
def looksAt (word : String) : Scan Bool := return word.toList.isPrefixOf (← rest)

/-- Takes the text before a word, and the word. -/
def before (word : String) : Scan (List Char) := do
  match splitAtWord word.toList [] (← rest) with
  | some (taken, after) => moveTo (taken ++ word.toList) after; return taken
  | none => failure

/-- Takes spaces. -/
def spaces : Scan Unit := do let _ ← takeWhile isSpace

/-- Takes spaces, of which there is at least one. -/
def someSpaces : Scan Unit := do require !(← takeWhile isSpace).isEmpty

/-- Takes a word of name characters. -/
def token : Scan String := do
  let cs ← takeWhile isNameChar
  require !cs.isEmpty
  return String.ofList cs

/-- Takes a name, colons included. -/
def name : Scan String := do
  match ← rest with
  | c :: _ =>
    require (c == ':' || isNameStart c)
    let n ← token
    require (n.utf8ByteSize ≤ nameLimit)
    return n
  | [] => failure

/-- Takes an equals sign and the spaces around it. -/
def equals : Scan Unit := do
  spaces
  expect "="
  spaces

/-- Takes a text in quotes of either kind. -/
def quotedText : Scan (List Char) := do
  match ← next with
  | '"' => before "\""
  | '\'' => before "'"
  | _ => failure

/-- Repeats a step until it is done, as often as the fuel allows. -/
def repeatFor (step : σ → Scan (ForInStep σ)) : Nat → σ → Scan σ
  | 0, _ => failure
  | fuel + 1, a => do
    match ← step a with
    | .done b => return b
    | .yield b => repeatFor step fuel b

/-- Repeats a step until it is done. A step that is not the last takes a character at least, so
the length of the whole text is fuel enough. -/
def loop (step : σ → Scan (ForInStep σ)) (a : σ) : Scan σ := do
  repeatFor step ((← get).size + 1) a

/-- Reads a text of its own to its end, and comes back. -/
def within (text : List Char) (scan : Scan α) : Scan α := do
  let outer ← get
  set { outer with rest := text, size := text.length, line := 1 }
  let a ← scan
  require (← rest).isEmpty
  modify fun s => { s with rest := outer.rest, size := outer.size, line := outer.line }
  return a

/-- What a scan finds from a state, unless its last note is a fault. -/
def outcome? (scan : Scan α) (s : ScanState) : Option α :=
  (scan.run s).bind fun found => if found.2.faulty then none else some found.1

/-- Takes from what entities may expand to. -/
def spend (n : Nat) : Scan Unit := do
  let s ← get
  require (n ≤ s.allowance)
  set { s with allowance := s.allowance - n }

end Scan

end SceneFrames.Markup
