import SceneFrames.Markup.Scan

/-!
References: what an ampersand starts. A reference stands for one character, by its code point or
by one of five names, or else for the text of an entity.
-/

namespace SceneFrames.Markup

/-- What a reference stands for. -/
inductive Reference
  | character (c : Char)
  | entity (name : String)
  deriving DecidableEq, Repr

/-- The five names that stand for a character in every document. -/
def predefined? : String → Option Char
  | "lt" => some '<'
  | "gt" => some '>'
  | "amp" => some '&'
  | "apos" => some '\''
  | "quot" => some '"'
  | _ => none

/-- The value of a digit in a base up to sixteen. -/
def baseDigit? (base : Nat) (c : Char) : Option Nat :=
  let v :=
    if '0' ≤ c ∧ c ≤ '9' then c.toNat - 48
    else if 'a' ≤ c ∧ c ≤ 'f' then c.toNat - 87
    else if 'A' ≤ c ∧ c ≤ 'F' then c.toNat - 55
    else base
  if v < base then some v else none

/-- The character of a code point in a base, if it may occur in a document. -/
def codedCharacter? (base : Nat) (digits : List Char) : Option Char := do
  let ds ← digits.mapM (baseDigit? base)
  let code := ds.foldl (fun v d => base * v + d) 0
  guard (code.isValidChar ∧ isAllowed (Char.ofNat code))
  return Char.ofNat code

namespace Scan

/-- Takes the code point of a character reference and the semicolon. -/
def characterCode : Scan Char := do
  let base := if ← accept "x" then 16 else 10
  match codedCharacter? base (← before ";") with
  | some c => return c
  | none => failure

/-- Takes a name and a semicolon. -/
def entityName : Scan String := do
  let n ← name
  expect ";"
  return n

/-- Takes what follows the ampersand of a reference. -/
def reference : Scan Reference := do
  if ← accept "#" then return .character (← characterCode)
  let n ← entityName
  match predefined? n with
  | some c => return .character c
  | none => return .entity n

end Scan

end SceneFrames.Markup
