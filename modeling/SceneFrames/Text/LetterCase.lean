import SceneFrames.Text.LetterCase.Table

/-!
Lower case and capitals for texts of any script. A capital sigma becomes the final form at the
end of a word; some capitals are several characters.
-/

namespace SceneFrames.Text

open LetterCase

/-- The image of a character under the runs, or the character itself. -/
def mapByRuns (runs : List (Nat × Nat × Nat × Int)) (c : Char) : Char :=
  ((runs.findSome? fun q => (Run.ofQuadruple q).map? c.toNat).map Char.ofNat).getD c

/-- The title-case form of a character. -/
def titleChar (c : Char) : List Char :=
  match titleExpansions.find? (·.1 == c.toNat) with
  | some (_, image) => image.map Char.ofNat
  | none => [mapByRuns titleRuns c]

/-- The lower-case form of a character that is no capital sigma. -/
def lowerChar (c : Char) : List Char :=
  if c.toNat = 0x130 then ['i', Char.ofNat 0x307] else [mapByRuns lowerRuns c]

/-- The nearest character that is not passed over bears case. -/
def meetsCased (cs : List Char) : Bool :=
  match cs.dropWhile ignorableRanges.has with
  | c :: _ => casedRanges.has c
  | [] => false

/-- The lower-case form of a capital sigma between what stands before it, nearest first, and
what stands after it. -/
def lowerSigma (before after : List Char) : Char :=
  if meetsCased before && !meetsCased after then 'ς' else 'σ'

/-- The lower-case form of a text that comes after the characters `before`, nearest first. -/
def lowerAfter (before : List Char) : List Char → List Char
  | [] => []
  | c :: cs =>
    (if c = 'Σ' then [lowerSigma before cs] else lowerChar c) ++ lowerAfter (c :: before) cs

/-- A text in lower case. -/
def lowered (s : String) : String := String.ofList (lowerAfter [] s.toList)

/-- A text whose first character is a capital and whose others are in lower case. -/
def capitalized (s : String) : String :=
  match s.toList with
  | [] => ""
  | c :: cs => String.ofList (titleChar c ++ lowerAfter [c] cs)

end SceneFrames.Text
