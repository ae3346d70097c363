import SceneFrames.Text.Pieces

/-!
Paths: names between slashes, relative to the working directory or from a root. Empty names and
the name of the directory itself say nothing and are left out.
-/

namespace SceneFrames

/-- A path: the slashes it starts with, and its names. -/
structure Path where
  root : String
  parts : List String
  deriving DecidableEq, Repr

namespace Path

/-- The root that a path starts with: none, one slash, or two; more count as one. -/
def rootOf : List Char → String
  | '/' :: '/' :: '/' :: _ => "/"
  | '/' :: '/' :: _ => "//"
  | '/' :: _ => "/"
  | _ => ""

/-- The path that a text writes. -/
def ofText (text : String) : Path :=
  ⟨rootOf text.toList, (Text.piecesOf '/' text).filter fun name => name ≠ "" && name ≠ "."⟩

/-- The path as it is written. -/
def text (p : Path) : String :=
  if p.root = "" ∧ p.parts = [] then "." else p.root ++ "/".intercalate p.parts

/-- The path starts from a root. -/
def isAbsolute (p : Path) : Bool := p.root ≠ ""

/-- A relative path seen from a directory. -/
def join (directory p : Path) : Path := ⟨directory.root, directory.parts ++ p.parts⟩

end Path

end SceneFrames
