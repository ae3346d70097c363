/-!
Pieces: what stands between the separators of a text. There is one piece more than there are
separators, and writing the pieces with separators between them gives the text again.
-/

namespace SceneFrames.Text

/-- The pieces of a character in front of a text with the given pieces. -/
def consPiece (separator c : Char) : List (List Char) → List (List Char)
  | [] => if c = separator then [[], []] else [[c]]
  | piece :: more => if c = separator then [] :: piece :: more else (c :: piece) :: more

/-- The stretches of a text between separators. -/
def pieces (separator : Char) (cs : List Char) : List (List Char) :=
  cs.foldr (consPiece separator) [[]]

/-- The stretches of a text between separators. -/
def piecesOf (separator : Char) (s : String) : List String :=
  (pieces separator s.toList).map String.ofList

@[simp] theorem pieces_nil (separator : Char) : pieces separator [] = [[]] := rfl

theorem pieces_cons (separator c : Char) (cs : List Char) :
    pieces separator (c :: cs) = consPiece separator c (pieces separator cs) := rfl

theorem length_pieces (separator : Char) (cs : List Char) :
    (pieces separator cs).length = cs.count separator + 1 := by
  induction cs with
  | nil => rfl
  | cons c cs ih =>
    rw [pieces_cons]
    cases h : pieces separator cs with
    | nil => simp [h] at ih
    | cons piece more =>
      rw [h] at ih
      by_cases hc : c = separator <;> simp [consPiece, hc, ← ih]

theorem intercalate_pieces (separator : Char) (cs : List Char) :
    List.intercalate [separator] (pieces separator cs) = cs := by
  induction cs with
  | nil => rfl
  | cons c cs ih =>
    rw [pieces_cons]
    have hne : pieces separator cs ≠ [] := fun h => by
      have := length_pieces separator cs
      simp [h] at this
    obtain ⟨piece, more, h⟩ := List.exists_cons_of_ne_nil hne
    rw [h] at ih ⊢
    by_cases hc : c = separator
    · cases more <;> simp_all [consPiece, List.intercalate]
    · cases more <;> simp_all [consPiece, List.intercalate]

end SceneFrames.Text
