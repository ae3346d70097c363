/-!
Blank characters, and what follows from them: a text without its outer blanks, and the
maximal blank-free stretches of a text.
-/

namespace SceneFrames.Text

/-- The blank characters beyond the ASCII controls and the space. -/
def wideBlanks : List Nat :=
  [0x85, 0xA0, 0x1680, 0x2000, 0x2001, 0x2002, 0x2003, 0x2004, 0x2005, 0x2006, 0x2007, 0x2008,
   0x2009, 0x200A, 0x2028, 0x2029, 0x202F, 0x205F, 0x3000]

/-- Blank: a separator between words, in any script. -/
def isBlank (c : Char) : Bool :=
  (0x09 ≤ c.toNat && c.toNat ≤ 0x0D) || (0x1C ≤ c.toNat && c.toNat ≤ 0x20) ||
    wideBlanks.contains c.toNat

/-- The text without its leading blanks. -/
def trimLeft (cs : List Char) : List Char := cs.dropWhile isBlank

/-- The text without its leading and trailing blanks. -/
def trim (cs : List Char) : List Char := (trimLeft (trimLeft cs).reverse).reverse

/-- A text without its leading and trailing blanks. -/
def trimmed (s : String) : String := String.ofList (trim s.toList)

/-- One more word in front, unless it has no letters. -/
def consWord (w : List Char) (ws : List (List Char)) : List (List Char) :=
  if w.isEmpty then ws else w :: ws

/-- What the words of a text become when a character is put in front: the stretch that is
still open, and the finished words after it. -/
def wordStep (c : Char) (st : List Char × List (List Char)) : List Char × List (List Char) :=
  if isBlank c then ([], consWord st.1 st.2) else (c :: st.1, st.2)

/-- The maximal blank-free stretches of a text, in order. -/
def words (cs : List Char) : List (List Char) :=
  let st := cs.foldr wordStep ([], [])
  consWord st.1 st.2

@[simp] theorem words_nil : words [] = [] := rfl

theorem words_cons_blank {c : Char} (h : isBlank c = true) (cs : List Char) :
    words (c :: cs) = words cs := by
  simp [words, wordStep, h, consWord]

theorem isBlank_of_isWhitespace {c : Char} (h : c.isWhitespace = true) : isBlank c = true := by
  simp only [Char.isWhitespace, Bool.or_eq_true, decide_eq_true_eq] at h
  rcases h with ((rfl | rfl) | rfl) | rfl <;> decide

end SceneFrames.Text
