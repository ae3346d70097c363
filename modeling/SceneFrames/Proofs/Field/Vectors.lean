import SceneFrames.Proofs.Field.Numbers
import SceneFrames.Proofs.Text.Blanks

/-!
The grammar of vectors and poses, and what is said of the texts outside it.

A text is a vector of a size when it splits into as many words, each the numeral of a finite
number. Any other text has one fault: its number of words, else its first word that is no
numeral, else a number that is not finite. But for the places where the fault quotes the text,
the answer is settled by the words. A pose is a vector of six: its position, and the angles of its
turns.
-/

namespace SceneFrames

open Text Number

/-- The words are the numerals of these finite numbers, as many as asked for. -/
structure IsVector (ws : List (List Char)) (size : Int) (bs : List Binary64) : Prop where
  count : (ws.length : Int) = size
  read : ws.map readReal? = bs.map some
  finite : ∀ b ∈ bs, b.isFinite = true

/-- The fault of a text that splits into words which are no vector of the size. -/
inductive VectorFault (text : String) (size : Int) : List (List Char) → ValueFault → Prop
  | count {ws : List (List Char)} (hcount : (ws.length : Int) ≠ size) :
      VectorFault text size ws (.wrongCount size ws.length text)
  | word {before after : List (List Char)} {w : List Char}
      (hcount : ((before ++ w :: after).length : Int) = size)
      (hbefore : ∀ v ∈ before, readReal? v ≠ none) (hw : readReal? w = none) :
      VectorFault text size (before ++ w :: after) (.notReal (String.ofList w))
  | infinite {ws : List (List Char)} {bs : List Binary64} (hcount : (ws.length : Int) = size)
      (hread : ws.map readReal? = bs.map some) (hinfinite : ∃ b ∈ bs, b.isFinite = false) :
      VectorFault text size ws (.notFinite text)

/-- The fault as it stands when another text is quoted for the whole text. A word that is no
numeral is quoted for itself. -/
def ValueFault.requoted (text : String) : ValueFault → ValueFault
  | .wrongCount expected found _ => .wrongCount expected found text
  | .notFinite _ => .notFinite text
  | fault => fault

variable {text text' : String} {ws : List (List Char)} {bs : List Binary64} {size : Int}
  {fault : ValueFault}

lemma isVector_words_iff :
    IsVector (words text.toList) size bs ↔ ListsNumbers text bs ∧ (bs.length : Int) = size := by
  constructor
  · intro h
    have hnumbers : ListsNumbers text bs := ⟨h.read, h.finite⟩
    exact ⟨hnumbers, by rw [← hnumbers.length_words, h.count]⟩
  · rintro ⟨h, hsize⟩
    exact ⟨by rw [h.length_words, hsize], h.read, h.finite⟩

/-- Reading the words fails at the first one that is no numeral. -/
lemma mapM_readWord_eq_error_iff : ws.mapM readWord = .error fault ↔
    ∃ before w after, ws = before ++ w :: after ∧ (∀ v ∈ before, readReal? v ≠ none) ∧
      readReal? w = none ∧ fault = .notReal (String.ofList w) := by
  induction ws with
  | nil => simp [pure, Except.pure]
  | cons v ws ih =>
    cases hv : readReal? v with
    | none =>
      rw [List.mapM_cons, readWord, hv]
      constructor
      · intro h
        exact ⟨[], v, ws, rfl, by simp, hv, (Except.error.inj h).symm⟩
      · rintro ⟨before, w, after, hws, hbefore, hw, rfl⟩
        cases before with
        | nil => obtain ⟨rfl, -⟩ := List.cons.inj hws; rfl
        | cons u before =>
          obtain ⟨rfl, -⟩ := List.cons.inj hws
          exact absurd hv (hbefore _ List.mem_cons_self)
    | some b =>
      have hrest : (v :: ws).mapM readWord = .error fault ↔ ws.mapM readWord = .error fault := by
        rw [List.mapM_cons, readWord, hv]
        cases ws.mapM readWord <;> simp [bind, Except.bind, pure, Except.pure]
      rw [hrest, ih]
      constructor
      · rintro ⟨before, w, after, rfl, hbefore, hw, rfl⟩
        refine ⟨v :: before, w, after, rfl, ?_, hw, rfl⟩
        simpa [hv] using hbefore
      · rintro ⟨before, w, after, hws, hbefore, hw, rfl⟩
        cases before with
        | nil => obtain ⟨rfl, -⟩ := List.cons.inj hws; simp [hv] at hw
        | cons u before =>
          obtain ⟨-, rfl⟩ := List.cons.inj hws
          exact ⟨before, w, after, rfl, fun x hx => hbefore x (List.mem_cons_of_mem _ hx), hw, rfl⟩

/-- A vector is refused for the fault that its words have, and for no other. -/
lemma readVector_eq_error_iff :
    readVector text size = .error fault ↔ VectorFault text size (words text.toList) fault := by
  constructor
  · intro h
    simp only [readVector] at h
    split at h
    · rename_i hcount
      obtain rfl := Except.error.inj h
      exact .count hcount
    rename_i hcount
    rw [ne_eq, not_not] at hcount
    split at h
    · rename_i hread
      obtain rfl := Except.error.inj h
      obtain ⟨before, w, after, hws, hbefore, hw, rfl⟩ := mapM_readWord_eq_error_iff.mp hread
      rw [hws] at hcount ⊢
      exact .word hcount hbefore hw
    rename_i bs hread
    split at h
    · cases h
    · rename_i hfinite
      obtain rfl := Except.error.inj h
      exact .infinite hcount (mapM_readWord_eq_ok_iff.mp hread) (by simpa using hfinite)
  · generalize hws : words text.toList = ws
    intro h
    simp only [readVector, hws]
    cases h with
    | count hcount => rw [if_pos hcount]
    | @word before after w hcount hbefore hw =>
      have hread := mapM_readWord_eq_error_iff.mpr ⟨before, w, after, rfl, hbefore, hw, rfl⟩
      rw [if_neg (not_not.mpr hcount), hread]
    | infinite hcount hread hinfinite =>
      rw [if_neg (not_not.mpr hcount), mapM_readWord_eq_ok_iff.mpr hread]
      exact if_neg (by simpa using hinfinite)

/-- Texts with the same words are answered alike. -/
lemma readVector_of_words_eq (h : words text'.toList = words text.toList) :
    readVector text' size = (readVector text size).mapError (·.requoted text') := by
  simp only [readVector, h]
  split
  · rfl
  split
  · rename_i hread
    obtain ⟨before, w, after, -, -, -, rfl⟩ := mapM_readWord_eq_error_iff.mp hread
    rfl
  · split <;> rfl

/-- The pose of a position and of roll, pitch and yaw: the product of the turns about the fixed
axes, the first axis first. A turn has the sine of half its angle along its axis, and the cosine
beside that. -/
structure Pose.HasSix (p : Pose Float) (x y z roll pitch yaw : Float) : Prop where
  position : p.position = ⟨x, y, z⟩
  rotation : p.rotation =
    Quaternion.mul ⟨0.0, 0.0, Float.sin (yaw / (1.0 + 1.0)), Float.cos (yaw / (1.0 + 1.0))⟩
      (Quaternion.mul ⟨0.0, Float.sin (pitch / (1.0 + 1.0)), 0.0, Float.cos (pitch / (1.0 + 1.0))⟩
        ⟨Float.sin (roll / (1.0 + 1.0)), 0.0, 0.0, Float.cos (roll / (1.0 + 1.0))⟩)

lemma Pose.hasSix_iff {p : Pose Float} {x y z roll pitch yaw : Float} :
    p.HasSix x y z roll pitch yaw ↔ p = Pose.ofRollPitchYaw ⟨x, y, z⟩ ⟨roll, pitch, yaw⟩ := by
  constructor
  · rintro ⟨hposition, hrotation⟩
    exact Pose.ext hposition hrotation
  · rintro rfl
    exact ⟨rfl, rfl⟩

/-- A pose is the one of the six numbers that its text lists. -/
lemma readPose_eq_ok_iff {p : Pose Float} : readPose text = .ok p ↔
    ∃ x y z roll pitch yaw, readVector text 6 = .ok [x, y, z, roll, pitch, yaw] ∧
      p = Pose.ofRollPitchYaw ⟨x.toFloat, y.toFloat, z.toFloat⟩
        ⟨roll.toFloat, pitch.toFloat, yaw.toFloat⟩ := by
  constructor
  · intro h
    simp only [readPose] at h
    split at h
    · rename_i x y z roll pitch yaw hsix
      exact ⟨x, y, z, roll, pitch, yaw, hsix, (Except.ok.inj h).symm⟩
    · cases h
    · cases h
  · rintro ⟨x, y, z, roll, pitch, yaw, hsix, rfl⟩
    rw [readPose, hsix]

/-- A pose is refused for what six numbers are refused for. -/
lemma readPose_eq_error_iff : readPose text = .error fault ↔ readVector text 6 = .error fault := by
  cases hsix : readVector text 6 with
  | error fault' => simp [readPose, hsix]
  | ok bs =>
    have hlength := (readVector_eq_ok_iff.mp hsix).2
    match bs, hlength with
    | [x, y, z, roll, pitch, yaw], _ => simp [readPose, hsix]

/-- **The texts of vectors and poses.** A vector is read off the texts that split into as many
numerals of finite numbers as asked for; every other text is refused for the fault of its words.
The words settle the answer, so how many blanks stand between them does not matter. A pose is
read off the vectors of six, a position and then roll, pitch and yaw. -/
theorem readVector_grammar (text : String) (size : Int) :
    (∀ bs, readVector text size = .ok bs ↔
      ∃ ws, SplitsInto text.toList ws ∧ IsVector ws size bs) ∧
    (∀ fault, readVector text size = .error fault ↔
      ∃ ws, SplitsInto text.toList ws ∧ VectorFault text size ws fault) ∧
    (∀ text' ws, SplitsInto text.toList ws → SplitsInto text'.toList ws →
      readVector text' size = (readVector text size).mapError (·.requoted text')) ∧
    (∀ text', Reblanked text.toList text'.toList →
      readVector text' size = (readVector text size).mapError (·.requoted text')) ∧
    (∀ p, readPose text = .ok p ↔
      ∃ x y z roll pitch yaw, readVector text 6 = .ok [x, y, z, roll, pitch, yaw] ∧
        p.HasSix x.toFloat y.toFloat z.toFloat roll.toFloat pitch.toFloat yaw.toFloat) ∧
    (∀ fault, readPose text = .error fault ↔ readVector text 6 = .error fault) := by
  refine ⟨fun bs => ?_, fun fault => ?_, fun text' ws h h' => ?_, fun text' h => ?_,
    fun p => ?_, fun fault => readPose_eq_error_iff⟩
  · simp only [splitsInto_iff, exists_eq_left', isVector_words_iff]
    exact readVector_eq_ok_iff
  · simp only [splitsInto_iff, exists_eq_left']
    exact readVector_eq_error_iff
  · rw [splitsInto_iff] at h h'
    exact readVector_of_words_eq (h'.trans h.symm)
  · exact readVector_of_words_eq h.words_eq.symm
  · simp only [Pose.hasSix_iff]
    exact readPose_eq_ok_iff

/-- Two numbers with one blank between them, or with more between and around them. -/
theorem readVector_grammar_two_numbers :
    (SplitsInto "1 2".toList [['1'], ['2']] ∧ SplitsInto " 1\t 2\n".toList [['1'], ['2']] ∧
      readVector " 1\t 2\n" 3 = (readVector "1 2" 3).mapError (·.requoted " 1\t 2\n")) ∧
    Reblanked "1 2".toList "1\t 2".toList ∧
      readVector "1\t 2" 3 = (readVector "1 2" 3).mapError (·.requoted "1\t 2") := by
  have hone : SplitsInto "1 2".toList [['1'], ['2']] := splitsInto_iff.mpr (by decide)
  have hmany : SplitsInto " 1\t 2\n".toList [['1'], ['2']] := splitsInto_iff.mpr (by decide)
  have hgap : Reblanked "1 2".toList "1\t 2".toList :=
    have hspace : AllBlank [' '] := by decide
    have htab : AllBlank ['\t', ' '] := by decide
    .between ['1'] hspace htab (by simp) (by simp) ['2']
  exact ⟨⟨hone, hmany, (readVector_grammar "1 2" 3).2.2.1 _ _ hone hmany⟩, hgap,
    (readVector_grammar "1 2" 3).2.2.2.1 _ hgap⟩

end SceneFrames
