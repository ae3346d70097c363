import SceneFrames.Field.Kind
import Mathlib.Data.List.Basic

/-!
What the texts of vectors, poses and flags look like.

A text lists numbers when its words are the numerals of finite numbers, one by one. Vectors are
read off the texts that list as many numbers as asked for, and off no others; so are poses off
six numbers, and the triples of a direction or of gravity off three.
-/

namespace SceneFrames

open Text Number

/-- The words of a text are numerals, of these finite numbers in order. -/
structure ListsNumbers (text : String) (bs : List Binary64) : Prop where
  read : (words text.toList).map readReal? = bs.map some
  finite : ∀ b ∈ bs, b.isFinite = true

/-- A text says that something holds or does not hold. -/
def IsFlag (text : String) : Prop := lowered (trimmed text) ∈ ["true", "1", "false", "0"]

variable {text : String} {ws : List (List Char)} {bs : List Binary64} {size : Int}

/-- All words are read exactly when each of them is a numeral. -/
lemma mapM_readWord_eq_ok_iff : ws.mapM readWord = .ok bs ↔ ws.map readReal? = bs.map some := by
  induction ws generalizing bs with
  | nil => cases bs <;> simp [pure, Except.pure]
  | cons w ws ih =>
    rw [List.mapM_cons, List.map_cons, readWord]
    cases hw : readReal? w with
    | none => cases bs <;> simp [bind, Except.bind]
    | some b =>
      cases hws : ws.mapM readWord with
      | error fault => cases bs <;> simp [bind, Except.bind, ← ih, hws]
      | ok cs => cases bs <;> simp [bind, Except.bind, pure, Except.pure, ← ih, hws]

/-- The words that list numbers are as many as the numbers. -/
lemma ListsNumbers.length_words (h : ListsNumbers text bs) :
    (words text.toList).length = bs.length := by
  simpa using congrArg List.length h.read

/-- **A vector is read** off the texts that list as many finite numbers as it has. -/
theorem readVector_eq_ok_iff :
    readVector text size = .ok bs ↔ ListsNumbers text bs ∧ (bs.length : Int) = size := by
  simp only [readVector]
  split
  · rename_i hcount
    refine iff_of_false (by simp) fun h => hcount ?_
    rw [h.1.length_words, h.2]
  rename_i hcount
  rw [ne_eq, not_not] at hcount
  cases hread : (words text.toList).mapM readWord with
  | error fault =>
    refine iff_of_false (by simp) fun h => ?_
    rw [mapM_readWord_eq_ok_iff.mpr h.1.read] at hread
    simp at hread
  | ok cs =>
    have hcs := mapM_readWord_eq_ok_iff.mp hread
    have hunique (h : ListsNumbers text bs) : cs = bs :=
      List.map_injective_iff.mpr (fun _ _ => Option.some.inj) (hcs.symm.trans h.read)
    simp only
    split
    · rename_i hfinite
      rw [Except.ok.injEq]
      refine ⟨?_, fun h => hunique h.1⟩
      rintro rfl
      have h : ListsNumbers text cs := ⟨hcs, by simpa using hfinite⟩
      exact ⟨h, by rw [← h.length_words, hcount]⟩
    · rename_i hfinite
      refine iff_of_false (by simp) fun h => hfinite ?_
      rw [hunique h.1]
      simpa using h.1.finite

/-- A pose is read off the texts that list six numbers. -/
lemma exists_readPose_iff :
    (∃ p, readPose text = .ok p) ↔ ∃ bs, ListsNumbers text bs ∧ bs.length = 6 := by
  unfold readPose
  constructor
  · rintro ⟨p, hp⟩
    split at hp
    · rename_i hsix
      exact ⟨_, (readVector_eq_ok_iff.mp hsix).1, rfl⟩
    · simp at hp
    · simp at hp
  · rintro ⟨bs, h, hlength⟩
    match bs, hlength with
    | [x, y, z, roll, pitch, yaw], _ =>
      have hsix : readVector text 6 = .ok [x, y, z, roll, pitch, yaw] :=
        readVector_eq_ok_iff.mpr ⟨h, rfl⟩
      rw [hsix]
      exact ⟨_, rfl⟩

/-- A triple is read off the texts that list three numbers, and is made of these. -/
lemma readTriple_eq_ok_iff {v : Vec3 Float} : readTriple text = .ok v ↔
    ∃ x y z, ListsNumbers text [x, y, z] ∧ v = ⟨x.toFloat, y.toFloat, z.toFloat⟩ := by
  unfold readTriple
  constructor
  · intro hv
    split at hv
    · rename_i x y z hthree
      exact ⟨x, y, z, (readVector_eq_ok_iff.mp hthree).1, (Except.ok.inj hv).symm⟩
    · simp at hv
    · simp at hv
  · rintro ⟨x, y, z, h, rfl⟩
    have hthree : readVector text 3 = .ok [x, y, z] := readVector_eq_ok_iff.mpr ⟨h, rfl⟩
    rw [hthree]

/-- A flag is read off the texts that say it. -/
lemma exists_readFlag_iff : (∃ b, readFlag text = .ok b) ↔ IsFlag text := by
  simp only [readFlag, IsFlag]
  by_cases htrue : lowered (trimmed text) = "true" ∨ lowered (trimmed text) = "1"
  · rcases htrue with h | h <;> simp [h]
  by_cases hfalse : lowered (trimmed text) = "false" ∨ lowered (trimmed text) = "0"
  · rcases hfalse with h | h <;> simp [h]
  · simp_all

end SceneFrames
