import SceneFrames.Proofs.Field.Vectors
import SceneFrames.Proofs.Number.Numerals

/-!
The texts of each kind of field.

A text, a number and a flag are what stands between the blanks at the ends of the text, the whole
of it. A vector and a pose are the words of the text, all of them, and a word is a number if it is
written as a real number is. A text that is no value of the kind is refused, and what is said of it
is settled: for a whole number that there are too many digits, if the text begins with these, and
that it is none otherwise; for the other kinds what the text or its words are not.
-/

namespace SceneFrames

open Text Number

/-- The words for a flag, in letters of any case, and the digits for it. -/
inductive SpellsFlag : List Char → Bool → Prop
  | trueWord {w : List Char} (hw : w.map Char.toLower = "true".toList) : SpellsFlag w true
  | trueDigit : SpellsFlag ['1'] true
  | falseWord {w : List Char} (hw : w.map Char.toLower = "false".toList) : SpellsFlag w false
  | falseDigit : SpellsFlag ['0'] false

/-- What is said of a text that is no whole number. -/
inductive IntegerFaulty (w : List Char) : ValueFault → Prop
  | tooLong {digits : Nat} (h : BeginsTooLong w digits) : IntegerFaulty w (.integerTooLong digits)
  | malformed (hfits : ∀ digits, ¬ BeginsTooLong w digits) (hnone : ∀ n, ¬ WritesInteger w n) :
      IntegerFaulty w (.notInteger (String.ofList w))

namespace FieldKind

/-- What the whole of a text says as a value of a kind. -/
def Denotes : (k : FieldKind) → String → k.Value → Prop
  | text, s, v => IsCore s.toList v.toList
  | integer, s, n => ∃ w, IsCore s.toList w ∧ WritesInteger w n
  | real, s, b => ∃ w, IsCore s.toList w ∧ WritesReal w b
  | flag, s, b => ∃ w, IsCore s.toList w ∧ SpellsFlag w b
  | pose, s, p => ∃ ws, SplitsInto s.toList ws ∧ ∃ x y z roll pitch yaw,
      IsVector ws 6 [x, y, z, roll, pitch, yaw] ∧
        p = Pose.ofRollPitchYaw ⟨x.toFloat, y.toFloat, z.toFloat⟩
          ⟨roll.toFloat, pitch.toFloat, yaw.toFloat⟩
  | vector, s, v => ∃ ws, SplitsInto s.toList ws ∧ ∃ x y z,
      IsVector ws 3 [x, y, z] ∧ v = ⟨x.toFloat, y.toFloat, z.toFloat⟩

/-- What is said of a text that is no value of a kind. Every text is a text. -/
def Refuses : FieldKind → String → ValueFault → Prop
  | text, _, _ => False
  | integer, s, fault => ∃ w, IsCore s.toList w ∧ IntegerFaulty w fault
  | real, s, fault => ∃ w, IsCore s.toList w ∧ (∀ b, ¬ WritesReal w b) ∧
      fault = .notReal (String.ofList w)
  | flag, s, fault => ∃ w, IsCore s.toList w ∧ (∀ b, ¬ SpellsFlag w b) ∧
      fault = .notFlag (lowered (String.ofList w))
  | pose, s, fault => ∃ ws, SplitsInto s.toList ws ∧ VectorFault s 6 ws fault
  | vector, s, fault => ∃ ws, SplitsInto s.toList ws ∧ VectorFault s 3 ws fault

end FieldKind

variable {s : String} {w : List Char} {fault : ValueFault} {b : Bool}

/-! ### Whole numbers and flags -/

lemma readIntegerField_eq_ok_iff {n : Int} :
    readIntegerField s = .ok n ↔ WritesInteger (trim s.toList) n := by
  rw [← readInteger_eq_ok_iff, readIntegerField]
  rcases readInteger (trim s.toList) with (_ | _) | _ <;> simp

lemma readIntegerField_eq_error_iff :
    readIntegerField s = .error fault ↔ IntegerFaulty (trim s.toList) fault := by
  simp only [readIntegerField, trimmed]
  generalize trim s.toList = w
  have hlong (digits : Nat) : readInteger w = .error (.tooLong digits) ↔ BeginsTooLong w digits :=
    readInteger_eq_tooLong_iff
  have hnone (n : Int) : readInteger w = .ok n ↔ WritesInteger w n := readInteger_eq_ok_iff
  constructor
  · intro h
    rcases hread : readInteger w with (_ | digits) | n
    · rw [hread] at h
      obtain rfl := Except.error.inj h
      exact .malformed (fun digits hd => by simp [(hlong digits).mpr hd] at hread)
        fun n hn => by simp [(hnone n).mpr hn] at hread
    · rw [hread] at h
      obtain rfl := Except.error.inj h
      exact .tooLong ((hlong digits).mp hread)
    · rw [hread] at h
      cases h
  · rintro (hd | ⟨hfits, hno⟩)
    · rw [(hlong _).mpr hd]
    · rcases hread : readInteger w with (_ | digits) | n
      · rfl
      · exact absurd ((hlong digits).mp hread) (hfits digits)
      · exact absurd ((hnone n).mp hread) (hno n)

/-- The words for a flag are spelled in ASCII, whatever letters there are elsewhere. -/
lemma lowered_eq_iff {x : String} (hx : ∀ c ∈ x.toList, c.toNat < 0x80 ∧ c ≠ 'i' ∧ c ≠ 'k') :
    lowered (String.ofList w) = x ↔ w.map Char.toLower = x.toList := by
  have hlower : lowerAfter [] w = x.toList ↔ w.map Char.toLower = x.toList := lowerAfter_eq_iff hx
  rw [lowered, String.toList_ofList, ← hlower]
  constructor
  · rintro rfl
    exact String.toList_ofList.symm
  · intro h
    rw [h, String.ofList_toList]

/-- A digit is the lower case of itself only. -/
lemma toLower_eq_digit_iff {c d : Char} (hd : isPlainDigit d = true) : c.toLower = d ↔ c = d := by
  have hself (c : Char) : isPlainDigit c = true ∨ isPlainDigit c.toLower = true →
      c.toLower = c := by
    by_cases hc : c.toNat < 0x80
    · refine forall_ascii (P := fun c => isPlainDigit c = true ∨ isPlainDigit c.toLower = true →
        c.toLower = c) ?_ hc
      decide +kernel
    · exact fun _ => toLower_of_not_ascii (Nat.not_lt.mp hc)
  constructor
  · rintro rfl
    exact (hself c (.inr hd)).symm
  · rintro rfl
    exact hself c (.inl hd)

lemma map_toLower_eq_digit_iff {d : Char} (hd : isPlainDigit d = true) :
    w.map Char.toLower = [d] ↔ w = [d] := by
  match w with
  | [] => simp
  | [c] => simp [toLower_eq_digit_iff hd]
  | c :: c' :: w => simp

/-- The lower case of a text is one of the words for a flag just if the text spells that flag. -/
lemma spellsFlag_iff : SpellsFlag w b ↔
    lowered (String.ofList w) = (if b then "true" else "false") ∨
      lowered (String.ofList w) = if b then "1" else "0" := by
  have hone : w.map Char.toLower = "1".toList ↔ w = ['1'] := map_toLower_eq_digit_iff rfl
  have hzero : w.map Char.toLower = "0".toList ↔ w = ['0'] := map_toLower_eq_digit_iff rfl
  cases b with
  | true =>
    rw [if_pos rfl, if_pos rfl, lowered_eq_iff (by simp), lowered_eq_iff (by simp), hone]
    constructor
    · intro h
      cases h with
      | trueWord hw => exact .inl hw
      | trueDigit => exact .inr rfl
    · rintro (hw | rfl)
      · exact .trueWord hw
      · exact .trueDigit
  | false =>
    rw [if_neg Bool.false_ne_true, if_neg Bool.false_ne_true, lowered_eq_iff (by simp),
      lowered_eq_iff (by simp), hzero]
    constructor
    · intro h
      cases h with
      | falseWord hw => exact .inl hw
      | falseDigit => exact .inr rfl
    · rintro (hw | rfl)
      · exact .falseWord hw
      · exact .falseDigit

lemma readFlag_eq_ok_iff : readFlag s = .ok b ↔ SpellsFlag (trim s.toList) b := by
  rw [spellsFlag_iff, ← trimmed]
  simp only [readFlag]
  generalize lowered (trimmed s) = word
  by_cases htrue : word = "true" ∨ word = "1"
  · rcases htrue with rfl | rfl <;> cases b <;> simp
  by_cases hfalse : word = "false" ∨ word = "0"
  · rcases hfalse with rfl | rfl <;> cases b <;> simp
  · cases b <;> simp [htrue, hfalse]

lemma readFlag_eq_error_iff : readFlag s = .error fault ↔
    (∀ b, ¬ SpellsFlag (trim s.toList) b) ∧
      fault = .notFlag (lowered (String.ofList (trim s.toList))) := by
  have hfault (fault : ValueFault) (h : readFlag s = .error fault) :
      fault = .notFlag (lowered (String.ofList (trim s.toList))) := by
    simp only [readFlag] at h
    split_ifs at h
    exact (Except.error.inj h).symm
  constructor
  · intro h
    refine ⟨fun b hb => ?_, hfault fault h⟩
    rw [readFlag_eq_ok_iff.mpr hb] at h
    cases h
  · rintro ⟨hnone, rfl⟩
    cases hread : readFlag s with
    | ok b => exact absurd (readFlag_eq_ok_iff.mp hread) (hnone b)
    | error fault => rw [hfault fault hread]

/-! ### Numbers -/

lemma readWord_eq_ok_iff {b : Binary64} : readWord w = .ok b ↔ WritesReal w b := by
  rw [← readReal?_eq_some_iff, readWord]
  cases readReal? w <;> simp

lemma readWord_eq_error_iff : readWord w = .error fault ↔
    (∀ b, ¬ WritesReal w b) ∧ fault = .notReal (String.ofList w) := by
  simp only [← readReal?_eq_some_iff, readWord]
  cases readReal? w <;> simp [eq_comm]

lemma readTriple_eq_error_iff :
    readTriple s = .error fault ↔ readVector s 3 = .error fault := by
  cases hthree : readVector s 3 with
  | error fault' => simp [readTriple, hthree]
  | ok bs =>
    have hlength := (readVector_eq_ok_iff.mp hthree).2
    match bs, hlength with
    | [x, y, z], _ => simp [readTriple, hthree]

/-! ### All kinds -/

/-- What is said of what stands between the blanks of a text is said of the trimmed text. -/
lemma exists_isCore_iff {cs : List Char} {p : List Char → Prop} :
    (∃ w, IsCore cs w ∧ p w) ↔ p (trim cs) := by
  simp only [← trim_eq_iff, exists_eq_left']

lemma exists_splitsInto_iff {cs : List Char} {p : List (List Char) → Prop} :
    (∃ ws, SplitsInto cs ws ∧ p ws) ↔ p (words cs) := by
  simp only [splitsInto_iff, exists_eq_left']

namespace FieldKind

/-- **A text is read** as the value that the whole of it says. -/
theorem read_eq_ok_iff {k : FieldKind} {v : k.Value} : k.read s = .ok v ↔ k.Denotes s v := by
  cases k with
  | text =>
    rw [Denotes, ← trim_eq_iff, read, Except.ok.injEq, trimmed]
    constructor
    · rintro rfl
      exact String.toList_ofList.symm
    · intro h
      rw [h, String.ofList_toList]
  | integer => rw [Denotes, exists_isCore_iff, read, readIntegerField_eq_ok_iff]
  | real => rw [Denotes, exists_isCore_iff, read, readWord_eq_ok_iff]
  | flag => rw [Denotes, exists_isCore_iff, read, readFlag_eq_ok_iff]
  | pose =>
    simp only [Denotes, exists_splitsInto_iff, read, readPose_eq_ok_iff, readVector_eq_ok_iff,
      isVector_words_iff]
  | vector =>
    rw [Denotes, exists_splitsInto_iff, read, readTriple_eq_ok_iff]
    simp [isVector_words_iff]

/-- **A text is refused** for what it is not. -/
theorem read_eq_error_iff {k : FieldKind} : k.read s = .error fault ↔ k.Refuses s fault := by
  cases k with
  | text => simp [Refuses, read]
  | integer => rw [Refuses, exists_isCore_iff, read, readIntegerField_eq_error_iff]
  | real => rw [Refuses, exists_isCore_iff, read, readWord_eq_error_iff]
  | flag => rw [Refuses, exists_isCore_iff, read, readFlag_eq_error_iff]
  | pose =>
    rw [Refuses, exists_splitsInto_iff, read, readPose_eq_error_iff, readVector_eq_error_iff]
  | vector =>
    rw [Refuses, exists_splitsInto_iff, read, readTriple_eq_error_iff, readVector_eq_error_iff]

end FieldKind

end SceneFrames
