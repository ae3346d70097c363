import SceneFrames.Proofs.Number.Integers

/-!
How real numbers are written.

A real number is a sign, which may be missing, and a word in letters of any case or a decimal
number: digits before and after a point, of which one part may be missing, and a power of ten,
which may be missing too. Its underscores are removed before its parts are told apart. No part can
end or begin with an underscore, so each of them has its own underscores between its digits.
-/

namespace SceneFrames.Number

open SceneFrames.Text

variable {c x : Char} {cs a b whole part tail digits rest r w : List Char} {ds fs : List Nat}
  {negative : Bool} {n : Numeral} {e : Int}

/-- The digits after a point, where there is one. -/
inductive WritesFraction : List Char → List Nat → Prop
  | missing : WritesFraction [] []
  | point {digits : List Char} {ds : List Nat} (hd : WritesDigits digits ds) :
      WritesFraction ('.' :: digits) ds

/-- A power of ten that may be missing. -/
inductive WritesExponent : List Char → Int → Prop
  | missing : WritesExponent [] 0
  | mark {m : Char} {sign digits : List Char} {negative : Bool} {ds : List Nat}
      (hm : m = 'e' ∨ m = 'E') (hs : WritesSign sign negative) (hd : WritesDigits digits ds)
      (hsome : ds ≠ []) : WritesExponent (m :: (sign ++ digits)) (signed negative (digitsValue ds))

/-- A real number as it is written after its sign. -/
inductive WritesUnsigned (negative : Bool) : List Char → Numeral → Prop
  | infinite {w : List Char}
      (hw : w.map Char.toLower = "inf".toList ∨ w.map Char.toLower = "infinity".toList) :
      WritesUnsigned negative w (.infinite negative)
  | notANumber {w : List Char} (hw : w.map Char.toLower = "nan".toList) :
      WritesUnsigned negative w (.notANumber negative)
  | decimal {whole part tail : List Char} {ds fs : List Nat} {e : Int} (hw : WritesDigits whole ds)
      (hp : WritesFraction part fs) (hsome : ds ≠ [] ∨ fs ≠ []) (he : WritesExponent tail e) :
      WritesUnsigned negative (whole ++ (part ++ tail))
        (.finite negative (ds ++ fs) (e - fs.length))

/-- A real number as it is written. -/
inductive WritesNumeral : List Char → Numeral → Prop
  | mk {sign cs : List Char} {negative : Bool} {n : Numeral} (hs : WritesSign sign negative)
      (hu : WritesUnsigned negative cs n) : WritesNumeral (sign ++ cs) n

/-! ### Legible texts -/

/-- A text of characters in ASCII and of digits, with underscores between digits. -/
structure IsLegible (cs : List Char) : Prop where
  plainly : ∀ c ∈ cs, plainChar? c = some (plain c)
  parted : PartsDigits cs

lemma IsLegible.nil : IsLegible [] where
  plainly := by simp
  parted := partsDigits_nil

/-- A character in ASCII that is no part of digits. -/
structure IsMark (x : Char) : Prop where
  ascii : x.toNat < 0x80
  digit : isPlainDigit x = false
  underscore : x ≠ '_'

lemma IsMark.plain_eq (hx : IsMark x) : plain x = x := by
  rw [plain, plainChar?_of_ascii hx.ascii, Option.getD_some]

lemma IsMark.not_inDigits (hx : IsMark x) : ¬ InDigits x := by
  rw [InDigits, isDigit_iff, hx.plain_eq, hx.digit]
  simp [hx.underscore]

lemma isMark_sign (hx : x = '+' ∨ x = '-') : IsMark x := by
  rcases hx with rfl | rfl <;> exact ⟨by decide, rfl, by decide⟩

lemma isLegible_append (hend : DigitsEnd b) :
    IsLegible (a ++ b) ↔ IsLegible a ∧ IsLegible b := by
  have hparts := partsDigits_append (a := a) hend
  constructor
  · rintro ⟨hall, h⟩
    rw [List.forall_mem_append] at hall
    exact ⟨⟨hall.1, (hparts.mp h).1⟩, ⟨hall.2, (hparts.mp h).2⟩⟩
  · rintro ⟨ha, hb⟩
    exact ⟨List.forall_mem_append.mpr ⟨ha.plainly, hb.plainly⟩, hparts.mpr ⟨ha.parted, hb.parted⟩⟩

lemma isLegible_cons (hx : IsMark x) : IsLegible (x :: b) ↔ IsLegible b := by
  have hplain : plainChar? x = some (plain x) := by
    rw [plainChar?_of_ascii hx.ascii, hx.plain_eq]
  have hparts := partsDigits_cons (b := b) hx.not_inDigits
  constructor
  · rintro ⟨hall, h⟩
    exact ⟨(List.forall_mem_cons.mp hall).2, hparts.mp h⟩
  · rintro ⟨hall, h⟩
    exact ⟨List.forall_mem_cons.mpr ⟨hplain, hall⟩, hparts.mpr h⟩

lemma WritesDigits.isLegible (h : WritesDigits cs ds) : IsLegible cs where
  plainly c hc := by
    rcases h.inDigits c hc with hdigit | rfl
    · obtain ⟨d, hd⟩ := Option.isSome_iff_exists.mp hdigit
      unfold plain plainChar?
      split <;> simp [hd]
    · rfl
  parted := h.parted

lemma WritesSign.isLegible_append {sign : List Char} (hs : WritesSign sign negative) :
    IsLegible (sign ++ rest) ↔ IsLegible rest := by
  cases hs with
  | missing => rfl
  | plus => exact isLegible_cons (isMark_sign (.inl rfl))
  | minus => exact isLegible_cons (isMark_sign (.inr rfl))

/-! ### The parts of a number -/

lemma bare_cons_mark (hx : IsMark x) : bare (x :: b) = x :: bare b := by
  rw [bare_cons_of_ne hx.underscore, hx.plain_eq]

lemma DigitsEnd.bare_eq_nil_iff (hend : DigitsEnd rest) : bare rest = [] ↔ rest = [] := by
  cases rest with
  | nil => simp
  | cons c rest => simp [bare_cons_of_ne (not_or.mp (hend c rfl)).2]

lemma takeDigits_bare (hd : WritesDigits digits ds) (hend : DigitsEnd rest) :
    takeDigits (bare (digits ++ rest)) = (ds, bare rest) := by
  obtain ⟨-, hdigits, rfl⟩ := writesDigits_iff.mp hd
  rw [bare_append, takeDigits, List.takeWhile_append_of_pos hdigits,
    List.dropWhile_append_of_pos hdigits]
  cases rest with
  | nil => simp
  | cons c rest =>
    obtain ⟨hdigit, hunder⟩ := not_or.mp (hend c rfl)
    rw [isDigit_iff] at hdigit
    rw [bare_cons_of_ne hunder, List.takeWhile_cons_of_neg hdigit,
      List.dropWhile_cons_of_neg hdigit, List.append_nil]

lemma IsLegible.exists_digits (h : IsLegible cs) : ∃ digits rest ds, cs = digits ++ rest ∧
    WritesDigits digits ds ∧ DigitsEnd rest ∧ IsLegible rest := by
  obtain ⟨digits, rest, rfl, hdigits, hend⟩ := Number.exists_digits cs
  obtain ⟨hleft, hright⟩ := (isLegible_append hend).mp h
  exact ⟨digits, rest, _, rfl, hleft.parted.writesDigits hdigits, hend, hright⟩

lemma takeSign_bare {sign : List Char} (hs : WritesSign sign negative)
    (hrest : ∀ c ∈ rest.head?, c ≠ '+' ∧ c ≠ '-' ∧ c ≠ '_') :
    takeSign (bare (sign ++ rest)) = (negative, bare rest) := by
  have hsign : sign.filter (· ≠ '_') = sign := by cases hs <;> rfl
  rw [bare, List.filter_append, hsign]
  refine takeSign_plain hs ?_
  cases rest with
  | nil => simp
  | cons c rest =>
    obtain ⟨hplus, hminus, hunder⟩ := hrest c rfl
    simp [hplus, hminus, hunder]

lemma IsLegible.exists_sign (h : IsLegible cs) : ∃ sign rest negative, cs = sign ++ rest ∧
    WritesSign sign negative ∧ takeSign (bare cs) = (negative, bare rest) ∧ IsLegible rest := by
  cases cs with
  | nil => exact ⟨[], [], false, rfl, .missing, rfl, h⟩
  | cons c cs =>
    by_cases hplus : c = '+'
    · subst hplus
      exact ⟨['+'], cs, false, rfl, .plus, rfl, WritesSign.plus.isLegible_append.mp h⟩
    by_cases hminus : c = '-'
    · subst hminus
      exact ⟨['-'], cs, true, rfl, .minus, rfl, WritesSign.minus.isLegible_append.mp h⟩
    exact ⟨[], c :: cs, false, rfl, .missing,
      takeSign_bare .missing (by simp [hplus, hminus, h.parted.head_ne]), h⟩

/-! ### Decimal numbers -/

lemma isMark_point : IsMark '.' := ⟨by decide, rfl, by decide⟩

lemma isMark_exponent {m : Char} (hm : m = 'e' ∨ m = 'E') : IsMark m := by
  rcases hm with rfl | rfl <;> exact ⟨by decide, rfl, by decide⟩

lemma WritesExponent.digitsEnd (he : WritesExponent tail e) : DigitsEnd tail := by
  cases he with
  | missing => exact digitsEnd_nil
  | mark hm => simpa [DigitsEnd] using (isMark_exponent hm).not_inDigits

lemma WritesFraction.digitsEnd (hp : WritesFraction part fs) (he : WritesExponent tail e) :
    DigitsEnd (part ++ tail) := by
  cases hp with
  | missing => exact he.digitsEnd
  | point => simpa [DigitsEnd] using isMark_point.not_inDigits

/-- Digits follow the sign of an exponent. -/
lemma WritesDigits.not_sign (hd : WritesDigits digits ds) (hsome : ds ≠ []) :
    ∀ c ∈ digits.head?, c ≠ '+' ∧ c ≠ '-' ∧ c ≠ '_' := by
  obtain ⟨c, rest, rfl, hc⟩ := hd.exists_cons hsome
  have hsign := hc.not_sign
  have hunder := hd.parted.head_ne
  simpa using ⟨hsign.1, hsign.2, hunder⟩

lemma exponent?_bare (he : WritesExponent tail e) : exponent? (bare tail) = some e := by
  cases he with
  | missing => rfl
  | @mark m sign digits negative ds hm hs hd hsome =>
    have hdigits := takeDigits_bare hd digitsEnd_nil
    rw [List.append_nil] at hdigits
    have hmark : (m = 'e' || m = 'E') = true := by simpa using hm
    rw [bare_cons_mark (isMark_exponent hm), exponent?, if_pos hmark,
      takeSign_bare hs (hd.not_sign hsome)]
    simp only [hdigits]
    simp [hsome, signed]

lemma writesExponent_of_exponent? (h : IsLegible tail) (he : exponent? (bare tail) = some e) :
    WritesExponent tail e := by
  cases tail with
  | nil =>
    obtain rfl := Option.some.inj he
    exact .missing
  | cons c tail =>
    rw [bare_cons_of_ne h.parted.head_ne, exponent?] at he
    split_ifs at he with hmark
    have hm : c = 'e' ∨ c = 'E' := by
      rw [Bool.or_eq_true, decide_eq_true_eq, decide_eq_true_eq] at hmark
      exact hmark.imp (plain_eq_iff (by decide) rfl (by decide)).mp
        (plain_eq_iff (by decide) rfl (by decide)).mp
    obtain ⟨sign, rest, negative, rfl, hs, hsign, hrest⟩ :=
      ((isLegible_cons (isMark_exponent hm)).mp h).exists_sign
    obtain ⟨digits, rest, ds, rfl, hd, hend, -⟩ := hrest.exists_digits
    simp only [hsign, takeDigits_bare hd hend] at he
    by_cases hnone : (ds.isEmpty || !(bare rest).isEmpty) = true
    · rw [if_pos hnone] at he
      cases he
    · rw [if_neg hnone] at he
      obtain rfl := Option.some.inj he
      simp only [Bool.or_eq_true, Bool.not_eq_true', not_or, List.isEmpty_iff,
        Bool.not_eq_false, hend.bare_eq_nil_iff] at hnone
      obtain ⟨hsome, rfl⟩ := hnone
      rw [List.append_nil]
      exact .mark hm hs hd hsome

lemma takeFraction_bare (hp : WritesFraction part fs) (he : WritesExponent tail e) :
    takeFraction (bare (part ++ tail)) = (fs, bare tail) := by
  cases hp with
  | missing =>
    cases he with
    | missing => rfl
    | mark hm => rcases hm with rfl | rfl <;> rfl
  | point hd =>
    rw [List.cons_append, bare_cons_mark isMark_point, takeFraction,
      takeDigits_bare hd he.digitsEnd]

lemma IsLegible.exists_fraction (h : IsLegible rest) : ∃ part tail fs, rest = part ++ tail ∧
    WritesFraction part fs ∧ takeFraction (bare rest) = (fs, bare tail) ∧ IsLegible tail := by
  cases rest with
  | nil => exact ⟨[], [], [], rfl, .missing, rfl, h⟩
  | cons c rest =>
    by_cases hc : c = '.'
    · subst hc
      obtain ⟨digits, tail, ds, rfl, hd, hend, htail⟩ :=
        ((isLegible_cons isMark_point).mp h).exists_digits
      refine ⟨'.' :: digits, tail, ds, rfl, .point hd, ?_, htail⟩
      rw [bare_cons_mark isMark_point, takeFraction, takeDigits_bare hd hend]
    · refine ⟨[], c :: rest, [], rfl, .missing, ?_, h⟩
      have hplain : plain c ≠ '.' := mt (plain_eq_iff (by decide) rfl (by decide)).mp hc
      rw [bare_cons_of_ne h.parted.head_ne, takeFraction]
      exact fun cs hcs => hplain (List.cons.inj hcs).1

lemma decimal?_bare (hw : WritesDigits whole ds) (hp : WritesFraction part fs)
    (hsome : ds ≠ [] ∨ fs ≠ []) (he : WritesExponent tail e) :
    decimal? negative (bare (whole ++ (part ++ tail))) =
      some (.finite negative (ds ++ fs) (e - fs.length)) := by
  have hdigits : (ds.isEmpty && fs.isEmpty) = false := by
    rcases hsome with h | h <;> simp [h]
  simp only [decimal?, takeDigits_bare hw (hp.digitsEnd he), takeFraction_bare hp he,
    exponent?_bare he, hdigits]
  rfl

lemma writesUnsigned_of_decimal? (h : IsLegible cs) (hn : decimal? negative (bare cs) = some n) :
    WritesUnsigned negative cs n := by
  obtain ⟨whole, rest, ds, rfl, hw, hend, hrest⟩ := h.exists_digits
  obtain ⟨part, tail, fs, rfl, hp, htake, htail⟩ := hrest.exists_fraction
  simp only [decimal?, takeDigits_bare hw hend, htake] at hn
  split_ifs at hn with hnone
  obtain ⟨e, he, rfl⟩ := Option.map_eq_some_iff.mp hn
  have hsome : ds ≠ [] ∨ fs ≠ [] := by
    rw [← not_and_or]
    simpa using hnone
  exact .decimal hw hp hsome (writesExponent_of_exponent? htail he)

/-! ### Words -/

/-- A word in lower case. -/
def IsLowerWord (s : String) : Prop := ∀ x ∈ s.toList, x.isLower = true

instance (s : String) : Decidable (IsLowerWord s) :=
  decidable_of_iff (s.toList.all Char.isLower = true) List.all_eq_true

lemma isLowerWord_inf : IsLowerWord "inf" := by decide

lemma isLowerWord_infinity : IsLowerWord "infinity" := by decide

lemma isLowerWord_nan : IsLowerWord "nan" := by decide

lemma isMark_of_letter (h : c.toLower.isLower = true) : IsMark c := by
  by_cases hc : c.toNat < 0x80
  · have hall : c.toLower.isLower = true → isPlainDigit c = false ∧ c ≠ '_' := by
      refine forall_ascii
        (P := fun c => c.toLower.isLower = true → isPlainDigit c = false ∧ c ≠ '_') ?_ hc
      decide +kernel
    exact ⟨hc, (hall h).1, (hall h).2⟩
  · rw [toLower_of_not_ascii (Nat.not_lt.mp hc)] at h
    have hlast : c.toNat ≤ 122 := of_decide_eq_true (Bool.and_eq_true_iff.mp h).2
    omega

lemma isLegible_of_marks (h : ∀ c ∈ cs, IsMark c) : IsLegible cs := by
  induction cs with
  | nil => exact .nil
  | cons c cs ih =>
    rw [List.forall_mem_cons] at h
    exact (isLegible_cons h.1).mpr (ih h.2)

lemma bare_of_marks (h : ∀ c ∈ cs, IsMark c) : bare cs = cs := by
  induction cs with
  | nil => rfl
  | cons c cs ih =>
    rw [List.forall_mem_cons] at h
    rw [bare_cons_mark h.1, ih h.2]

/-- Without digits there is nothing to be removed. -/
lemma IsLegible.marks (h : IsLegible cs) (hnone : ∀ x ∈ bare cs, isPlainDigit x = false) :
    ∀ c ∈ cs, IsMark c := by
  have hdigit (c : Char) (hc : c ∈ cs) : ¬ IsDigit c := by
    intro hd
    have hunder : c ≠ '_' := by
      rintro rfl
      exact absurd (isDigit_iff.mp hd) (by decide)
    have hmem : plain c ∈ bare cs :=
      List.mem_map_of_mem (List.mem_filter.mpr ⟨hc, by simpa using hunder⟩)
    rw [isDigit_iff, hnone _ hmem] at hd
    cases hd
  have hunder : '_' ∉ cs := by
    intro hmem
    obtain ⟨before, after, rfl⟩ := List.append_of_mem hmem
    obtain ⟨⟨u, hu, hd⟩, -⟩ := h.parted before after rfl
    exact hdigit u (List.mem_append_left _ (List.mem_of_getLast? hu)) hd
  intro c hc
  have hplain := h.plainly c hc
  have hd : digitValue? c = none := by simpa [IsDigit] using hdigit c hc
  have hascii : c.toNat < 0x80 := by
    by_contra hbeyond
    rw [plainChar?_of_not_ascii (Nat.not_lt.mp hbeyond), hd] at hplain
    cases hplain
  refine ⟨hascii, ?_, fun hc' => hunder (hc' ▸ hc)⟩
  rw [digitValue?_of_ascii hascii] at hd
  simpa using hd

/-- A word in lower case is written in letters only. -/
lemma marks_of_word {s : String} (hs : IsLowerWord s) (hw : cs.map Char.toLower = s.toList) :
    ∀ c ∈ cs, IsMark c := by
  intro c hc
  refine isMark_of_letter (hs _ ?_)
  rw [← hw]
  exact List.mem_map_of_mem hc

/-- A character that is no letter makes no word. -/
lemma unsigned?_of_not_letter (hx : x ∈ cs) (hletter : x.toLower.isLower = false) :
    unsigned? negative cs = decimal? negative cs := by
  have hno {s : String} (hs : IsLowerWord s) : String.ofList (cs.map Char.toLower) ≠ s := by
    intro h
    have hw : cs.map Char.toLower = s.toList := by rw [← h, String.toList_ofList]
    have hlower := hs x.toLower (hw ▸ List.mem_map_of_mem hx)
    rw [hletter] at hlower
    cases hlower
  simp only [unsigned?, hno isLowerWord_inf, hno isLowerWord_infinity, hno isLowerWord_nan]
  rfl

lemma not_letter_of_digit (hdigit : isPlainDigit x = true) : x.toLower.isLower = false := by
  rw [Bool.eq_false_iff]
  intro hletter
  rw [(isMark_of_letter hletter).digit] at hdigit
  cases hdigit

/-- There is no second sign. -/
lemma unsigned?_sign (hx : x = '+' ∨ x = '-') : unsigned? negative (x :: r) = none := by
  have hletter : x.toLower.isLower = false := by rcases hx with rfl | rfl <;> decide
  rw [unsigned?_of_not_letter List.mem_cons_self hletter]
  rcases hx with rfl | rfl <;> rfl

/-! ### Real numbers -/

/-- A decimal number has a digit. -/
lemma exists_digit (hw : WritesDigits whole ds) (hp : WritesFraction part fs)
    (hsome : ds ≠ [] ∨ fs ≠ []) :
    ∃ x ∈ bare (whole ++ (part ++ tail)), isPlainDigit x = true := by
  have hfirst {digits : List Char} {vs : List Nat} (hd : WritesDigits digits vs) (hvs : vs ≠ []) :
      ∃ x ∈ bare digits, isPlainDigit x = true := by
    obtain ⟨c, rest, rfl, hc⟩ := hd.exists_cons hvs
    refine ⟨plain c, ?_, isDigit_iff.mp hc⟩
    rw [bare_cons_of_ne hd.parted.head_ne]
    exact List.mem_cons_self
  rw [bare_append, bare_append]
  rcases hsome with hds | hfs
  · obtain ⟨x, hx, hdigit⟩ := hfirst hw hds
    exact ⟨x, List.mem_append_left _ hx, hdigit⟩
  · cases hp with
    | missing => exact absurd rfl hfs
    | point hd =>
      obtain ⟨x, hx, hdigit⟩ := hfirst hd hfs
      rw [bare_cons_mark isMark_point]
      refine ⟨x, List.mem_append_right _ (List.mem_append_left _ ?_), hdigit⟩
      exact List.mem_cons_of_mem _ hx

lemma WritesExponent.isLegible (he : WritesExponent tail e) : IsLegible tail := by
  cases he with
  | missing => exact .nil
  | mark hm hs hd =>
    exact (isLegible_cons (isMark_exponent hm)).mpr (hs.isLegible_append.mpr hd.isLegible)

lemma WritesFraction.isLegible (hp : WritesFraction part fs) : IsLegible part := by
  cases hp with
  | missing => exact .nil
  | point hd => exact (isLegible_cons isMark_point).mpr hd.isLegible

lemma WritesUnsigned.isLegible (h : WritesUnsigned negative cs n) : IsLegible cs := by
  cases h with
  | infinite hw =>
    rcases hw with hw | hw
    · exact isLegible_of_marks (marks_of_word isLowerWord_inf hw)
    · exact isLegible_of_marks (marks_of_word isLowerWord_infinity hw)
  | notANumber hw => exact isLegible_of_marks (marks_of_word isLowerWord_nan hw)
  | decimal hw hp _ he =>
    exact (isLegible_append (hp.digitsEnd he)).mpr
      ⟨hw.isLegible, (isLegible_append he.digitsEnd).mpr ⟨hp.isLegible, he.isLegible⟩⟩

lemma unsigned?_bare (h : WritesUnsigned negative cs n) :
    unsigned? negative (bare cs) = some n := by
  cases h with
  | infinite hw =>
    rcases hw with hw | hw
    · rw [bare_of_marks (marks_of_word isLowerWord_inf hw), unsigned?, hw]
      rfl
    · rw [bare_of_marks (marks_of_word isLowerWord_infinity hw), unsigned?, hw]
      rfl
  | notANumber hw =>
    rw [bare_of_marks (marks_of_word isLowerWord_nan hw), unsigned?, hw]
    rfl
  | decimal hw hp hsome he =>
    obtain ⟨x, hx, hdigit⟩ := exists_digit hw hp hsome
    rw [unsigned?_of_not_letter hx (not_letter_of_digit hdigit), decimal?_bare hw hp hsome he]

/-- What follows a sign is no sign. -/
lemma WritesUnsigned.not_sign (h : WritesUnsigned negative cs n) :
    ∀ c ∈ cs.head?, c ≠ '+' ∧ c ≠ '-' ∧ c ≠ '_' := by
  have hread := unsigned?_bare h
  cases cs with
  | nil => simp
  | cons c cs =>
    have hno (hc : c = '+' ∨ c = '-') : False := by
      rw [bare_cons_mark (isMark_sign hc), unsigned?_sign hc] at hread
      cases hread
    have hunder := h.isLegible.parted.head_ne
    simpa using ⟨fun hc => hno (.inl hc), fun hc => hno (.inr hc), hunder⟩

lemma writesUnsigned_of_unsigned? (h : IsLegible cs) (hn : unsigned? negative (bare cs) = some n) :
    WritesUnsigned negative cs n := by
  have hword {s : String} (hs : IsLowerWord s)
      (hw : String.ofList ((bare cs).map Char.toLower) = s) :
      cs.map Char.toLower = s.toList := by
    rw [← hw, String.toList_ofList]
    have hmarks := marks_of_word hs (by rw [← hw, String.toList_ofList])
    rw [bare_of_marks (h.marks fun x hx => (hmarks x hx).digit)]
  simp only [unsigned?] at hn
  split_ifs at hn with hinf hnan
  · obtain rfl := Option.some.inj hn
    rw [Bool.or_eq_true, decide_eq_true_eq, decide_eq_true_eq] at hinf
    exact .infinite (hinf.imp (hword isLowerWord_inf) (hword isLowerWord_infinity))
  · obtain rfl := Option.some.inj hn
    exact .notANumber (hword isLowerWord_nan hnan)
  · exact writesUnsigned_of_decimal? h hn

lemma mapM_plainChar?_iff : cs.mapM plainChar? = some r ↔
    (∀ c ∈ cs, plainChar? c = some (plain c)) ∧ r = cs.map plain := by
  rw [mapM_eq_some_iff]
  constructor
  · intro h
    have hr : r = cs.map plain := by
      have hplain := congrArg (List.map fun p => p.getD '?') h
      rw [List.map_map, List.map_map] at hplain
      exact (List.map_id'' (fun _ => rfl) r).symm.trans hplain.symm
    subst hr
    rw [List.map_map] at h
    exact ⟨List.map_inj_left.mp h, rfl⟩
  · rintro ⟨h, rfl⟩
    rw [List.map_map]
    exact List.map_inj_left.mpr h

lemma read?_eq_some_iff : Numeral.read? cs = some n ↔
    IsLegible cs ∧ unsigned? (takeSign (bare cs)).1 (takeSign (bare cs)).2 = some n := by
  simp only [Numeral.read?, Option.bind_eq_some_iff, mapM_plainChar?_iff]
  constructor
  · rintro ⟨_, ⟨hall, rfl⟩, bs, hbs, hn⟩
    obtain ⟨hparts, rfl⟩ := withoutUnderscores?_eq_some_iff.mp hbs
    exact ⟨⟨hall, hparts⟩, hn⟩
  · rintro ⟨h, hn⟩
    exact ⟨_, ⟨h.plainly, rfl⟩, _, withoutUnderscores?_eq_some_iff.mpr ⟨h.parted, rfl⟩, hn⟩

/-- **A real number is read** off the texts that are written for it, and off no others. -/
theorem read?_iff_writesNumeral : Numeral.read? cs = some n ↔ WritesNumeral cs n := by
  rw [read?_eq_some_iff]
  constructor
  · rintro ⟨h, hn⟩
    obtain ⟨sign, rest, negative, rfl, hs, htake, hrest⟩ := h.exists_sign
    rw [htake] at hn
    exact .mk hs (writesUnsigned_of_unsigned? hrest hn)
  · rintro ⟨hs, hu⟩
    refine ⟨hs.isLegible_append.mpr hu.isLegible, ?_⟩
    rw [takeSign_bare hs hu.not_sign, unsigned?_bare hu]

/-- A number as it is written, up to the nearest floating-point number. -/
def WritesReal (cs : List Char) (b : Binary64) : Prop := ∃ n, WritesNumeral cs n ∧ n.toBinary64 = b

lemma readReal?_eq_some_iff {b : Binary64} : readReal? cs = some b ↔ WritesReal cs b := by
  simp only [readReal?, Option.map_eq_some_iff, read?_iff_writesNumeral, WritesReal]

end SceneFrames.Number
