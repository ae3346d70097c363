import SceneFrames.Number.Integer
import SceneFrames.Proofs.Text.Ascii
import Mathlib.Data.List.TakeWhile

/-!
How digits and whole numbers are written.

Digits of any script stand for their values, and an underscore between two digits counts for
nothing. A whole number is a sign, which may be missing, and digits. The digits that a text begins
with are counted before what follows them is looked at: where they are too many, that is said of
the text whatever follows.
-/

namespace SceneFrames.Number

open SceneFrames.Text

variable {c x : Char} {cs a b digits rest bs : List Char} {ds : List Nat} {d n : Nat}
  {negative : Bool}

/-- A decimal digit of some script. -/
def IsDigit (c : Char) : Prop := (digitValue? c).isSome = true

/-- Each underscore stands between two digits. -/
def PartsDigits (cs : List Char) : Prop :=
  ∀ before after, cs = before ++ '_' :: after →
    (∃ c ∈ before.getLast?, IsDigit c) ∧ ∃ c ∈ after.head?, IsDigit c

/-- Digits and their values, with underscores between digits. -/
structure WritesDigits (cs : List Char) (ds : List Nat) : Prop where
  parted : PartsDigits cs
  read : (cs.filter (· ≠ '_')).map digitValue? = ds.map some

/-- A sign that may be missing, and whether it is a minus. -/
inductive WritesSign : List Char → Bool → Prop
  | missing : WritesSign [] false
  | plus : WritesSign ['+'] false
  | minus : WritesSign ['-'] true

/-- The number of a sign and an absolute value. -/
def signed (negative : Bool) (n : Nat) : Int := if negative then -(n : Int) else n

/-- A whole number as it is written. -/
inductive WritesInteger : List Char → Int → Prop
  | mk {sign digits : List Char} {negative : Bool} {ds : List Nat} (hs : WritesSign sign negative)
      (hd : WritesDigits digits ds) (hsome : ds ≠ []) (hfits : ds.length ≤ maxIntegerDigits) :
      WritesInteger (sign ++ digits) (signed negative (digitsValue ds))

/-- A digit or an underscore. -/
def InDigits (c : Char) : Prop := IsDigit c ∨ c = '_'

/-- What comes next is neither a digit nor an underscore. -/
def DigitsEnd (cs : List Char) : Prop := ∀ c ∈ cs.head?, ¬ InDigits c

/-- A text that begins with more digits than are read of a whole number, and how many. -/
inductive BeginsTooLong : List Char → Nat → Prop
  | mk {sign digits rest : List Char} {negative : Bool} {ds : List Nat}
      (hs : WritesSign sign negative) (hd : WritesDigits digits ds) (hend : DigitsEnd rest)
      (hlong : maxIntegerDigits < ds.length) :
      BeginsTooLong (sign ++ (digits ++ rest)) ds.length

/-! ### Characters -/

/-- The ASCII character that a character is taken for. -/
def plain (c : Char) : Char := (plainChar? c).getD '?'

lemma plainChar?_of_ascii (h : c.toNat < 0x80) : plainChar? c = some c := if_pos h

lemma plainChar?_of_not_ascii (h : 0x80 ≤ c.toNat) :
    plainChar? c = (digitValue? c).map Nat.digitChar :=
  if_neg (by omega)

lemma digitValue?_of_ascii (h : c.toNat < 0x80) :
    digitValue? c = if isPlainDigit c then some (plainDigitValue c) else none := by
  refine forall_ascii
    (P := fun c => digitValue? c = if isPlainDigit c then some (plainDigitValue c) else none) ?_ h
  decide +kernel

lemma isPlainDigit_digitChar : ∀ d ≤ 9,
    isPlainDigit d.digitChar = true ∧ plainDigitValue d.digitChar = d := by
  decide

/-- A digit is taken for the ASCII digit of its value. -/
lemma digitValue?_eq_some_iff :
    digitValue? c = some d ↔ isPlainDigit (plain c) = true ∧ plainDigitValue (plain c) = d := by
  by_cases hc : c.toNat < 0x80
  · rw [plain, plainChar?_of_ascii hc, digitValue?_of_ascii hc]
    simp
  · rw [plain, plainChar?_of_not_ascii (Nat.not_lt.mp hc)]
    cases hd : digitValue? c with
    | none => simp [show isPlainDigit '?' = false from rfl]
    | some v =>
      obtain ⟨hplain, hvalue⟩ := isPlainDigit_digitChar v (digitValue?_le hd)
      simp [hplain, hvalue]

lemma isDigit_iff : IsDigit c ↔ isPlainDigit (plain c) = true := by
  rw [IsDigit, Option.isSome_iff_exists]
  simp only [digitValue?_eq_some_iff]
  exact ⟨fun ⟨_, h, _⟩ => h, fun h => ⟨_, h, rfl⟩⟩

/-- Only itself is taken for a character that is no digit and does not stand for strange ones. -/
lemma plain_eq_iff (hx : x.toNat < 0x80) (hdigit : isPlainDigit x = false) (hstrange : x ≠ '?') :
    plain c = x ↔ c = x := by
  by_cases hc : c.toNat < 0x80
  · rw [plain, plainChar?_of_ascii hc, Option.getD_some]
  · have hne : c ≠ x := by
      rintro rfl
      exact hc hx
    refine iff_of_false ?_ hne
    rintro rfl
    have hd : digitValue? c = none := by
      rw [Option.eq_none_iff_forall_ne_some]
      intro d hd
      rw [digitValue?_eq_some_iff, hdigit] at hd
      exact absurd hd.1 (by simp)
    apply hstrange
    rw [plain, plainChar?_of_not_ascii (Nat.not_lt.mp hc), hd]
    rfl

@[simp] lemma plain_eq_underscore_iff : plain c = '_' ↔ c = '_' :=
  plain_eq_iff (by decide) rfl (by decide)

/-! ### Underscores -/

/-- Underscores stand between digits in a text that comes after a character. -/
def PartsAfter (last : Char) : List Char → Prop
  | [] => last ≠ '_'
  | c :: cs => (c = '_' → IsDigit last) ∧ (last = '_' → IsDigit c) ∧ PartsAfter c cs

lemma partsAfter_iff {last : Char} : PartsAfter last cs ↔
    (last = '_' → ∃ c ∈ cs.head?, IsDigit c) ∧ ∀ before after, cs = before ++ '_' :: after →
      (∃ c ∈ (last :: before).getLast?, IsDigit c) ∧ ∃ c ∈ after.head?, IsDigit c := by
  induction cs generalizing last with
  | nil => simp [PartsAfter]
  | cons c cs ih =>
    rw [PartsAfter, ih]
    constructor
    · rintro ⟨hlast, hc, hnext, hcs⟩
      refine ⟨fun h => ⟨c, rfl, hc h⟩, fun before after h => ?_⟩
      cases before with
      | nil =>
        obtain ⟨rfl, rfl⟩ := List.cons.inj h
        exact ⟨⟨last, rfl, hlast rfl⟩, hnext rfl⟩
      | cons u before =>
        obtain ⟨rfl, rfl⟩ := List.cons.inj h
        rw [List.getLast?_cons_cons]
        exact hcs before after rfl
    · rintro ⟨hc, hcs⟩
      refine ⟨?_, ?_, ?_, fun before after h => ?_⟩
      · rintro rfl
        obtain ⟨⟨u, hu, hdigit⟩, -⟩ := hcs [] cs rfl
        obtain rfl := Option.some.inj hu
        exact hdigit
      · intro h
        obtain ⟨u, hu, hdigit⟩ := hc h
        obtain rfl := Option.some.inj hu
        exact hdigit
      · rintro rfl
        exact (hcs [] cs rfl).2
      · have h' := hcs (c :: before) after (congrArg _ h)
        rwa [List.getLast?_cons_cons] at h'

lemma not_isDigit_space : ¬ IsDigit ' ' := by
  rw [isDigit_iff]
  decide

/-- A text begins like one that comes after a blank. -/
lemma partsDigits_iff : PartsDigits cs ↔ PartsAfter ' ' cs := by
  rw [partsAfter_iff]
  refine ⟨fun h => ⟨fun hspace => absurd hspace (by decide), fun before after hcs => ?_⟩,
    fun h before after hcs => ?_⟩
  · obtain ⟨⟨c, hc, hdigit⟩, hafter⟩ := h before after hcs
    cases before with
    | nil => cases hc
    | cons u before => exact ⟨⟨c, hc, hdigit⟩, hafter⟩
  · obtain ⟨⟨c, hc, hdigit⟩, hafter⟩ := h.2 before after hcs
    cases before with
    | nil =>
      obtain rfl := Option.some.inj hc
      exact absurd hdigit not_isDigit_space
    | cons u before => exact ⟨⟨c, hc, hdigit⟩, hafter⟩

lemma partsAfter_append_cons {last : Char} (hx : ¬ InDigits x) :
    PartsAfter last (a ++ x :: b) ↔ PartsAfter last a ∧ PartsAfter x b := by
  obtain ⟨hdigit, hunder⟩ := not_or.mp hx
  induction a generalizing last with
  | nil => simp [PartsAfter, hdigit, hunder]
  | cons c a ih => rw [List.cons_append, PartsAfter, PartsAfter, ih, and_assoc, and_assoc]

lemma partsAfter_iff_of_not_inDigits (hx : ¬ InDigits x) : PartsAfter x b ↔ PartsDigits b := by
  obtain ⟨hdigit, hunder⟩ := not_or.mp hx
  rw [partsDigits_iff]
  cases b <;> simp [PartsAfter, hdigit, hunder, not_isDigit_space]

@[simp] lemma digitsEnd_nil : DigitsEnd [] := by
  simp [DigitsEnd]

@[simp] lemma partsDigits_nil : PartsDigits [] := by
  simp [PartsDigits]

lemma PartsDigits.head_ne (h : PartsDigits (c :: cs)) : c ≠ '_' := by
  rintro rfl
  obtain ⟨⟨u, hu, -⟩, -⟩ := h [] cs rfl
  cases hu

lemma partsDigits_cons (hx : ¬ InDigits x) : PartsDigits (x :: b) ↔ PartsDigits b := by
  rw [partsDigits_iff, ← List.nil_append (x :: b), partsAfter_append_cons hx,
    partsAfter_iff_of_not_inDigits hx]
  simp [PartsAfter]

/-- No underscore reaches over the end of digits. -/
lemma partsDigits_append (hend : DigitsEnd b) :
    PartsDigits (a ++ b) ↔ PartsDigits a ∧ PartsDigits b := by
  cases b with
  | nil => simp
  | cons x b =>
    have hx := hend x rfl
    rw [partsDigits_iff, partsAfter_append_cons hx, partsAfter_iff_of_not_inDigits hx,
      partsDigits_cons hx, ← partsDigits_iff]

/-- The text without its underscores, in ASCII. -/
def bare (cs : List Char) : List Char := (cs.filter (· ≠ '_')).map plain

@[simp] lemma bare_nil : bare [] = [] := rfl

@[simp] lemma bare_append : bare (a ++ b) = bare a ++ bare b := by
  simp [bare]

lemma bare_cons_of_ne (hx : x ≠ '_') : bare (x :: b) = plain x :: bare b := by
  simp [bare, hx]

lemma bare_underscore : bare ('_' :: b) = bare b := rfl

/-- Removing underscores fails just where one does not stand between two digits. -/
lemma withoutUnderscores?_plain (last : Char) : withoutUnderscores? (plain last) (cs.map plain) =
    some bs ↔ PartsAfter last cs ∧ bs = bare cs := by
  induction cs generalizing last bs with
  | nil =>
    rw [List.map_nil, withoutUnderscores?, PartsAfter]
    by_cases hlast : last = '_'
    · rw [if_pos (plain_eq_underscore_iff.mpr hlast)]
      simp [hlast]
    · rw [if_neg (mt plain_eq_underscore_iff.mp hlast)]
      simp [hlast, eq_comm]
  | cons c cs ih =>
    rw [List.map_cons, withoutUnderscores?, PartsAfter]
    by_cases hc : c = '_'
    · subst hc
      rw [if_pos (plain_eq_underscore_iff.mpr rfl), isDigit_iff (c := last), bare_underscore]
      by_cases hlast : isPlainDigit (plain last) = true
      · have hnot : last ≠ '_' := by
          rintro rfl
          exact absurd hlast (by decide)
        rw [if_pos hlast, ih]
        simp [hlast, hnot]
      · rw [if_neg hlast]
        simp [hlast]
    · rw [if_neg (mt plain_eq_underscore_iff.mp hc), bare_cons_of_ne hc, isDigit_iff (c := c)]
      by_cases hopen : last = '_' ∧ ¬ isPlainDigit (plain c) = true
      · obtain ⟨rfl, hdigit⟩ := hopen
        simp [hc, hdigit]
      · rw [if_neg (by simpa using hopen), Option.map_eq_some_iff]
        simp only [ih, hc, false_implies, true_and]
        constructor
        · rintro ⟨rest, ⟨hparts, rfl⟩, rfl⟩
          exact ⟨⟨fun hlast => not_not.mp fun hdigit => hopen ⟨hlast, hdigit⟩, hparts⟩, rfl⟩
        · rintro ⟨⟨-, hparts⟩, rfl⟩
          exact ⟨_, ⟨hparts, rfl⟩, rfl⟩

lemma withoutUnderscores?_eq_some_iff :
    withoutUnderscores? ' ' (cs.map plain) = some bs ↔ PartsDigits cs ∧ bs = bare cs := by
  rw [partsDigits_iff]
  exact withoutUnderscores?_plain ' '

/-! ### Digits -/

/-- Digits are what is left in ASCII. -/
lemma writesDigits_iff : WritesDigits cs ds ↔ PartsDigits cs ∧
    (∀ x ∈ bare cs, isPlainDigit x = true) ∧ (bare cs).map plainDigitValue = ds := by
  have hread (l : List Char) : l.map digitValue? = ds.map some ↔
      (∀ x ∈ l.map plain, isPlainDigit x = true) ∧ (l.map plain).map plainDigitValue = ds := by
    induction l generalizing ds with
    | nil => cases ds <;> simp
    | cons c l ih =>
      cases ds with
      | nil => simp
      | cons d ds =>
        simp only [List.map_cons, List.cons.injEq, ih, digitValue?_eq_some_iff,
          List.forall_mem_cons]
        tauto
  exact ⟨fun h => ⟨h.parted, (hread _).mp h.read⟩, fun h => ⟨h.1, (hread _).mpr h.2⟩⟩

/-- Digits begin with a digit. -/
lemma WritesDigits.exists_cons (h : WritesDigits cs ds) (hsome : ds ≠ []) :
    ∃ c rest, cs = c :: rest ∧ IsDigit c := by
  obtain ⟨hparts, hdigits, hds⟩ := writesDigits_iff.mp h
  cases cs with
  | nil => exact absurd hds.symm hsome
  | cons c rest =>
    rw [bare_cons_of_ne hparts.head_ne] at hdigits
    exact ⟨c, rest, rfl, isDigit_iff.mpr (hdigits _ List.mem_cons_self)⟩

lemma WritesDigits.inDigits (h : WritesDigits cs ds) : ∀ c ∈ cs, InDigits c := by
  obtain ⟨-, hdigits, -⟩ := writesDigits_iff.mp h
  intro c hc
  by_cases hunder : c = '_'
  · exact .inr hunder
  · refine .inl (isDigit_iff.mpr (hdigits _ ?_))
    exact List.mem_map_of_mem (List.mem_filter.mpr ⟨hc, by simpa using hunder⟩)

/-- Digits and underscores that stand between digits are the digits of something. -/
lemma PartsDigits.writesDigits (h : PartsDigits cs) (hcs : ∀ c ∈ cs, InDigits c) :
    WritesDigits cs ((bare cs).map plainDigitValue) := by
  refine writesDigits_iff.mpr ⟨h, fun x hx => ?_, rfl⟩
  obtain ⟨c, hc, rfl⟩ := List.mem_map.mp hx
  obtain ⟨hmem, hne⟩ := List.mem_filter.mp hc
  exact isDigit_iff.mp ((hcs c hmem).resolve_right (by simpa using hne))

/-! ### Whole numbers -/

/-- Whether the digits of a whole number go on with a character. -/
def goesOn (c : Char) : Bool := isPlainDigit (plain c) || plain c = '_'

lemma goesOn_iff : goesOn c = true ↔ InDigits c := by
  rw [goesOn, InDigits, isDigit_iff]
  simp

lemma digitRun_plain (hdigits : ∀ c ∈ digits, InDigits c) (hend : DigitsEnd rest) :
    digitRun ((digits ++ rest).map plain) = digits.map plain := by
  have hrun : digitRun ((digits ++ rest).map plain) =
      ((digits ++ rest).takeWhile goesOn).map plain :=
    List.takeWhile_map
  rw [hrun, List.takeWhile_append_of_pos fun c hc => goesOn_iff.mpr (hdigits c hc)]
  cases rest with
  | nil => simp
  | cons c rest => rw [List.takeWhile_cons_of_neg (mt goesOn_iff.mp (hend c rfl)), List.append_nil]

lemma exists_digits (cs : List Char) : ∃ digits rest, cs = digits ++ rest ∧
    (∀ c ∈ digits, InDigits c) ∧ DigitsEnd rest := by
  refine ⟨_, _, (List.takeWhile_append_dropWhile (p := goesOn)).symm, fun c hc => ?_,
    fun c hc => ?_⟩
  · exact goesOn_iff.mp (List.mem_takeWhile_imp hc)
  · have hnot := List.head?_dropWhile_not goesOn cs
    rw [Option.mem_def.mp hc] at hnot
    rw [← goesOn_iff, hnot]
    exact Bool.false_ne_true

/-- Digits are counted first, and only then what follows them is looked at. -/
lemma readDigits_of_digits (hd : WritesDigits digits ds) (hend : DigitsEnd rest) :
    readDigits ((digits ++ rest).map plain) =
      if maxIntegerDigits < ds.length then .error (.tooLong ds.length)
      else if ds = [] ∨ rest ≠ [] then .error .malformed
      else .ok (digitsValue ds) := by
  obtain ⟨hparts, -, rfl⟩ := writesDigits_iff.mp hd
  have hbare := withoutUnderscores?_eq_some_iff.mpr ⟨hparts, rfl⟩
  have hrest : ((digits ++ rest).map plain).drop (digits.map plain).length = rest.map plain := by
    simp
  simp only [readDigits, digitRun_plain hd.inDigits hend, hbare, hrest]
  simp

lemma readDigits_of_not_parts (hdigits : ∀ c ∈ digits, InDigits c) (hend : DigitsEnd rest)
    (hparts : ¬ PartsDigits digits) :
    readDigits ((digits ++ rest).map plain) = .error .malformed := by
  have hnone : withoutUnderscores? ' ' (digits.map plain) = none := by
    rw [Option.eq_none_iff_forall_ne_some]
    exact fun bs h => hparts (withoutUnderscores?_eq_some_iff.mp h).1
  simp only [readDigits, digitRun_plain hdigits hend, hnone]

lemma readDigits_eq_ok_iff : readDigits (cs.map plain) = .ok n ↔
    ∃ ds, WritesDigits cs ds ∧ ds ≠ [] ∧ ds.length ≤ maxIntegerDigits ∧ n = digitsValue ds := by
  constructor
  · intro h
    obtain ⟨digits, rest, rfl, hdigits, hend⟩ := exists_digits cs
    by_cases hparts : PartsDigits digits
    · have hd := hparts.writesDigits hdigits
      rw [readDigits_of_digits hd hend] at h
      split_ifs at h with hlong hrest
      rw [not_or, not_not] at hrest
      obtain ⟨hsome, rfl⟩ := hrest
      rw [List.append_nil]
      exact ⟨_, hd, hsome, Nat.not_lt.mp hlong, (Except.ok.inj h).symm⟩
    · rw [readDigits_of_not_parts hdigits hend hparts] at h
      cases h
  · rintro ⟨ds, hd, hsome, hfits, rfl⟩
    have hread := readDigits_of_digits hd digitsEnd_nil
    rwa [List.append_nil, if_neg (Nat.not_lt.mpr hfits), if_neg (by simp [hsome])] at hread

lemma readDigits_eq_tooLong_iff : readDigits (cs.map plain) = .error (.tooLong n) ↔
    ∃ digits rest ds, cs = digits ++ rest ∧ WritesDigits digits ds ∧ DigitsEnd rest ∧
      maxIntegerDigits < ds.length ∧ n = ds.length := by
  constructor
  · intro h
    obtain ⟨digits, rest, rfl, hdigits, hend⟩ := exists_digits cs
    by_cases hparts : PartsDigits digits
    · have hd := hparts.writesDigits hdigits
      rw [readDigits_of_digits hd hend] at h
      split_ifs at h with hlong hrest
      · simp only [Except.error.injEq, IntegerFault.tooLong.injEq] at h
        exact ⟨digits, rest, _, rfl, hd, hend, hlong, h.symm⟩
      · simp at h
    · rw [readDigits_of_not_parts hdigits hend hparts] at h
      simp at h
  · rintro ⟨digits, rest, ds, rfl, hd, hend, hlong, rfl⟩
    rw [readDigits_of_digits hd hend, if_pos hlong]

lemma takeSign_plain {sign : List Char} (hs : WritesSign sign negative)
    (hrest : ∀ c ∈ rest.head?, c ≠ '+' ∧ c ≠ '-') :
    takeSign ((sign ++ rest).map plain) = (negative, rest.map plain) := by
  cases hs with
  | missing =>
    cases rest with
    | nil => rfl
    | cons c rest =>
      obtain ⟨hplus, hminus⟩ := hrest c rfl
      rw [List.nil_append, List.map_cons, takeSign]
      · exact fun cs h => hplus ((plain_eq_iff (by decide) rfl (by decide)).mp (List.cons.inj h).1)
      · exact fun cs h => hminus ((plain_eq_iff (by decide) rfl (by decide)).mp (List.cons.inj h).1)
  | plus => rfl
  | minus => rfl

lemma exists_sign (cs : List Char) : ∃ sign rest negative, cs = sign ++ rest ∧
    WritesSign sign negative ∧ takeSign (cs.map plain) = (negative, rest.map plain) := by
  cases cs with
  | nil => exact ⟨[], [], false, rfl, .missing, rfl⟩
  | cons c cs =>
    by_cases hplus : c = '+'
    · subst hplus
      exact ⟨['+'], cs, false, rfl, .plus, rfl⟩
    by_cases hminus : c = '-'
    · subst hminus
      exact ⟨['-'], cs, true, rfl, .minus, rfl⟩
    exact ⟨[], c :: cs, false, rfl, .missing, takeSign_plain .missing (by simp [hplus, hminus])⟩

/-- A digit is no sign. -/
lemma IsDigit.not_sign (h : IsDigit c) : c ≠ '+' ∧ c ≠ '-' := by
  rw [isDigit_iff] at h
  constructor <;> rintro rfl <;> exact absurd h (by decide)

lemma readInteger_eq (cs : List Char) : readInteger cs =
    (readDigits (takeSign (cs.map plain)).2).map (signed (takeSign (cs.map plain)).1) := by
  unfold readInteger
  show Except.map _ (readDigits (takeSign (cs.map plain)).2 >>= fun n => pure (n : Int)) = _
  cases readDigits (takeSign (cs.map plain)).2 <;> rfl

theorem readInteger_eq_ok_iff {n : Int} : readInteger cs = .ok n ↔ WritesInteger cs n := by
  rw [readInteger_eq]
  constructor
  · intro h
    obtain ⟨sign, digits, negative, rfl, hs, htake⟩ := exists_sign cs
    rw [htake] at h
    cases hread : readDigits (digits.map plain) with
    | error fault =>
      rw [hread] at h
      cases h
    | ok m =>
      rw [hread] at h
      obtain rfl := Except.ok.inj h
      obtain ⟨ds, hd, hsome, hfits, rfl⟩ := readDigits_eq_ok_iff.mp hread
      exact .mk hs hd hsome hfits
  · rintro ⟨hs, hd, hsome, hfits⟩
    obtain ⟨c, rest, rfl, hc⟩ := hd.exists_cons hsome
    rw [takeSign_plain hs (by simpa using hc.not_sign),
      readDigits_eq_ok_iff.mpr ⟨_, hd, hsome, hfits, rfl⟩]
    rfl

theorem readInteger_eq_tooLong_iff :
    readInteger cs = .error (.tooLong n) ↔ BeginsTooLong cs n := by
  rw [readInteger_eq]
  constructor
  · intro h
    obtain ⟨sign, rest, negative, rfl, hs, htake⟩ := exists_sign cs
    rw [htake] at h
    cases hread : readDigits (rest.map plain) with
    | ok m =>
      rw [hread] at h
      cases h
    | error fault =>
      rw [hread] at h
      obtain rfl := Except.error.inj h
      obtain ⟨digits, rest, ds, rfl, hd, hend, hlong, rfl⟩ := readDigits_eq_tooLong_iff.mp hread
      exact .mk hs hd hend hlong
  · rintro ⟨hs, hd, hend, hlong⟩
    obtain ⟨c, rest, rfl, hc⟩ := hd.exists_cons (by rintro rfl; simp at hlong)
    rw [takeSign_plain hs (by simpa using hc.not_sign),
      readDigits_eq_tooLong_iff.mpr ⟨_, _, _, rfl, hd, hend, hlong, rfl⟩]
    rfl

end SceneFrames.Number
