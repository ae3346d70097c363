import SceneFrames.Text.LetterCase
import Mathlib.Data.List.Basic
import Mathlib.Tactic.Lemma

/-!
Characters in ASCII, and which texts are an ASCII word in lower case.

What holds of the characters in ASCII is checked one by one. There a text is lowered letter by
letter. A character beyond ASCII stays beyond it, but for two: the sign for a kelvin, which is
lowered to a k, and the capital i with a dot, which is lowered to an i and the dot. A word in ASCII
without these two letters is therefore the lower case of its own spellings in ASCII and of nothing
else.
-/

namespace SceneFrames

/-- A list is read when its items are read one by one. -/
lemma mapM_eq_some_iff {α β : Type} {f : α → Option β} {as : List α} {bs : List β} :
    as.mapM f = some bs ↔ as.map f = bs.map some := by
  induction as generalizing bs with
  | nil => cases bs <;> simp
  | cons a as ih =>
    rw [List.mapM_cons]
    cases bs with
    | nil => cases f a <;> cases as.mapM f <;> simp
    | cons b bs =>
      rw [List.map_cons, List.map_cons, List.cons.injEq, ← ih]
      cases f a <;> cases as.mapM f <;> simp

namespace Text

open LetterCase

variable {c : Char} {cs w before : List Char}

/-- What holds of the characters of all code points in ASCII holds of all characters in ASCII. -/
lemma forall_ascii {P : Char → Prop} (h : ∀ n < 0x80, P (Char.ofNat n)) (hc : c.toNat < 0x80) :
    P c := by
  have hn := h c.toNat hc
  rwa [Char.ofNat_toNat] at hn

/-! ### Lower case -/

/-- What stands for a character in the lower case of a text. -/
def loweredAt (before : List Char) (c : Char) (after : List Char) : List Char :=
  if c = 'Σ' then [lowerSigma before after] else lowerChar c

lemma lowerAfter_cons :
    lowerAfter before (c :: cs) = loweredAt before c cs ++ lowerAfter (c :: before) cs :=
  rfl

lemma mapByRuns_of_ascii (h : c.toNat < 0x80) : mapByRuns lowerRuns c = c.toLower := by
  refine forall_ascii (P := fun c => mapByRuns lowerRuns c = c.toLower) ?_ h
  decide +kernel

lemma toLower_of_not_ascii (h : 0x80 ≤ c.toNat) : c.toLower = c := by
  refine dif_neg fun hupper => ?_
  have hlast : c.toNat ≤ 90 := hupper.2
  omega

/-- A run of characters beyond ASCII has its images beyond ASCII, the kelvin sign apart. -/
lemma lowerRuns_not_ascii : ∀ q ∈ lowerRuns, q = (0x212A, 0x212A, 1, -8383) ∨ q.2.1 < 0x80 ∨
    0x80 ≤ q.1 + q.2.2.2 ∧
      (q.2.1 + q.2.2.2 < 0xD800 ∨ 0xE000 ≤ q.1 + q.2.2.2 ∧ q.2.1 + q.2.2.2 < 0x110000) := by
  decide +kernel

lemma mapByRuns_of_not_ascii (h : 0x80 ≤ c.toNat) :
    mapByRuns lowerRuns c = 'k' ∨ 0x80 ≤ (mapByRuns lowerRuns c).toNat := by
  rw [mapByRuns]
  cases hrun : lowerRuns.findSome? fun q => (Run.ofQuadruple q).map? c.toNat with
  | none => exact .inr h
  | some n =>
    obtain ⟨q, hq, hn⟩ := List.exists_of_findSome?_eq_some hrun
    simp only [Run.map?, Run.ofQuadruple, Option.ite_none_right_eq_some, Bool.and_eq_true,
      Option.some.injEq] at hn
    obtain ⟨⟨⟨hge, hle⟩, -⟩, rfl⟩ := hn
    have hfirst : q.1 ≤ c.toNat := of_decide_eq_true hge
    have hlast : c.toNat ≤ q.2.1 := of_decide_eq_true hle
    rw [Option.map_some, Option.getD_some]
    rcases lowerRuns_not_ascii q hq with rfl | hascii | ⟨hbeyond, hends⟩
    · have hkelvin : c.toNat = 0x212A := Nat.le_antisymm hlast hfirst
      rw [hkelvin]
      exact .inl rfl
    · omega
    · have hvalid : (c.toNat + q.2.2.2).toNat.isValidChar := by
        unfold Nat.isValidChar
        omega
      have himage : (Char.ofNat (c.toNat + q.2.2.2).toNat).toNat = (c.toNat + q.2.2.2).toNat := by
        rw [Char.ofNat, dif_pos hvalid]
        rfl
      rw [himage]
      omega

lemma loweredAt_of_ascii (h : c.toNat < 0x80) : loweredAt before c cs = [c.toLower] := by
  have hsigma : c ≠ 'Σ' := by
    rintro rfl
    simp at h
  rw [loweredAt, if_neg hsigma, lowerChar, if_neg (by omega), mapByRuns_of_ascii h]

/-- A character beyond ASCII begins with one beyond ASCII or with one of two letters. -/
lemma loweredAt_of_not_ascii (h : 0x80 ≤ c.toNat) (before cs : List Char) :
    ∃ y ys, loweredAt before c cs = y :: ys ∧ (y = 'i' ∨ y = 'k' ∨ 0x80 ≤ y.toNat) := by
  unfold loweredAt lowerChar lowerSigma
  split_ifs
  · exact ⟨_, _, rfl, .inr (.inr (by decide))⟩
  · exact ⟨_, _, rfl, .inr (.inr (by decide))⟩
  · exact ⟨_, _, rfl, .inl rfl⟩
  · exact ⟨_, _, rfl, .inr (mapByRuns_of_not_ascii h)⟩

/-- **A word in lower case** that is in ASCII and has no i and no k is the lower case of its
spellings in ASCII, and of no other text. -/
theorem lowerAfter_eq_iff (hw : ∀ x ∈ w, x.toNat < 0x80 ∧ x ≠ 'i' ∧ x ≠ 'k') :
    lowerAfter before cs = w ↔ cs.map Char.toLower = w := by
  induction cs generalizing before w with
  | nil => rfl
  | cons c cs ih =>
    rw [lowerAfter_cons, List.map_cons]
    by_cases hc : c.toNat < 0x80
    · rw [loweredAt_of_ascii hc, List.singleton_append]
      cases w with
      | nil => simp
      | cons x w => rw [List.cons.injEq, List.cons.injEq, ih (List.forall_mem_cons.mp hw).2]
    · rw [Nat.not_lt] at hc
      obtain ⟨y, ys, himage, hy⟩ := loweredAt_of_not_ascii hc before cs
      rw [himage, toLower_of_not_ascii hc]
      refine iff_of_false ?_ ?_
      · rintro rfl
        obtain ⟨hascii, hi, hk⟩ := hw y List.mem_cons_self
        rcases hy with rfl | rfl | hbeyond
        · exact hi rfl
        · exact hk rfl
        · omega
      · rintro rfl
        have hascii := (hw c List.mem_cons_self).1
        omega

end Text

end SceneFrames
