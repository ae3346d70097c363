import SceneFrames.Text.Blank
import Mathlib.Data.List.DropRight

/-!
What blanks do to a text: they part its words, and they are trimmed off its ends.

A text splits by passing over blanks and by reading words: stretches without a blank that end
where a blank or the end of the text follows. Every text splits in one way only, and a stretch
of blanks separates whatever its length; at either end of the text it may also be missing. A text
is trimmed to what it is between its blanks, and a text that goes on to the same unless it goes on
with something else than blanks.
-/

namespace SceneFrames.Text

/-- A stretch of blanks. -/
def AllBlank (cs : List Char) : Prop := ∀ c ∈ cs, isBlank c = true

instance (cs : List Char) : Decidable (AllBlank cs) :=
  decidable_of_iff (cs.all isBlank = true) List.all_eq_true

/-- A stretch without blanks. -/
def NoBlank (cs : List Char) : Prop := ∀ c ∈ cs, isBlank c = false

/-- No word goes on here. -/
def Ends (cs : List Char) : Prop := ∀ c ∈ cs.head?, isBlank c = true

/-- The text splits into these words. -/
inductive SplitsInto : List Char → List (List Char) → Prop
  | nil : SplitsInto [] []
  | blank {c : Char} {cs : List Char} {ws : List (List Char)} (hc : isBlank c = true)
      (h : SplitsInto cs ws) : SplitsInto (c :: cs) ws
  | word {w cs : List Char} {ws : List (List Char)} (hw : w ≠ []) (hletters : NoBlank w)
      (hend : Ends cs) (h : SplitsInto cs ws) : SplitsInto (w ++ cs) (w :: ws)

/-- The texts differ in one stretch of blanks: at the start or the end of the text in any way,
and between two parts of it in a way that leaves some blank. -/
inductive Reblanked : List Char → List Char → Prop
  | start {g g' : List Char} (hg : AllBlank g) (hg' : AllBlank g') (cs : List Char) :
      Reblanked (g ++ cs) (g' ++ cs)
  | finish (cs : List Char) {g g' : List Char} (hg : AllBlank g) (hg' : AllBlank g') :
      Reblanked (cs ++ g) (cs ++ g')
  | between (a : List Char) {g g' : List Char} (hg : AllBlank g) (hg' : AllBlank g')
      (hsome : g ≠ []) (hsome' : g' ≠ []) (b : List Char) :
      Reblanked (a ++ (g ++ b)) (a ++ (g' ++ b))

/-- What a text is between the blanks at its two ends. -/
structure IsCore (cs w : List Char) : Prop where
  between : ∃ before after, AllBlank before ∧ AllBlank after ∧ cs = before ++ (w ++ after)
  first : ∀ c ∈ w.head?, isBlank c = false
  last : ∀ c ∈ w.getLast?, isBlank c = false

variable {cs cs' a b g w : List Char} {ws : List (List Char)} {c : Char}

/-! ### Words -/

@[simp] lemma consWord_nil : consWord [] ws = ws := rfl

lemma consWord_of_ne_nil (h : w ≠ []) : consWord w ws = w :: ws := by
  simp [consWord, h]

lemma consWord_append (vs : List (List Char)) :
    consWord w (ws ++ vs) = consWord w ws ++ vs := by
  by_cases hw : w = []
  · simp [hw]
  · simp [consWord_of_ne_nil hw]

/-- Letters in front lengthen the word that is still open. -/
lemma foldr_wordStep_letters (hw : NoBlank w) (st : List Char × List (List Char)) :
    w.foldr wordStep st = (w ++ st.1, st.2) := by
  induction w with
  | nil => rfl
  | cons c w ih =>
    rw [List.foldr_cons, ih fun d hd => hw d (List.mem_cons_of_mem c hd), wordStep,
      hw c List.mem_cons_self]
    rfl

/-- No word is open before a blank or the end. -/
lemma foldr_wordStep_of_ends (h : Ends cs) (st : List (List Char)) :
    (cs.foldr wordStep ([], st)).1 = [] := by
  cases cs with
  | nil => rfl
  | cons c cs => simp [wordStep, h c rfl]

/-- Words that stand finished after a text stay there. -/
lemma foldr_wordStep_append (vs : List (List Char)) :
    cs.foldr wordStep ([], vs) =
      ((cs.foldr wordStep ([], [])).1, (cs.foldr wordStep ([], [])).2 ++ vs) := by
  induction cs with
  | nil => rfl
  | cons c cs ih =>
    simp only [List.foldr_cons, ih, wordStep]
    split
    · rw [consWord_append]
    · rfl

lemma words_letters (hw : w ≠ []) (hletters : NoBlank w) (hend : Ends cs) :
    words (w ++ cs) = w :: words cs := by
  have hopen := foldr_wordStep_of_ends hend []
  simp only [words, List.foldr_append, foldr_wordStep_letters hletters, hopen, List.append_nil,
    consWord_of_ne_nil hw, consWord_nil]

/-- A blank separates: the words before it and the words after it do not meet. -/
theorem words_append_blank (hc : isBlank c = true) :
    words (a ++ c :: b) = words a ++ words b := by
  have hafter : (c :: b).foldr wordStep ([], []) = ([], words b) := by
    simp [wordStep, hc, words]
  rw [words, List.foldr_append, hafter, foldr_wordStep_append, consWord_append]
  rfl

lemma words_append_of_allBlank (hg : AllBlank g) : words (g ++ cs) = words cs := by
  induction g with
  | nil => rfl
  | cons c g ih =>
    rw [List.cons_append, words_cons_blank (hg c List.mem_cons_self),
      ih fun d hd => hg d (List.mem_cons_of_mem c hd)]

lemma words_append_gap (hg : AllBlank g) (hsome : g ≠ []) :
    words (a ++ (g ++ b)) = words a ++ words b := by
  obtain ⟨c, g, rfl⟩ := List.exists_cons_of_ne_nil hsome
  rw [List.cons_append, words_append_blank (hg c List.mem_cons_self),
    words_append_of_allBlank fun d hd => hg d (List.mem_cons_of_mem c hd)]

lemma words_append_allBlank (hg : AllBlank g) : words (cs ++ g) = words cs := by
  by_cases hsome : g = []
  · rw [hsome, List.append_nil]
  · have h := words_append_gap (a := cs) (b := []) hg hsome
    rwa [List.append_nil, words_nil, List.append_nil] at h

/-- Texts that differ in a stretch of blanks have the same words. -/
theorem Reblanked.words_eq (h : Reblanked cs cs') : words cs = words cs' := by
  cases h with
  | start hg hg' cs => rw [words_append_of_allBlank hg, words_append_of_allBlank hg']
  | finish cs hg hg' => rw [words_append_allBlank hg, words_append_allBlank hg']
  | between a hg hg' hsome hsome' b => rw [words_append_gap hg hsome, words_append_gap hg' hsome']

/-- What the scan holds at a place of a text: a word that is open there, and a splitting of
what comes after that word. -/
lemma splitsInto_foldr (cs : List Char) : ∃ rest,
    cs = (cs.foldr wordStep ([], [])).1 ++ rest ∧
      NoBlank (cs.foldr wordStep ([], [])).1 ∧ Ends rest ∧
      SplitsInto rest (cs.foldr wordStep ([], [])).2 := by
  induction cs with
  | nil => exact ⟨[], rfl, by simp [NoBlank], by simp [Ends], .nil⟩
  | cons c cs ih =>
    obtain ⟨rest, hcs, hletters, hend, hrest⟩ := ih
    rw [List.foldr_cons, wordStep]
    generalize cs.foldr wordStep ([], []) = st at hcs hletters hrest
    cases hc : isBlank c with
    | true =>
      -- The blank closes the open word, if there is one.
      refine ⟨c :: cs, rfl, by simp [NoBlank], by simp [Ends, hc], .blank hc ?_⟩
      by_cases hopen : st.1 = []
      · rw [hcs, hopen]
        exact hrest
      · rw [hcs]
        simpa [consWord_of_ne_nil hopen] using hrest.word hopen hletters hend
    | false =>
      refine ⟨rest, by simp [← hcs], ?_, hend, hrest⟩
      simpa [NoBlank, hc] using hletters

/-- **A text splits in one way**, into its words. -/
theorem splitsInto_iff : SplitsInto cs ws ↔ words cs = ws := by
  constructor
  · intro h
    induction h with
    | nil => rfl
    | blank hc _ ih => rw [words_cons_blank hc, ih]
    | word hw hletters hend _ ih => rw [words_letters hw hletters hend, ih]
  · rintro rfl
    obtain ⟨rest, hcs, hletters, hend, hrest⟩ := splitsInto_foldr cs
    rw [words]
    generalize cs.foldr wordStep ([], []) = st at hcs hletters hrest
    by_cases hopen : st.1 = []
    · rw [hcs, hopen]
      exact hrest
    · rw [hcs, consWord_of_ne_nil hopen]
      exact hrest.word hopen hletters hend

/-! ### Trimming -/

lemma trimLeft_eq_nil_iff : trimLeft cs = [] ↔ AllBlank cs := by
  simp [trimLeft, AllBlank, List.dropWhile_eq_nil_iff]

lemma trimLeft_append_of_allBlank (h : AllBlank a) : trimLeft (a ++ b) = trimLeft b := by
  have hnil : a.dropWhile isBlank = [] := trimLeft_eq_nil_iff.mpr h
  simp [trimLeft, List.dropWhile_append, hnil]

lemma trimLeft_append_of_not_allBlank (h : ¬ AllBlank a) :
    trimLeft (a ++ b) = trimLeft a ++ b := by
  have hsome : a.dropWhile isBlank ≠ [] := mt trimLeft_eq_nil_iff.mp h
  simp [trimLeft, List.dropWhile_append, hsome]

lemma allBlank_reverse_iff : AllBlank cs.reverse ↔ AllBlank cs := by
  simp [AllBlank]

lemma allBlank_trimLeft_iff : AllBlank (trimLeft cs) ↔ AllBlank cs := by
  refine ⟨fun h c hc => ?_, fun h c hc => h c (List.dropWhile_subset _ hc)⟩
  rw [← List.takeWhile_append_dropWhile (p := isBlank) (l := cs)] at hc
  rcases List.mem_append.mp hc with hc | hc
  · exact List.mem_takeWhile_imp hc
  · exact h c hc

lemma trim_eq_nil_iff : trim cs = [] ↔ AllBlank cs := by
  rw [trim, List.reverse_eq_nil_iff, trimLeft_eq_nil_iff, allBlank_reverse_iff,
    allBlank_trimLeft_iff]

lemma trim_append_of_allBlank (h : AllBlank a) : trim (a ++ b) = trim b := by
  rw [trim, trimLeft_append_of_allBlank h, ← trim]

/-- More text at the end shows unless it is blank. -/
lemma trim_append_eq_iff : trim (a ++ b) = trim a ↔ AllBlank b := by
  by_cases ha : AllBlank a
  · rw [trim_append_of_allBlank ha, trim_eq_nil_iff.mpr ha, trim_eq_nil_iff]
  · rw [trim, trim, trimLeft_append_of_not_allBlank ha, List.reverse_append, List.reverse_inj]
    by_cases hb : AllBlank b
    · exact iff_of_true (trimLeft_append_of_allBlank (allBlank_reverse_iff.mpr hb)) hb
    · refine iff_of_false (fun h => ?_) hb
      rw [trimLeft_append_of_not_allBlank (mt allBlank_reverse_iff.mp hb)] at h
      have hlonger := congrArg List.length h
      have hfits : (trimLeft (trimLeft a).reverse).length ≤ (trimLeft a).reverse.length :=
        (List.dropWhile_sublist _).length_le
      have hsome : 0 < (trimLeft b.reverse).length :=
        List.length_pos_iff.mpr (mt (trimLeft_eq_nil_iff.trans allBlank_reverse_iff).mp hb)
      rw [List.length_append] at hlonger
      omega

lemma trimLeft_eq_self (h : ∀ c ∈ cs.head?, isBlank c = false) : trimLeft cs = cs := by
  cases cs with
  | nil => rfl
  | cons c cs => simp [trimLeft, h c rfl]

lemma head?_trimLeft_not_blank (cs : List Char) :
    ∀ c ∈ (trimLeft cs).head?, isBlank c = false := by
  intro c hc
  have h := List.head?_dropWhile_not isBlank cs
  rw [trimLeft] at hc
  rw [hc] at h
  exact h

/-- **A text is trimmed** to what it is between its blanks. -/
theorem trim_eq_iff : trim cs = w ↔ IsCore cs w := by
  constructor
  · rintro rfl
    have hleft := List.takeWhile_append_dropWhile (p := isBlank) (l := cs)
    have hright := List.rdropWhile_append_rtakeWhile (p := isBlank) (l := trimLeft cs)
    have hbetween : cs = cs.takeWhile isBlank ++ (trim cs ++ (trimLeft cs).rtakeWhile isBlank) :=
      hleft.symm.trans (congrArg _ hright.symm)
    refine ⟨⟨_, _, fun c => List.mem_takeWhile_imp, fun c => List.mem_rtakeWhile_imp, hbetween⟩,
      ?_, ?_⟩
    · intro c hc
      refine head?_trimLeft_not_blank cs c ?_
      rw [← hright]
      exact List.mem_head?_append_of_mem_head? hc
    · intro c hc
      rw [trim, List.getLast?_reverse] at hc
      exact head?_trimLeft_not_blank _ c hc
  · rintro ⟨⟨before, after, hbefore, hafter, rfl⟩, hfirst, hlast⟩
    rw [trim_append_of_allBlank hbefore, trim_append_eq_iff.mpr hafter, trim,
      trimLeft_eq_self hfirst, trimLeft_eq_self (by simpa using hlast), List.reverse_reverse]

end SceneFrames.Text
