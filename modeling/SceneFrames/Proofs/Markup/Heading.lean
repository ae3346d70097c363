import SceneFrames.Proofs.Markup.Decoding

/-!
Headings: declarations at the heads of documents as they are written, and what a scan of them
finds.

A declaration sets up to three words. The version comes first; the encoding and the statement
whether the document stands alone may be missing. Each setting has spaces before it and around its
equals sign, and quotes of either kind. A scan of the opening finds the encoding, and leaves what
follows it as it is.
-/

namespace SceneFrames.Markup

/-- The words that a declaration may set. -/
inductive SettingKey
  | version | encoding | standalone
  deriving DecidableEq, Repr

namespace SettingKey

/-- The word as it is written. -/
def word : SettingKey → String
  | version => "version"
  | encoding => "encoding"
  | standalone => "standalone"

/-- The word may be set to the value. -/
def allows : SettingKey → List Char → Bool
  | version, cs => isVersion cs && cs.head? == some '1'
  | encoding, cs => isEncodingName cs
  | standalone, cs => cs == ['y', 'e', 's'] || cs == ['n', 'o']

/-- The character may be part of a value. -/
def isValueChar (c : Char) : Bool := c.isAlphanum || c == '.' || c == '_' || c == '-'

lemma isValueChar_of_allows {k : SettingKey} {cs : List Char} (h : k.allows cs = true) :
    ∀ c ∈ cs, isValueChar c = true := by
  cases k with
  | version =>
    have hv : isVersion cs = true := (Bool.and_eq_true_iff.mp h).1
    unfold isVersion at hv
    split at hv
    case h_1 d ds =>
      simp only [Bool.and_eq_true, List.all_eq_true] at hv
      simp only [List.forall_mem_cons]
      refine ⟨by simp [isValueChar, Char.isAlphanum, hv.1], rfl, fun c hc => ?_⟩
      simp [isValueChar, Char.isAlphanum, hv.2 c hc]
    case h_2 => cases hv
  | encoding =>
    match cs, h with
    | d :: ds, he =>
      simp only [allows, isEncodingName, Bool.and_eq_true, List.all_eq_true] at he
      simp only [List.forall_mem_cons]
      exact ⟨by simp [isValueChar, Char.isAlphanum, he.1], he.2⟩
  | standalone =>
    rw [allows, Bool.or_eq_true, beq_iff_eq, beq_iff_eq] at h
    obtain rfl | rfl := h <;> exact List.all_eq_true.mp rfl

end SettingKey

/-- A word with the value that it is set to, as it is written. -/
structure Setting (k : SettingKey) where
  gap : List Char
  left : List Char
  right : List Char
  quote : Char
  value : List Char
  gap_ne : gap ≠ []
  gap_space : ∀ c ∈ gap, isSpace c = true
  left_space : ∀ c ∈ left, isSpace c = true
  right_space : ∀ c ∈ right, isSpace c = true
  quote_or : quote = '"' ∨ quote = '\''
  allowed : k.allows value = true

namespace Setting

variable {k : SettingKey}

/-- The setting after the spaces before it. -/
def core (s : Setting k) : List Char :=
  k.word.toList ++ (s.left ++ '=' :: (s.right ++ s.quote :: (s.value ++ [s.quote])))

/-- The setting as it is written. -/
def text (s : Setting k) : List Char := s.gap ++ s.core

/-- A setting that may be missing as it is written. -/
def optionalText (s? : Option (Setting k)) : List Char := s?.elim [] text

/-- The text of a setting goes on after its last quote. -/
lemma core_append (s : Setting k) (t : List Char) :
    s.core ++ t = k.word.toList ++
      (s.left ++ '=' :: (s.right ++ s.quote :: (s.value ++ s.quote :: t))) := by
  simp [core]

lemma head?_core_append (s : Setting k) (t : List Char) :
    (s.core ++ t).head?.all fun c => !isSpace c := by
  rw [core_append]
  cases k <;> rfl

lemma quote_not_mem (s : Setting k) : s.quote ∉ s.value := by
  intro h
  have hc := SettingKey.isValueChar_of_allows s.allowed _ h
  obtain hq | hq := s.quote_or <;> rw [hq] at hc <;> exact absurd hc (by decide)

end Setting

/-- The head of a document but for the encoding that it names. -/
structure Heading where
  /-- The sign that marks the encoding stands before the declaration. -/
  marked : Bool
  version : Setting .version
  standalone? : Option (Setting .standalone)
  closing : List Char
  closing_space : ∀ c ∈ closing, isSpace c = true

namespace Heading

/-- The declaration up to the encoding, if it has one. -/
def front (h : Heading) (encoding? : Option (Setting .encoding)) : List Char :=
  "<?xml".toList ++ (h.version.text ++ Setting.optionalText encoding?)

/-- The end of the declaration, and what follows it. -/
def rest (h : Heading) (body : List Char) : List Char :=
  Setting.optionalText h.standalone? ++ (h.closing ++ ("?>".toList ++ body))

/-- The sign that marks the encoding as that of texts in memory. -/
def byteOrderMark : Char := Char.ofNat 0xFEFF

/-- The document with an encoding, or without one. -/
def text (h : Heading) (encoding? : Option (Setting .encoding)) (body : List Char) : List Char :=
  if h.marked then byteOrderMark :: (h.front encoding? ++ h.rest body)
  else h.front encoding? ++ h.rest body

/-- What the document opens with. -/
def opening (encoding? : Option (Setting .encoding)) : Opening :=
  { declared := true, encoding? := encoding?.map fun s => String.ofList s.value }

end Heading

namespace Scan

variable {α β : Type} {m : Scan α} {a : α} {t u : List Char}

/-- From a text the scan finds a result and leaves another text. It notes nothing, and changes
nothing else in the state but the line. -/
def Reads (m : Scan α) (t : List Char) (a : α) (u : List Char) : Prop :=
  ∀ s : ScanState, s.faulty = false → s.rest = t →
    ∃ line, m s = some (a, { s with rest := u, line := line })

namespace Reads

protected lemma pure (a : α) (t : List Char) : Reads (pure a) t a t :=
  fun s _ hs => ⟨s.line, by rw [← hs]; rfl⟩

protected lemma bind {f : α → Scan β} {b : β} {v : List Char} (hm : Reads m t a u)
    (hf : Reads (f a) u b v) : Reads (m >>= f) t b v := by
  intro s hfaulty hs
  obtain ⟨l, hms⟩ := hm s hfaulty hs
  obtain ⟨l', hfs⟩ := hf { s with rest := u, line := l } hfaulty rfl
  refine ⟨l', ?_⟩
  change (m s).bind _ = _
  rw [hms]
  exact hfs

lemma remark (t : List Char) : Reads remark t () t :=
  fun s hfaulty hs => ⟨s.line, by rw [← hs]; exact congrArg some (by rw [← hfaulty])⟩

lemma rest (t : List Char) : Reads rest t t t := fun s _ hs => ⟨s.line, by rw [← hs]; rfl⟩

lemma moveTo (taken t u : List Char) : Reads (moveTo taken u) t () u := fun _ _ _ => ⟨_, rfl⟩

lemma require {b : Bool} (h : b = true) (t : List Char) : Reads (require b) t () t := by
  subst h
  exact .pure () t

lemma next (c : Char) (t : List Char) : Reads next (c :: t) c t :=
  .bind (.rest _) (.bind (.moveTo [c] _ t) (.pure c t))

lemma accept (word : String) (t : List Char) : Reads (accept word) (word.toList ++ t) true t := by
  refine .bind (.rest _) ?_
  rw [List.isPrefixOf?_eq_some_iff_append_eq.mpr rfl]
  exact .bind (.moveTo _ _ t) (.pure true t)

lemma expect (word : String) (t : List Char) : Reads (expect word) (word.toList ++ t) () t :=
  .bind (.accept word t) (.require rfl t)

lemma dropWhile_spaces {cs : List Char} (hcs : ∀ c ∈ cs, isSpace c = true)
    (ht : t.head?.all fun c => !isSpace c) : (cs ++ t).dropWhile isSpace = t := by
  rw [List.dropWhile_append_of_pos hcs]
  cases t with
  | nil => rfl
  | cons c t => simp_all

/-- Spaces are taken up to the next character that is none. -/
lemma spaces {cs : List Char} (hcs : ∀ c ∈ cs, isSpace c = true)
    (ht : t.head?.all fun c => !isSpace c) : Reads spaces (cs ++ t) () t := by
  refine .bind (.bind (.rest _) (.bind (.moveTo _ _ _) (.pure _ _))) ?_
  rw [dropWhile_spaces hcs ht]
  exact .pure () t

lemma equals {left right : List Char} (hleft : ∀ c ∈ left, isSpace c = true)
    (hright : ∀ c ∈ right, isSpace c = true) (ht : t.head?.all fun c => !isSpace c) :
    Reads equals (left ++ '=' :: (right ++ t)) () t :=
  .bind (.spaces hleft rfl) (.bind (.expect "=" _) (.spaces hright ht))

lemma splitAtWord_singleton {q : Char} {cs : List Char} (h : q ∉ cs) (passed t : List Char) :
    splitAtWord [q] passed (cs ++ q :: t) = some (passed.reverse ++ cs, t) := by
  induction cs generalizing passed with
  | nil => simp [splitAtWord, List.isPrefixOf?]
  | cons c cs ih =>
    obtain ⟨hqc, hcs⟩ := not_or.mp (List.mem_cons.not.mp h)
    have hne : List.isPrefixOf? [q] (c :: (cs ++ q :: t)) = none := by
      simp [List.isPrefixOf?, hqc]
    rw [List.cons_append, splitAtWord, hne, ih hcs]
    simp

lemma before {word : String} {q : Char} {cs : List Char} (hw : word.toList = [q]) (h : q ∉ cs)
    (t : List Char) : Reads (before word) (cs ++ q :: t) cs t := by
  refine .bind (.rest _) ?_
  rw [hw, splitAtWord_singleton h]
  exact .bind (.moveTo _ _ t) (.pure _ t)

lemma quotedText {q : Char} {cs : List Char} (hq : q = '"' ∨ q = '\'') (h : q ∉ cs)
    (t : List Char) : Reads quotedText (q :: (cs ++ q :: t)) cs t := by
  refine .bind (.next q _) ?_
  obtain rfl | rfl := hq <;> exact .before rfl h t

/-- The value of a setting after its word. -/
lemma setting {k : SettingKey} (s : Setting k) (t : List Char) {f : List Char → Scan β} {b : β}
    {v : List Char} (hf : Reads (f s.value) t b v) :
    Reads (Scan.equals >>= fun _ => Scan.quotedText >>= f)
      (s.left ++ '=' :: (s.right ++ s.quote :: (s.value ++ s.quote :: t))) b v := by
  have hquote : (s.quote :: (s.value ++ s.quote :: t)).head?.all fun c => !isSpace c := by
    obtain hq | hq := s.quote_or <;> rw [hq] <;> rfl
  exact .bind (.equals s.left_space s.right_space hquote)
    (.bind (.quotedText s.quote_or s.quote_not_mem t) hf)

end Reads

lemma version_reads (s : Setting .version) (t : List Char) :
    Reads version (s.text ++ t) () t := by
  have hallowed : isVersion s.value && s.value.head? == some '1' := s.allowed
  rw [Setting.text, List.append_assoc]
  refine .bind (.spaces s.gap_space (s.head?_core_append t)) ?_
  rw [Setting.core_append]
  refine .bind (.expect "version" _) (.setting s t (.bind (.require hallowed t) ?_))
  split
  · exact .remark t
  · exact .pure () t

lemma encoding?_reads (s : Setting .encoding) (t : List Char) :
    Reads encoding? (s.text ++ t) (some (String.ofList s.value)) t := by
  have hhead : ((s.text ++ t).head?.any isSpace) = true := by
    obtain ⟨c, gap, hgap⟩ := List.exists_cons_of_ne_nil s.gap_ne
    simp [Setting.text, hgap, s.gap_space c (hgap ▸ List.mem_cons_self)]
  have hword : "encoding".toList.isPrefixOf ((s.text ++ t).dropWhile isSpace) = true := by
    rw [Setting.text, List.append_assoc,
      Reads.dropWhile_spaces s.gap_space (s.head?_core_append t), Setting.core_append]
    rfl
  refine .bind (.rest _) ?_
  rw [hhead, hword, Setting.text, List.append_assoc]
  refine .bind (.spaces s.gap_space (s.head?_core_append t)) ?_
  rw [Setting.core_append]
  exact .bind (.expect "encoding" _) (.setting s t (.bind (.require s.allowed t) (.pure _ t)))

/-- Where no encoding comes after the spaces, nothing is taken. -/
lemma encoding?_reads_none {t : List Char}
    (h : "encoding".toList.isPrefixOf (t.dropWhile isSpace) = false) :
    Reads encoding? t none t := by
  refine .bind (.rest t) ?_
  rw [h]
  split
  · exact .pure none t
  · exact .pure none t

/-- What ends a declaration is no encoding. -/
lemma encoding?_reads_rest (h : Heading) (body : List Char) :
    Reads encoding? (h.rest body) none (h.rest body) := by
  refine encoding?_reads_none ?_
  obtain ⟨marked, version, standalone?, closing, hclosing⟩ := h
  cases standalone? with
  | none =>
    have hend : (closing ++ ("?>".toList ++ body)).dropWhile isSpace = "?>".toList ++ body :=
      Reads.dropWhile_spaces hclosing rfl
    rw [Heading.rest, Setting.optionalText, Option.elim, List.nil_append, hend]
    rfl
  | some s =>
    rw [Heading.rest, Setting.optionalText, Option.elim, Setting.text, List.append_assoc,
      Reads.dropWhile_spaces s.gap_space (s.head?_core_append _), Setting.core_append]
    rfl

/-- The opening is found with its encoding, and what follows it is left. -/
lemma opening_reads (h : Heading) (e? : Option (Setting .encoding)) (body : List Char) :
    Reads opening (h.front e? ++ h.rest body) (Heading.opening e?) (h.rest body) := by
  have hencoding : Reads encoding? (Setting.optionalText e? ++ h.rest body)
      (e?.map fun s => String.ofList s.value) (h.rest body) := by
    cases e? with
    | none => exact encoding?_reads_rest h body
    | some s => exact encoding?_reads s (h.rest body)
  refine .bind (.rest _) ?_
  obtain ⟨c, gap, hcgap⟩ := List.exists_cons_of_ne_nil h.version.gap_ne
  have hc : isSpace c = true := h.version.gap_space c (hcgap ▸ List.mem_cons_self)
  rw [Heading.front, List.append_assoc, List.append_assoc,
    List.isPrefixOf?_eq_some_iff_append_eq.mpr rfl]
  have hopens : (h.version.text ++ (Setting.optionalText e? ++ h.rest body)).head?.any isSpace :=
    by simp [Setting.text, hcgap, hc]
  rw [Option.any_some, if_pos hopens]
  exact .bind (.expect "<?xml" _) (.bind (version_reads h.version _)
    (.bind hencoding (.pure _ _)))

end Scan

end SceneFrames.Markup
