import SceneFrames.Proofs.Markup.Heading
import SceneFrames.Proofs.Markup.Lines
import SceneFrames.Proofs.Text.Ascii

/-!
Rereading: what a declared encoding does to a text in memory.

The bytes of a text in memory are UTF-8 whatever the text declares, but what follows the name of
the encoding is decoded as the declaration says. Documents have the same elements if they read
alike in the encodings that they declare. A document reads as it is written if it is marked, or
declares no encoding or one that is UTF-8. In an encoding that takes every byte for a character it
reads as it is written just if it is in ASCII and that encoding leaves it alone: any other
character reads as several.
-/

namespace SceneFrames

@[simp] lemma Element.unlined_value (e : Element) : e.unlined.value = e.value := by cases e; rfl

namespace Markup

/-! ### What is in ASCII -/

lemma ascii_of_isSpace {c : Char} (h : isSpace c = true) : c.toNat < 0x80 := by
  simp only [isSpace, Bool.or_eq_true, beq_iff_eq, or_assoc] at h
  rcases h with rfl | rfl | rfl | rfl <;> decide

lemma ascii_of_isAlphanum {c : Char} (h : c.isAlphanum = true) : c.toNat < 0x80 := by
  obtain hletter | hdigit := Bool.or_eq_true_iff.mp h
  · obtain hupper | hlower := Bool.or_eq_true_iff.mp hletter
    · have hle : c.toNat ≤ 90 := (of_decide_eq_true hupper).2
      omega
    · have hle : c.toNat ≤ 122 := of_decide_eq_true (Bool.and_eq_true_iff.mp hlower).2
      omega
  · have hle : c.toNat ≤ 57 := of_decide_eq_true (Bool.and_eq_true_iff.mp hdigit).2
    omega

lemma SettingKey.ascii_of_isValueChar {c : Char} (h : isValueChar c = true) :
    c.toNat < 0x80 := by
  simp only [isValueChar, Bool.or_eq_true, beq_iff_eq, or_assoc] at h
  rcases h with halphanum | rfl | rfl | rfl
  · exact ascii_of_isAlphanum halphanum
  · decide
  · decide
  · decide

namespace Setting

variable {k : SettingKey}

/-- A setting with one space before it and none around its equals sign. -/
def plain (value : List Char) (allowed : k.allows value = true) : Setting k where
  gap := [' ']
  left := []
  right := []
  quote := '"'
  value := value
  gap_ne := List.cons_ne_nil _ _
  gap_space := List.all_eq_true.mp rfl
  left_space := List.forall_mem_nil _
  right_space := List.forall_mem_nil _
  quote_or := .inl rfl
  allowed := allowed

lemma text_ascii (s : Setting k) : ∀ c ∈ s.text, c.toNat < 0x80 := by
  have hword : ∀ c ∈ k.word.toList, c.toNat < 0x80 := by cases k <;> simp [SettingKey.word]
  have hquote : s.quote.toNat < 0x80 := by
    obtain hq | hq := s.quote_or <;> rw [hq] <;> decide
  simp only [text, core, List.forall_mem_append, List.forall_mem_cons]
  exact ⟨fun c hc => ascii_of_isSpace (s.gap_space c hc), hword,
    fun c hc => ascii_of_isSpace (s.left_space c hc), by decide,
    fun c hc => ascii_of_isSpace (s.right_space c hc), hquote,
    fun c hc => SettingKey.ascii_of_isValueChar (SettingKey.isValueChar_of_allows s.allowed c hc),
    hquote, List.forall_mem_nil _⟩

lemma optionalText_ascii (s? : Option (Setting k)) :
    ∀ c ∈ optionalText s?, c.toNat < 0x80 := by
  cases s? with
  | none => exact List.forall_mem_nil _
  | some s => exact s.text_ascii

end Setting

namespace Heading

variable {h : Heading} {e? e?' : Option (Setting .encoding)} {body body' read : List Char}

/-- The end of the declaration. -/
def ending (h : Heading) : List Char :=
  Setting.optionalText h.standalone? ++ (h.closing ++ "?>".toList)

lemma rest_eq (h : Heading) (body : List Char) : h.rest body = h.ending ++ body := by
  simp [rest, ending]

lemma front_ascii (h : Heading) (e? : Option (Setting .encoding)) :
    ∀ c ∈ h.front e?, c.toNat < 0x80 := by
  simp only [front, List.forall_mem_append]
  exact ⟨by simp, h.version.text_ascii, Setting.optionalText_ascii e?⟩

lemma ending_ascii (h : Heading) : ∀ c ∈ h.ending, c.toNat < 0x80 := by
  simp only [ending, List.forall_mem_append]
  exact ⟨Setting.optionalText_ascii h.standalone?,
    fun c hc => ascii_of_isSpace (h.closing_space c hc), by simp⟩

/-- The front of a document reads as it is written if its bytes are taken for characters. -/
lemma map_ofUInt8_textBytes_text (h : Heading) (e? : Option (Setting .encoding))
    (body : List Char) : (textBytes (h.front e? ++ h.rest body)).map Char.ofUInt8 =
      h.front e? ++ h.rest ((textBytes body).map Char.ofUInt8) := by
  rw [rest_eq, rest_eq, textBytes_append, textBytes_append, List.map_append, List.map_append,
    map_ofUInt8_textBytes (h.front_ascii e?), map_ofUInt8_textBytes h.ending_ascii]

lemma map_toUInt8_rest (h : Heading) (body : List Char) :
    (h.rest ((textBytes body).map Char.ofUInt8)).map Char.toUInt8 = textBytes (h.rest body) := by
  rw [rest_eq, rest_eq, List.map_append, map_toUInt8_map_ofUInt8, textBytes_append,
    textBytes_of_ascii h.ending_ascii]

/-! ### Readings -/

variable {d : Decoder}

/-- The name of the encoding that a document is in as far as it says. -/
def encodingName (e? : Option (Setting .encoding)) : String :=
  (e?.map fun s => String.ofList s.value).getD defaultEncoding

/-- What a document in memory holds after its opening, as it is read: in the encoding that it
declares unless it is marked. -/
def reading (d : Decoder) (h : Heading) (e? : Option (Setting .encoding)) (body : List Char) :
    Option (List Char) :=
  if h.marked then some (h.rest body)
  else d.decode? (encodingName e?) (textBytes (h.rest body))

/-- What a document holds after its opening is decoded to its reading. -/
lemma open?_text (hd : d.Standard) (h : Heading) (e? : Option (Setting .encoding))
    (body : List Char) : ∃ above, d.open? (textBytes (h.text e? body)) =
      (h.reading d e? body).map fun read => ⟨opening e?, above, read⟩ := by
  cases hmarked : h.marked with
  | true =>
    have hbytes : textBytes (h.text e? body) =
        0xEF :: 0xBB :: 0xBF :: textBytes (h.front e? ++ h.rest body) := by
      rw [text, if_pos hmarked]
      rfl
    obtain ⟨line, hrun⟩ :=
      Scan.opening_reads h e? body { rest := h.front e? ++ h.rest body } rfl rfl
    refine ⟨line - 1, ?_⟩
    have hdecode : d.decode? defaultEncoding (textBytes (h.front e? ++ h.rest body)) =
        some (h.front e? ++ h.rest body) := hd.decode?_default _
    rw [Decoder.open?, hbytes, hd.detect?_marked, reading, if_pos hmarked, Option.map_some]
    simp only [List.drop_succ_cons, List.drop_zero, hdecode, StateT.run, hrun,
      Option.bind_eq_bind, Option.bind_some, Option.pure_def]
  | false =>
    have hunmarked : h.text e? body = h.front e? ++ h.rest body := by simp [text, hmarked]
    have hdetect : d.detect? (textBytes (h.text e? body)) = none := by
      rw [hunmarked]
      exact hd.detect?_markup 0x3F _ (by decide)
    -- the body is taken for characters byte by byte until the encoding is known
    obtain ⟨line, hrun⟩ := Scan.opening_reads h e? ((textBytes body).map Char.ofUInt8)
      { rest := (textBytes (h.text e? body)).map Char.ofUInt8 } rfl
      (by rw [hunmarked, map_ofUInt8_textBytes_text])
    refine ⟨line - 1, ?_⟩
    rw [Decoder.open?, hdetect, reading, hmarked]
    simp only [StateT.run, hrun, Option.bind_eq_bind, Option.bind_some, Option.pure_def,
      map_toUInt8_rest, Bool.false_eq_true, if_false]
    rw [Option.map_eq_bind]
    rfl

/-- The elements of a document are those of its reading. -/
lemma elements_text (hd : d.Standard) (h : Heading) (e? : Option (Setting .encoding))
    (body : List Char) :
    (Element.ofText? d.parse (String.ofList (h.text e? body))).map Element.unlined =
      ((h.reading d e? body).bind fun read =>
        (node? true 0 read).bind Node.toElement?).map Element.unlined := by
  obtain ⟨above, hopen⟩ := open?_text hd h e? body
  rw [Element.ofText?, Element.ofBytes?, String.toList_ofList, Decoder.parse, hopen]
  cases h.reading d e? body with
  | none => rfl
  | some read => exact unlined_elements true above 0 read

/-- Documents that read alike but for line ends have the same elements but for lines. -/
lemma elements_text_congr (hd : d.Standard)
    (hsame : (h.reading d e? body).map unifyLineEnds =
      (h.reading d e?' body').map unifyLineEnds) :
    (Element.ofText? d.parse (String.ofList (h.text e? body))).map Element.unlined =
      (Element.ofText? d.parse (String.ofList (h.text e?' body'))).map Element.unlined := by
  rw [elements_text hd, elements_text hd]
  cases hread : h.reading d e? body with
  | none =>
    rw [hread, Option.map_none, eq_comm, Option.map_eq_none_iff] at hsame
    rw [hsame]
  | some read =>
    rw [hread, Option.map_some, eq_comm, Option.map_eq_some_iff] at hsame
    obtain ⟨read', hread', hunified⟩ := hsame
    have hnode : node? true 0 read' = node? true 0 read := by simp only [node?, hunified]
    rw [hread', Option.bind_some, Option.bind_some, hnode]

/-- What the document holds after its opening reads as it is written. -/
def ReadsAsWritten (d : Decoder) (h : Heading) (e? : Option (Setting .encoding))
    (body : List Char) : Prop :=
  h.reading d e? body = some (h.rest body)

lemma readsAsWritten_of_utf8
    (hutf8 : h.marked = true ∨ d.DecodesUtf8 (encodingName e?)) : h.ReadsAsWritten d e? body := by
  rw [ReadsAsWritten, reading]
  split
  · rfl
  · exact (hutf8.resolve_left ‹_›) (h.rest body)

/-- An encoding of one byte a character reads a text as it is written just if it is in ASCII, and
the encoding leaves it alone. -/
lemma readsAsWritten_iff_of_bytewise {page : UInt8 → Option Char} (hmarked : h.marked = false)
    (hpage : d.Bytewise (encodingName e?) page) : h.ReadsAsWritten d e? body ↔
      ∀ c ∈ h.rest body, c.toNat < 0x80 ∧ page c.toUInt8 = some c := by
  have hascii (hcs : ∀ c ∈ h.rest body, c.toNat < 0x80) :
      (textBytes (h.rest body)).map page = (h.rest body).map some ↔
        ∀ c ∈ h.rest body, page c.toUInt8 = some c := by
    rw [textBytes_of_ascii hcs, List.map_map]
    exact List.map_inj_left
  rw [ReadsAsWritten, reading, hmarked, if_neg Bool.false_ne_true, hpage, mapM_eq_some_iff]
  constructor
  · intro hbytes
    have hcs : ∀ c ∈ h.rest body, c.toNat < 0x80 := by
      simpa [length_textBytes_eq_iff] using congrArg List.length hbytes
    exact fun c hc => ⟨hcs c hc, (hascii hcs).mp hbytes c hc⟩
  · intro hcs
    exact (hascii fun c hc => (hcs c hc).1).mpr fun c hc => (hcs c hc).2

/-- **What the declared encoding does to the elements.** Documents of one head, whatever encodings
they declare and however they are written after that, have the same elements but for lines if they
read alike. A document reads as it is written if it is marked, declares no encoding, or declares
one that decodes UTF-8. In an encoding of one byte a character it reads as it is written just if
what it holds after the name of the encoding is in ASCII and left alone by the encoding. -/
theorem elements_of_readings (hd : d.Standard) (h : Heading) (e? e?' : Option (Setting .encoding))
    (body body' : List Char) :
    ((h.reading d e? body).map unifyLineEnds = (h.reading d e?' body').map unifyLineEnds →
      (Element.ofText? d.parse (String.ofList (h.text e? body))).map Element.unlined =
        (Element.ofText? d.parse (String.ofList (h.text e?' body'))).map Element.unlined) ∧
      (h.marked = true ∨ e? = none ∨ d.DecodesUtf8 (encodingName e?) →
        h.ReadsAsWritten d e? body) ∧
      ∀ page, h.marked = false → d.Bytewise (encodingName e?) page →
        (h.ReadsAsWritten d e? body ↔
          ∀ c ∈ h.rest body, c.toNat < 0x80 ∧ page c.toUInt8 = some c) := by
  refine ⟨elements_text_congr hd, ?_, fun page => readsAsWritten_iff_of_bytewise⟩
  · rintro (hmarked | rfl | hutf8)
    · exact readsAsWritten_of_utf8 (.inl hmarked)
    · exact readsAsWritten_of_utf8 (.inr hd.decode?_default)
    · exact readsAsWritten_of_utf8 (.inr hutf8)

/-- The head of a document that only names the version, with single spaces. -/
def plain : Heading where
  marked := false
  version := .plain ['1', '.', '0'] rfl
  standalone? := none
  closing := []
  closing_space := List.forall_mem_nil _

/-- The encoding of western letters, as it is declared. -/
def latin : Setting .encoding := .plain "ISO-8859-1".toList rfl

/-- The value of the top element is that of the top element of the reading. -/
lemma exists_of_reading {value : String} (hd : d.Standard)
    (hread : h.reading d e? body = some read)
    (hvalue : ((node? true 0 read).bind Node.toElement?).map (·.value) = some value) :
    ∃ x, Element.ofText? d.parse (String.ofList (h.text e? body)) = some x ∧ x.value = value := by
  have helements := elements_text hd h e? body
  rw [hread, Option.bind_some] at helements
  rw [← Option.map_eq_some_iff, ← hvalue]
  simpa [Function.comp_def] using congrArg (Option.map Element.value) helements

/-- An accented letter in another encoding reads as the two letters that its bytes are. -/
theorem elements_of_readings_accent :
    let body := "<a>é</a>".toList
    let body' := "<a>Ã©</a>".toList
    ∃ x x',
      Element.ofText? Decoder.western.parse (String.ofList (plain.text (some latin) body)) =
        some x ∧
      Element.ofText? Decoder.western.parse (String.ofList (plain.text none body')) = some x' ∧
      x.value = "Ã©" ∧ x.unlined = x'.unlined ∧
      ¬ plain.ReadsAsWritten Decoder.western (some latin) body ∧
      plain.ReadsAsWritten Decoder.western none body' := by
  intro body body'
  have hd := Decoder.western_standard
  obtain ⟨hsame, -, hbytewise⟩ := elements_of_readings hd plain (some latin) none body body'
  obtain ⟨-, hwritten, -⟩ := elements_of_readings hd plain none none body' body'
  have hname : encodingName (some latin) = "ISO-8859-1" := String.ofList_toList
  have hread : plain.reading Decoder.western (some latin) body = some (plain.rest body') := by
    decide +kernel
  have hread' : plain.ReadsAsWritten Decoder.western none body' := hwritten (.inr (.inl rfl))
  have hvalue : ((node? true 0 (plain.rest body')).bind Node.toElement?).map (·.value) =
      some "Ã©" := by decide +kernel
  obtain ⟨x, hx, hxvalue⟩ := exists_of_reading hd hread hvalue
  obtain ⟨x', hx', -⟩ := exists_of_reading hd hread' hvalue
  rw [hx, hx', hread, hread'] at hsame
  refine ⟨x, x', hx, hx', hxvalue, Option.some.inj (hsame rfl), fun hreads => ?_, hread'⟩
  have hmem : 'é' ∈ plain.rest body := by simp [rest, body]
  have hascii := (hbytewise _ rfl (hname ▸ Decoder.western_bytewise)).mp hreads 'é' hmem
  exact absurd hascii.1 (by decide)

/-- Documents that differ in the declared encoding only may have different elements. -/
theorem elements_of_latin_reading :
    let body := "<a>é</a>".toList
    String.ofList (plain.text none body) = "<?xml version=\"1.0\"?><a>é</a>" ∧
      String.ofList (plain.text (some latin) body) =
        "<?xml version=\"1.0\" encoding=\"ISO-8859-1\"?><a>é</a>" ∧
      ∃ x x',
        Element.ofText? Decoder.western.parse (String.ofList (plain.text none body)) = some x ∧
        Element.ofText? Decoder.western.parse (String.ofList (plain.text (some latin) body)) =
          some x' ∧
        x.value = "é" ∧ x'.value = "Ã©" ∧ x.unlined ≠ x'.unlined := by
  intro body
  have hd := Decoder.western_standard
  have hread : plain.reading Decoder.western none body = some (plain.rest body) :=
    hd.decode?_default _
  have hread' : plain.reading Decoder.western (some latin) body =
      some (plain.rest "<a>Ã©</a>".toList) := by decide +kernel
  have helement : ((node? true 0 (plain.rest body)).bind Node.toElement?).map (·.value) =
      some "é" := by decide +kernel
  have helement' : ((node? true 0 (plain.rest "<a>Ã©</a>".toList)).bind
      Node.toElement?).map (·.value) = some "Ã©" := by decide +kernel
  obtain ⟨x, hx, hvalue⟩ := exists_of_reading hd hread helement
  obtain ⟨x', hx', hvalue'⟩ := exists_of_reading hd hread' helement'
  refine ⟨by decide +kernel, by decide +kernel, x, x', hx, hx', hvalue, hvalue', fun hsame => ?_⟩
  have hvalues := congrArg Element.value hsame
  rw [Element.unlined_value, Element.unlined_value, hvalue, hvalue'] at hvalues
  exact absurd hvalues (by decide)

end Heading

end Markup

end SceneFrames
