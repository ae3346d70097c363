import SceneFrames.Markup.Document
import Mathlib.Data.List.Basic
import Mathlib.Tactic.Lemma

/-!
The bytes of texts in memory, and what decoders make of them.

The bytes of a text in memory are UTF-8: one for a character in ASCII, several for any other. Of a
decoder only three things are assumed. Markup does not give its encoding away, the mark of UTF-8
does, and UTF-8 is decoded. Which other encodings there are, by which names, and what bytes are in
them is left to the decoder. So a document that declares nothing reads as it is written.
-/

namespace SceneFrames.Markup

variable {c : Char} {cs : List Char}

/-! ### Bytes -/

@[simp] lemma textBytes_nil : textBytes [] = [] := rfl

lemma textBytes_cons (c : Char) (cs : List Char) :
    textBytes (c :: cs) = String.utf8EncodeChar c ++ textBytes cs :=
  rfl

lemma textBytes_append (cs ds : List Char) :
    textBytes (cs ++ ds) = textBytes cs ++ textBytes ds :=
  List.flatMap_append

lemma utf8Size_eq_one_iff : c.utf8Size = 1 ↔ c.toNat < 0x80 := by
  have hval : c.val.toNat = c.toNat := rfl
  have hlast : (127 : UInt32).toNat = 127 := rfl
  rw [Char.utf8Size_eq_one_iff, UInt32.le_iff_toNat_le]
  omega

lemma length_textBytes_cons (c : Char) (cs : List Char) :
    (textBytes (c :: cs)).length = c.utf8Size + (textBytes cs).length := by
  simp [textBytes_cons]

lemma length_le_length_textBytes (cs : List Char) : cs.length ≤ (textBytes cs).length := by
  induction cs with
  | nil => simp
  | cons c cs ih =>
    have hpos := c.utf8Size_pos
    rw [length_textBytes_cons, List.length_cons]
    omega

/-- Only ASCII takes one byte a character. -/
lemma length_textBytes_eq_iff :
    (textBytes cs).length = cs.length ↔ ∀ c ∈ cs, c.toNat < 0x80 := by
  induction cs with
  | nil => simp
  | cons c cs ih =>
    have hle := length_le_length_textBytes cs
    have hpos := c.utf8Size_pos
    rw [length_textBytes_cons, List.length_cons, List.forall_mem_cons, ← ih,
      ← utf8Size_eq_one_iff]
    omega

lemma textBytes_cons_of_ascii (hc : c.toNat < 0x80) (cs : List Char) :
    textBytes (c :: cs) = c.toUInt8 :: textBytes cs := by
  rw [textBytes_cons, String.utf8EncodeChar_eq_singleton (utf8Size_eq_one_iff.mpr hc)]
  rfl

/-- In ASCII the bytes of a text are its characters. -/
lemma textBytes_of_ascii (h : ∀ c ∈ cs, c.toNat < 0x80) : textBytes cs = cs.map Char.toUInt8 := by
  induction cs with
  | nil => rfl
  | cons c cs ih =>
    obtain ⟨hc, hcs⟩ := List.forall_mem_cons.mp h
    rw [textBytes_cons_of_ascii hc, ih hcs, List.map_cons]

lemma ofUInt8_toUInt8 (hc : c.toNat < 0x80) : Char.ofUInt8 c.toUInt8 = c := by
  have hval : c.val.toNat = c.toNat := rfl
  have hcode : c.val.toUInt8.toUInt32 = c.val := by
    rw [← UInt32.toNat_inj, UInt8.toNat_toUInt32, UInt32.toNat_toUInt8]
    omega
  exact Char.ext hcode

@[simp] lemma toUInt8_ofUInt8 (b : UInt8) : (Char.ofUInt8 b).toUInt8 = b :=
  UInt8.toUInt8_toUInt32 b

/-- Bytes that are taken for characters are the same bytes. -/
lemma map_toUInt8_map_ofUInt8 (bytes : List UInt8) :
    (bytes.map Char.ofUInt8).map Char.toUInt8 = bytes := by
  simp [Function.comp_def]

/-- ASCII reads as it is written if its bytes are taken for characters. -/
lemma map_ofUInt8_textBytes (h : ∀ c ∈ cs, c.toNat < 0x80) :
    (textBytes cs).map Char.ofUInt8 = cs := by
  rw [textBytes_of_ascii h, List.map_map]
  exact (List.map_congr_left fun c hc => ofUInt8_toUInt8 (h c hc)).trans (List.map_id cs)

/-! ### Decoders -/

namespace Decoder

/-- The encoding of a name decodes UTF-8. -/
def DecodesUtf8 (d : Decoder) (name : String) : Prop :=
  ∀ cs, d.decode? name (textBytes cs) = some cs

/-- The encoding of a name takes every byte for a character, if it is one in it. -/
def Bytewise (d : Decoder) (name : String) (page : UInt8 → Option Char) : Prop :=
  ∀ bytes, d.decode? name bytes = bytes.mapM page

/-- **What is assumed of a decoder.** -/
structure Standard (d : Decoder) : Prop where
  /-- Markup does not give its encoding away. There would be a zero after its first byte in an
  encoding of more than one byte a sign. -/
  detect?_markup : ∀ b bytes, b ≠ 0 → d.detect? (0x3C :: b :: bytes) = none
  /-- The mark of UTF-8 gives the encoding away. -/
  detect?_marked : ∀ bytes, d.detect? (0xEF :: 0xBB :: 0xBF :: bytes) = some (defaultEncoding, 3)
  /-- UTF-8 is decoded. -/
  decode?_default : d.DecodesUtf8 defaultEncoding

variable {d : Decoder}

lemma opening_of_undeclared (h : ['<', '?', 'x', 'm', 'l'].isPrefixOf? cs = none) :
    Scan.opening.run { rest := cs } = some ({}, { rest := cs }) := by
  simp [Scan.opening, Scan.rest, h]

/-- A document that declares nothing reads as it is written. -/
lemma Standard.parse_undeclared (hd : d.Standard) (hc : c.toNat < 0x80) (hzero : c.toUInt8 ≠ 0)
    (hne : c ≠ '?') (cs : List Char) :
    d.parse (textBytes ('<' :: c :: cs)) = node? false 0 ('<' :: c :: cs) := by
  have hbytes : textBytes ('<' :: c :: cs) = 0x3C :: c.toUInt8 :: textBytes cs := by
    rw [textBytes_cons_of_ascii (by decide), textBytes_cons_of_ascii hc]
    rfl
  have hnone : ['<', '?', 'x', 'm', 'l'].isPrefixOf?
      ((textBytes ('<' :: c :: cs)).map Char.ofUInt8) = none := by
    rw [hbytes, List.map_cons, List.map_cons, ofUInt8_toUInt8 hc]
    simp [List.isPrefixOf?, Ne.symm hne]
  have hdetect : d.detect? (textBytes ('<' :: c :: cs)) = none := by
    rw [hbytes]
    exact hd.detect?_markup _ _ hzero
  have hdecode := hd.decode?_default ('<' :: c :: cs)
  rw [← map_toUInt8_map_ofUInt8 (textBytes _)] at hdecode
  rw [parse, open?, hdetect]
  simp only [opening_of_undeclared hnone, Option.bind_eq_bind, Option.bind_some, Option.pure_def,
    Option.getD_none, hdecode, Nat.sub_self]

/-- A decoder of two encodings. -/
def western : Decoder where
  detect? bytes := if [0xEF, 0xBB, 0xBF].isPrefixOf bytes then some (defaultEncoding, 3) else none
  decode? name bytes :=
    if name = defaultEncoding then bytes.toByteArray.utf8Decode?.map Array.toList
    else if name = "ISO-8859-1" then some (bytes.map Char.ofUInt8)
    else none

lemma western_standard : western.Standard where
  detect?_markup b bytes _ := rfl
  detect?_marked bytes := rfl
  decode?_default cs := by
    have hdecode : (textBytes cs).toByteArray.utf8Decode? = some cs.toArray :=
      List.utf8Decode?_utf8Encode
    simp [western, hdecode]

lemma western_bytewise : western.Bytewise "ISO-8859-1" fun b => some (Char.ofUInt8 b) := by
  intro bytes
  have hpure : bytes.mapM (fun b => some (Char.ofUInt8 b)) = some (bytes.map Char.ofUInt8) :=
    List.mapM_pure
  rw [hpure]
  simp [western, defaultEncoding]

end Decoder

end SceneFrames.Markup
