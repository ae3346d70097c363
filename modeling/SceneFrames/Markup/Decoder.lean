import SceneFrames.Markup.Declaration

/-!
Decoders: how the bytes of a document become characters. Some documents give their encoding away
by their first bytes. The others are opened in ASCII, and what follows is in the encoding that
they declare.
-/

namespace SceneFrames.Markup

/-- What decodes bytes. -/
structure Decoder where
  /-- The encoding that is plain from the bytes of a document, whatever it declares, with the
  length of the mark at its start; none if the declaration decides. -/
  detect? : List UInt8 → Option (String × Nat)
  /-- The characters that bytes are in the encoding of a name, if there is such an encoding and
  the bytes are characters in it. -/
  decode? : String → List UInt8 → Option (List Char)

/-- The encoding of documents that do not give it away and declare none. -/
def defaultEncoding : String := "UTF-8"

/-- A document that has been opened: what it opens with, the lines above what follows, and that
as it reads. -/
structure OpenDocument where
  opening : Opening
  above : Nat
  rest : List Char

/-- Opens a document. Where the declaration decides the encoding, the bytes are taken for
characters up to its name. -/
def Decoder.open? (d : Decoder) (bytes : List UInt8) : Option OpenDocument :=
  match d.detect? bytes with
  | some (encoding, mark) => do
    let cs ← d.decode? encoding (bytes.drop mark)
    let (opening, s) ← Scan.opening.run { rest := cs }
    return { opening := opening, above := s.line - 1, rest := s.rest }
  | none => do
    let (opening, s) ← Scan.opening.run { rest := bytes.map Char.ofUInt8 }
    let cs ← d.decode? (opening.encoding?.getD defaultEncoding) (s.rest.map Char.toUInt8)
    return { opening := opening, above := s.line - 1, rest := cs }

end SceneFrames.Markup
