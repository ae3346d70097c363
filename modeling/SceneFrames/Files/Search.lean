import SceneFrames.Files.Path
import SceneFrames.Files.System
import SceneFrames.Markup.Node
import SceneFrames.Options

/-!
Finding and reading documents. A relative path that is no file is looked for in the search paths
in turn.
-/

namespace SceneFrames

/-- The path of the file that a document path means, if there is one. -/
def Options.findFile? (options : Options) (files : FileSystem) (path : String) : Option Path :=
  let p := Path.ofText path
  if files.isFile p.text then some p
  else if p.isAbsolute then none
  else
    (options.searchPaths.map fun d => (Path.ofText d).join p).find? fun q => files.isFile q.text

/-- Why a file gives no element. -/
inductive FileFault
  /-- It is not there or cannot be read. -/
  | unreadable
  /-- It is no well-formed document. -/
  | malformed
  deriving DecidableEq, Repr

/-- The element in the file at a path. -/
def Element.ofFile (parse : Markup.Parser) (files : FileSystem) (path : String) :
    Except FileFault Element :=
  match files.read? path with
  | none => .error .unreadable
  | some bytes =>
    match Element.ofBytes? parse bytes with
    | some e => .ok e
    | none => .error .malformed

end SceneFrames
