import SceneFrames.Files.Search
import SceneFrames.Scene.World

/-!
Documents: the top of a loaded scene. A document holds the first world or model of its top
element, and the problems of the last load.
-/

namespace SceneFrames

/-- A document and how it is loaded. -/
structure Document where
  options : Options := {}
  version : String := ""
  worlds : List World := []
  models : List Model := []
  problems : List Problem := []

namespace Document

/-- The name of the top element. -/
def tag : String := "sdf"

/-- The document as a title. -/
def title : String := "Root"

/-- What a document in memory is called. -/
def textSource : String := "<string>"

/-- The element is one that a document may hold. -/
def isTopLevel (e : Element) : Bool := e.name == Kind.world.tag || e.name == Kind.model.tag

open Loading

variable {m : Type → Type} [Loading m]

/-- Loads the version, which is one of those supported. -/
def loadVersion (e : Element) : m String := do
  let (version, found) ← take (.text e "version" "")
  if !found || version = "" then note (Journaled.report .versionMissing)
  else if !supportedVersions.contains version then
    note (Journaled.report (.versionUnsupported version))
  return version

/-- Loads the first world or model; each further one is a problem. -/
def loadTopLevel (options : Options) (e : Element) : m (List World × List Model) := do
  match e.children.filter isTopLevel with
  | [] => return ([], [])
  | first :: surplus =>
    let top ←
      if first.name = Kind.world.tag then
        (fun w => ([w], [])) <$> World.load options {} first
      else (fun m => ([], [m])) <$> Model.load options {} first
    note (Journaled.reportAll
      (surplus.map fun c => .surplusEntity c.name ((c.attribute? "name").getD "")))
    return top

/-- The document holds the problems of the load that made it. -/
def settle (x : m Document) : m Document := do
  let (d, problems) ← overhear x
  return { d with problems := problems }

/-- Loads a document from its top element. -/
def loadElement (d : Document) (e : Element) : m Document :=
  settle <|
    if e.name = tag then do
      let version ← loadVersion e
      let (worlds, models) ← loadTopLevel d.options e
      return { d with version := version, worlds := worlds, models := models }
    else do
      note (Journaled.report (.wrongElement title e.name))
      return { d with version := "", worlds := [], models := [] }

/-- The document after a load that failed before there was an element. -/
def failed (d : Document) (p : Problem) : Journaled Document := do
  Journaled.report p
  return d

/-- What is logged at the end of a load. -/
def closingEvents (source : String) (problems : List Problem) : List LogEvent :=
  if problems.isEmpty then [.documentLoaded source]
  else .documentFaulty source problems.length :: problems.map .documentProblem

/-- Ends a load from a source. -/
def finish (source : String) (x : Journaled Document) : Journaled Document :=
  settle { x with events := x.events ++ closingEvents source x.problems }

/-- Loads a document from a text. -/
def loadText (parse : Markup.Parser) (d : Document) (text : String) : Journaled Document :=
  finish textSource <|
    match Element.ofText? parse text with
    | some e => d.loadElement e
    | none => d.failed .textMalformed

/-- Loads a document from the file that a path means. -/
def loadFile (parse : Markup.Parser) (files : FileSystem) (d : Document) (path : String) :
    Journaled Document :=
  finish path <|
    match d.options.findFile? files path with
    | none => d.failed (.fileMissing path)
    | some found =>
      match Element.ofFile parse files found.text with
      | .ok e => d.loadElement e
      | .error .malformed => d.failed (.fileMalformed found.text)
      | .error .unreadable => d.failed (.fileUnreadable found.text)

/-- The world, if there is one. -/
def world? (d : Document) : Option World := d.worlds.head?

/-- The model, if there is one. -/
def model? (d : Document) : Option Model := d.models.head?

end Document

end SceneFrames
