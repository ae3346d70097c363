import SceneFrames.Files.System
import SceneFrames.Log.Event
import SceneFrames.Text.Pieces
import SceneFrames.Text.Quoted

/-!
Loggers: where events are written. A logger is set up with a level, for the console and perhaps a
file, and a new set-up takes the place of the old one. Where a logger has no handlers, as before
the first set-up, warnings are the only events that are written, and they go to the errors.
-/

namespace SceneFrames

/-- A level as a number, or by its name. -/
inductive LevelChoice
  | number (n : Int)
  | named (name : String)
  deriving DecidableEq, Repr

/-- The levels that have names. -/
def namedLevels : List (String × Int) :=
  [("CRITICAL", 50), ("FATAL", 50), ("ERROR", 40), ("WARN", 30), ("WARNING", 30), ("INFO", 20),
   ("DEBUG", 10), ("NOTSET", 0)]

/-- The level that is chosen unless another one is. -/
def LevelChoice.standard : LevelChoice := number Severity.info.rank

/-- Where a handler writes: to the console, or to an open file. -/
inductive Sink
  | console
  | file (name : String)
  deriving DecidableEq, Repr

/-- Writes the events of a level and above. -/
structure Handler where
  sink : Sink
  level : Int
  deriving DecidableEq, Repr

/-- Why a set-up fails. -/
inductive SetupFault
  | unknownLevel (name : String)
  | unwritable (path : String)
  deriving DecidableEq, Repr

/-- The wording of a failed set-up. Why a file cannot be opened is worded by the file system. -/
def SetupFault.message? : SetupFault → Option String
  | unknownLevel name => some ("Unknown level: " ++ Text.quoted name)
  | unwritable _ => none

/-- A logger, and what it has written so far. -/
structure Logger where
  level : Int := 0
  handlers : List Handler := []
  console : List String := []
  errors : List String := []
  files : List (String × List String) := []

/-- The level of a choice. -/
def LevelChoice.level : LevelChoice → Except SetupFault Int
  | number n => .ok n
  | named name =>
    match namedLevels.find? (·.1 == name) with
    | some (_, n) => .ok n
    | none => .error (.unknownLevel name)

namespace Logger

/-- The level that events need where none is set. -/
def inheritedLevel : Int := Severity.warning.rank

/-- The level that events need. -/
def threshold (l : Logger) : Int := if l.level = 0 then inheritedLevel else l.level

/-- The lines of a text, without empty ones. -/
def linesOfText (text : String) : List String := (Text.piecesOf '\n' text).filter (· ≠ "")

/-- The lines of an event, as handlers write it. -/
def linesOf (e : LogEvent) : List String :=
  linesOfText (e.speaker.name ++ " - " ++ e.severity.name ++ " - " ++ e.message)

/-- The logger after more lines in a sink. -/
def append (l : Logger) (lines : List String) : Sink → Logger
  | .console => { l with console := l.console ++ lines }
  | .file name =>
    { l with files := l.files.map fun f => if f.1 == name then (f.1, f.2 ++ lines) else f }

/-- The level of the last resort. -/
def lastResortLevel : Int := Severity.warning.rank

/-- The logger after the last resort, which writes the mere message of an event. -/
def writeLastResort (l : Logger) (e : LogEvent) : Logger :=
  if lastResortLevel ≤ e.severity.rank then { l with errors := l.errors ++ linesOfText e.message }
  else l

/-- The logger after an event. An event that no handler is there for is left to the last
resort. -/
def write (l : Logger) (e : LogEvent) : Logger :=
  if l.threshold ≤ e.severity.rank then
    if l.handlers = [] then l.writeLastResort e
    else
      (l.handlers.filter (·.level ≤ e.severity.rank)).foldl
        (fun l h => l.append (linesOf e) h.sink) l
  else l

/-- The logger after events in order. -/
def writeAll (l : Logger) (es : List LogEvent) : Logger := es.foldl write l

/-- The logger with a file opened, which is empty then. -/
def openFile (l : Logger) (name : String) : Logger :=
  { l with files := l.files.filter (·.1 ≠ name) ++ [(name, [])] }

/-- Sets a level and the handlers. An unknown level changes nothing; a file that cannot be opened
leaves the level set and no handlers. -/
def setup (l : Logger) (files : FileSystem) (choice : LevelChoice) (logFile : String) :
    Logger × Except SetupFault Unit :=
  match choice.level with
  | .error fault => (l, .error fault)
  | .ok level =>
    let cleared := { l with level := level, handlers := [] }
    if logFile = "" then
      let l := { cleared with handlers := [⟨.console, level⟩] }
      (l.write (.initialized 1), .ok ())
    else
      match files.opened? logFile with
      | none => (cleared, .error (.unwritable logFile))
      | some name =>
        let l := { cleared.openFile name with handlers := [⟨.console, level⟩, ⟨.file name, level⟩] }
        (l.write (.initialized 2), .ok ())

end Logger

end SceneFrames
