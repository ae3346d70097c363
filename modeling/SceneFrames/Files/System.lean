/-!
File systems: what a program can ask about the files around it. How paths lead to files is the
file system's own business: from the working directory or from a root, through links or not.
-/

namespace SceneFrames

/-- The files as they are at some time. -/
structure FileSystem where
  /-- There is a file at a path. -/
  isFile : String → Bool
  /-- The bytes of the file at a path, if they can be read. -/
  read? : String → Option (List UInt8)
  /-- The file that is opened for writing at a path, by a name of its own that all paths to it
  share; none if no file can be opened there. -/
  opened? : String → Option String

end SceneFrames
