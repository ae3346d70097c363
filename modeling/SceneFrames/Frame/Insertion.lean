import SceneFrames.Frame.Record

/-!
Insertion of declared frames: the first record of each name becomes a frame, and every frame
points at its base, which may be declared later. Records without a name are passed over.
-/

namespace SceneFrames

variable {P : Type}

/-- The frame of a name. -/
def findFrame (frames : List (FrameRecord P)) (name : String) : Option (FrameRecord P) :=
  frames.find? (·.name == name)

/-- The name is the root's or a frame's. -/
def isNode (frames : List (FrameRecord P)) (name : String) : Bool :=
  name == "" || (findFrame frames name).isSome

/-- The frames after one more record, and the problem with it, if any. -/
def insertRecord (scope : String) (st : List (FrameRecord P) × List Problem)
    (r : FrameRecord P) : List (FrameRecord P) × List Problem :=
  if r.name = "" then st
  else
    match findFrame st.1 r.name with
    | some first => (st.1, st.2 ++ [.frameRepeated r.name scope r.citation first.citation])
    | none => (st.1 ++ [r], st.2)

/-- The frames of records in order of declaration, and a problem for each repeated name. -/
def insertRecords (scope : String) (records : List (FrameRecord P)) :
    List (FrameRecord P) × List Problem :=
  records.foldl (insertRecord scope) ([], [])

/-- The problem with the base of a frame, if it is no node. -/
def baseProblem? (scope : String) (frames : List (FrameRecord P)) (r : FrameRecord P) :
    Option Problem :=
  if isNode frames r.relativeTo then none
  else some (.baseUnknown r.relativeTo r.kind r.name scope)

/-- The frame that a frame's pose is relative to; the root and a frame whose base is no node
have none. -/
def baseOf? (frames : List (FrameRecord P)) (name : String) : Option String :=
  (findFrame frames name).bind fun r =>
    if isNode frames r.relativeTo then some r.relativeTo else none

end SceneFrames
