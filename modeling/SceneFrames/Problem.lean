import SceneFrames.Element

/-!
Problems: what can be wrong with a document, each by its cause, with the code it belongs to and
its wording.
-/

namespace SceneFrames

/-- The codes that problems and failed queries are filed under. -/
inductive ProblemCode
  | elementIncorrectType | elementMissing | elementInvalid
  | attributeMissing | attributeInvalid
  | duplicateName
  | poseRelativeToInvalid | poseRelativeToCycle
  | jointParentLinkInvalid | jointChildLinkInvalid | jointParentSameAsChild
  | frameNotFound | graphInvalid
  | fileRead | parsingError
  deriving DecidableEq, Repr

namespace ProblemCode

/-- All codes in their order. -/
def all : List ProblemCode :=
  [elementIncorrectType, elementMissing, elementInvalid, attributeMissing, attributeInvalid,
   duplicateName, poseRelativeToInvalid, poseRelativeToCycle, jointParentLinkInvalid,
   jointChildLinkInvalid, jointParentSameAsChild, frameNotFound, graphInvalid, fileRead,
   parsingError]

/-- The name of a code. -/
def name : ProblemCode → String
  | elementIncorrectType => "ELEMENT_INCORRECT_TYPE"
  | elementMissing => "ELEMENT_MISSING"
  | elementInvalid => "ELEMENT_INVALID"
  | attributeMissing => "ATTRIBUTE_MISSING"
  | attributeInvalid => "ATTRIBUTE_INVALID"
  | duplicateName => "DUPLICATE_NAME"
  | poseRelativeToInvalid => "POSE_RELATIVE_TO_INVALID"
  | poseRelativeToCycle => "POSE_RELATIVE_TO_CYCLE"
  | jointParentLinkInvalid => "JOINT_PARENT_LINK_INVALID"
  | jointChildLinkInvalid => "JOINT_CHILD_LINK_INVALID"
  | jointParentSameAsChild => "JOINT_PARENT_SAME_AS_CHILD"
  | frameNotFound => "FRAME_NOT_FOUND"
  | graphInvalid => "GRAPH_INVALID"
  | fileRead => "FILE_READ"
  | parsingError => "PARSING_ERROR"

end ProblemCode

/-- A frame as a message cites it: the kind of what declares it, and the line of that. -/
structure Citation where
  kind : String
  line : Option Int
  deriving DecidableEq, Repr

/-- A joint end: the link that moves, or the link that it moves against. -/
inductive JointEnd
  | parent | child
  deriving DecidableEq, Repr

/-- The name of the field that holds a joint end. -/
def JointEnd.key : JointEnd → String
  | parent => "parent"
  | child => "child"

/-- What is wrong with a document. -/
inductive Problem
  /-- The element is none of the kind that is loaded. -/
  | wrongElement (expected found : String)
  /-- A field cannot be read. -/
  | unreadable (key element : String) (line : Option Int) (fault : ValueFault)
  /-- An entity has no name. -/
  | nameMissing (kind : String)
  /-- A name is used again by a sibling of the same kind. -/
  | siblingRepeated (kind name : String) (line firstLine : Option Int)
      (ownerKind ownerName : String)
  /-- A frame name is used again in its scope. -/
  | frameRepeated (name scope : String) (frame first : Citation)
  /-- A frame is declared relative to a name that is no frame of the scope. -/
  | baseUnknown (base kind name scope : String)
  /-- Frames are declared relative to each other in a circle. -/
  | circle (scope : String) (route : List String)
  | geometryMissing (kind name : String)
  | geometryUnknown (kind name shape : String)
  | jointTypeMissing (joint : String)
  | jointTypeUnknown (joint type : String)
  | jointEndMissing (joint : String) (side : JointEnd)
  | axisZero
  | linkMissing (model : String)
  /-- A joint end names no link of the model. -/
  | jointEndUnknown (side : JointEnd) (link joint model : String)
  /-- Both ends of a joint name one link. -/
  | jointEndsEqual (link joint model : String)
  | versionMissing
  | versionUnsupported (version : String)
  /-- A document holds more than one world or model. -/
  | surplusEntity (kind name : String)
  | fileMissing (path : String)
  | fileMalformed (path : String)
  | fileUnreadable (path : String)
  | textMalformed
  deriving DecidableEq, Repr

/-- The versions of documents that are supported. -/
def supportedVersions : List String := ["1.4", "1.5", "1.6", "1.7"]

namespace Problem

/-- The code of a problem. -/
def code : Problem → ProblemCode
  | wrongElement .. => .elementIncorrectType
  | unreadable .. => .attributeInvalid
  | nameMissing .. => .attributeMissing
  | siblingRepeated .. => .duplicateName
  | frameRepeated .. => .duplicateName
  | baseUnknown .. => .poseRelativeToInvalid
  | circle .. => .poseRelativeToCycle
  | geometryMissing .. => .elementMissing
  | geometryUnknown .. => .elementInvalid
  | jointTypeMissing .. => .attributeMissing
  | jointTypeUnknown .. => .attributeInvalid
  | jointEndMissing .. => .elementMissing
  | axisZero => .elementInvalid
  | linkMissing .. => .elementMissing
  | jointEndUnknown .parent .. => .jointParentLinkInvalid
  | jointEndUnknown .child .. => .jointChildLinkInvalid
  | jointEndsEqual .. => .jointParentSameAsChild
  | versionMissing => .attributeMissing
  | versionUnsupported .. => .attributeInvalid
  | surplusEntity .. => .elementInvalid
  | fileMissing .. => .fileRead
  | fileMalformed .. => .parsingError
  | fileUnreadable .. => .fileRead
  | textMalformed => .parsingError

/-- The wording of a problem. -/
def message : Problem → String
  | wrongElement expected found =>
    "Attempting to load a " ++ expected ++ ", but the provided SDF element is a <" ++ found ++ ">."
  | unreadable key element line fault =>
    "Unable to read [" ++ key ++ "] of <" ++ element ++ ">" ++ lineSuffix line ++ ": " ++
      fault.message
  | nameMissing kind => kind ++ " name is required but is missing."
  | siblingRepeated kind name line firstLine ownerKind ownerName =>
    kind ++ " with name[" ++ name ++ "]" ++ lineSuffix line ++ " already exists" ++
      lineSuffix firstLine ++ " in " ++ ownerKind ++ " [" ++ ownerName ++ "]."
  | frameRepeated name scope frame first =>
    Text.capitalized frame.kind ++ " name [" ++ name ++ "]" ++ lineSuffix frame.line ++
      " in scope [" ++ scope ++ "] conflicts with the " ++ first.kind ++ " of the same name" ++
      lineSuffix first.line
  | baseUnknown base kind name scope =>
    "relative_to name [" ++ base ++ "] of " ++ kind ++ " [" ++ name ++
      "] does not match a frame in scope [" ++ scope ++ "]"
  | circle scope route =>
    "relative_to cycle detected at frame [" ++ route.headD "" ++ "] in scope [" ++ scope ++
      "]: " ++ " -> ".intercalate (route ++ [route.headD ""])
  | geometryMissing kind name => kind ++ " [" ++ name ++ "] is missing a <geometry> element."
  | geometryUnknown kind name shape =>
    kind ++ " [" ++ name ++ "] has unknown geometry <" ++ shape ++ ">."
  | jointTypeMissing joint => "joint [" ++ joint ++ "] type is required but is missing."
  | jointTypeUnknown joint type => "joint [" ++ joint ++ "] has unknown type [" ++ type ++ "]."
  | jointEndMissing joint side =>
    "joint [" ++ joint ++ "] is missing a <" ++ side.key ++ "> element."
  | axisZero => "The norm of the xyz vector cannot be zero"
  | linkMissing model =>
    "A model must have at least one link, but model [" ++ model ++ "] has none."
  | jointEndUnknown side link joint model =>
    side.key ++ " link with name[" ++ link ++ "] specified by joint with name[" ++ joint ++
      "] not found in model with name[" ++ model ++ "]."
  | jointEndsEqual link joint model =>
    "joint with name[" ++ joint ++ "] in model with name[" ++ model ++
      "] must specify different link names for parent and child, while [" ++ link ++
      "] was specified for both."
  | versionMissing => "SDF version attribute[version] is required but is missing."
  | versionUnsupported version =>
    "SDF version [" ++ version ++ "] is not one of " ++ ", ".intercalate supportedVersions ++ "."
  | surplusEntity kind name =>
    "A document holds at most one <world> or one <model>; ignoring <" ++ kind ++ "> [" ++ name ++
      "]."
  | fileMissing path => "Unable to find or open file [" ++ path ++ "]"
  | fileMalformed path => "Unable to parse file [" ++ path ++ "]"
  | fileUnreadable path => "Unable to read file [" ++ path ++ "]"
  | textMalformed => "Unable to parse string"

/-- The problem in words, with its code. -/
def text (p : Problem) : String := "Error Code " ++ p.code.name ++ ": Msg: " ++ p.message

end Problem

end SceneFrames
