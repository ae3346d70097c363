import SceneFrames.Scene.World

/-!
Entities: everything in a scene seen alike. An entity has a placement, and members that are
reached by their number or by their name.
-/

namespace SceneFrames

/-- Something in a scene. -/
inductive Entity
  | world (w : World)
  | model (m : Model)
  | link (l : Link)
  | joint (j : Joint)
  | frame (f : ExplicitFrame)
  | visual (s : Shape)
  | collision (s : Shape)
  deriving Inhabited

namespace Entity

/-- An entity of a kind that nothing has been loaded into. -/
def fresh : Kind → Entity
  | .world => world {}
  | .model => model {}
  | .link => link {}
  | .joint => joint {}
  | .frame => frame {}
  | .visual => visual {}
  | .collision => collision {}

/-- The kind of an entity. -/
def kind : Entity → Kind
  | world _ => .world
  | model _ => .model
  | link _ => .link
  | joint _ => .joint
  | frame _ => .frame
  | visual _ => .visual
  | collision _ => .collision

/-- The placement of an entity. -/
def placement : Entity → Placement
  | world w => w.placement
  | model m => m.placement
  | link l => l.placement
  | joint j => j.placement
  | frame f => f.placement
  | visual s | collision s => s.placement

/-- The name of an entity. -/
def name (e : Entity) : String := e.placement.name

/-- Loads an entity from an element. -/
def load {m : Type → Type} [Loading m] (options : Options) : Entity → Element → m Entity
  | world w, e => world <$> w.load options e
  | model m, e => model <$> m.load options e
  | link l, e => link <$> l.load options e
  | joint j, e => joint <$> j.load options e
  | frame f, e => frame <$> f.load options e
  | visual s, e => visual <$> s.load .visual options e
  | collision s, e => collision <$> s.load .collision options e

/-- The members of a kind, if the entity can have such members. -/
def members? : Entity → Kind → Option (List Entity)
  | world w, .model => some (w.models.map model)
  | world w, .frame => some (w.frames.map frame)
  | model m, .link => some (m.links.map link)
  | model m, .joint => some (m.joints.map joint)
  | model m, .frame => some (m.frames.map frame)
  | model m, .model => some (m.models.map model)
  | link l, .visual => some (l.visuals.map visual)
  | link l, .collision => some (l.collisions.map collision)
  | _, _ => none

/-- The graph of the scope that an entity is, once it is loaded. -/
def graph? : Entity → Option SceneGraph
  | world w => w.graph?
  | model m => m.graph?
  | _ => none

/-- The entity of a number, counted from zero. -/
def byIndex? (es : List Entity) (i : Int) : Option Entity :=
  if 0 ≤ i then es[i.toNat]? else none

/-- The first entity of a name. -/
def byName? (es : List Entity) (name : String) : Option Entity := es.find? (·.name == name)

/-- The pose of an entity in a frame of the scope that it is a member of: the root frame, unless
one is given. A model has its declared pose then. -/
def pose (e : Entity) (relativeTo? : Option String) : Except QueryError (Pose Float) :=
  match e with
  | model m => m.pose relativeTo?
  | _ => e.placement.poseIn e.kind (relativeTo?.getD rootFrame)

/-- The pose of a frame in the scope that an entity is; none if it is no scope. -/
def framePose? (e : Entity) (name relativeTo : String) :
    Option (Except QueryError (Pose Float)) :=
  match e with
  | world w => some (w.framePose name relativeTo)
  | model m => some (m.framePose name relativeTo)
  | _ => none

/-- The frame that an entity declares. -/
def record (e : Entity) : FrameRecord (Pose Float) := e.placement.record e.kind

/-- The entity in words. -/
def description (e : Entity) : String := e.kind.title ++ "(" ++ Text.quoted e.name ++ ")"

end Entity

end SceneFrames
