import SceneFrames.Text.Blank
import SceneFrames.Text.DecimalDigit
import SceneFrames.Text.Quoted
import SceneFrames.Text.LetterCase
import SceneFrames.Text.Pieces
import SceneFrames.Number.Integer
import SceneFrames.Number.Layout
import SceneFrames.Geometry.Angles
import SceneFrames.Geometry.Grid
import SceneFrames.Geometry.Written
import SceneFrames.Markup.Document
import SceneFrames.Files.Search
import SceneFrames.Frame.Query
import SceneFrames.Scene.Document
import SceneFrames.Scene.Entity
import SceneFrames.Log.Logger
import SceneFrames.Proofs.Names
import SceneFrames.Proofs.Frame.Ascent
import SceneFrames.Proofs.Frame.Walk
import SceneFrames.Proofs.Frame.Marks
import SceneFrames.Proofs.Frame.Insertion
import SceneFrames.Proofs.Frame.Graph
import SceneFrames.Proofs.Frame.Validity
import SceneFrames.Proofs.Frame.Circles
import SceneFrames.Proofs.Frame.Climb
import SceneFrames.Proofs.Frame.Traversal
import SceneFrames.Proofs.Frame.Relative
import SceneFrames.Proofs.Field.Numbers
import SceneFrames.Proofs.Journal
import SceneFrames.Proofs.Scene.WellFormed
import SceneFrames.Proofs.Scene.Siblings
import SceneFrames.Proofs.Scene.Scope
import SceneFrames.Proofs.Scene.Load
import SceneFrames.Proofs.Scene.Acceptance
import SceneFrames.Proofs.Scene.Reload
import SceneFrames.Proofs.Scene.History
import SceneFrames.Proofs.Attempt.Graph
import SceneFrames.Proofs.Attempt.Step
import SceneFrames.Proofs.Attempt.Scene
import SceneFrames.Proofs.Frame.Meeting
import SceneFrames.Proofs.Frame.Path
import SceneFrames.Proofs.Frame.Route
import SceneFrames.Proofs.Attempt.Query
import SceneFrames.Proofs.Frame.Reordering
import SceneFrames.Proofs.Frame.Construction
import SceneFrames.Proofs.Scene.Entities
import SceneFrames.Proofs.Scene.Repetitions
import SceneFrames.Proofs.Scene.Opacity
import SceneFrames.Proofs.Scene.Answers
import SceneFrames.Proofs.Geometry.Homogeneous
import SceneFrames.Proofs.Scene.Alike
import SceneFrames.Proofs.Scene.Blocks
import SceneFrames.Proofs.Scene.Interleaving
import SceneFrames.Proofs.Scene.LegacyBase
import SceneFrames.Proofs.Field.Vectors
import SceneFrames.Proofs.Scene.DeclaredPose
import SceneFrames.Proofs.Scene.TopLevel
import SceneFrames.Proofs.Markup.Asides
import SceneFrames.Proofs.Geometry.Tolerance
import SceneFrames.Proofs.Frame.Classification
import SceneFrames.Proofs.Log.Setup
import SceneFrames.Proofs.Markup.Rereading
import SceneFrames.Proofs.Field.Grammar
import SceneFrames.Proofs.Attempt.Lookup
