import SceneFrames.Proofs.Journal

/-!
Attempts: loads whose steps need not be defined.

A load takes texts for values, looks up what it has put somewhere before, and follows names that
it takes to be there. An attempt makes each such step as it stands and stops with a mishap where
the step is not defined, so a load that never comes to grief is an attempt that always succeeds.
-/

namespace SceneFrames

/-- A step that is not defined where it is made. -/
inductive Mishap
  /-- A text is no value, and there is no list for the problem. -/
  | unreadable (fault : ValueFault)
  /-- The numbers of a pose are not six finite ones. -/
  | notPlaced
  /-- A node stands for no declared frame. -/
  | noRecord (name : String)
  /-- No sibling of the name has been kept. -/
  | noSibling (name : String)
  /-- A geometry has no shape. -/
  | noShape
  /-- A walk has not passed the node. -/
  | notPassed (name : String)
  /-- The graph has no node of the name. -/
  | noNode (name : String)
  /-- A walk does not end. -/
  | endless
  /-- A frame has no root pose yet. -/
  | noRootPose (name : String)
  /-- There is no edge between the frames. -/
  | noEdge (source target : String)
  deriving DecidableEq, Repr

/-- A journal of steps that may end in a mishap. -/
abbrev Attempt (α : Type) := ExceptT Mishap Journaled α

namespace Attempt

variable {α β : Type}

/-- Steps that are defined. -/
def sure (x : Journaled α) : Attempt α := ExceptT.lift x

/-- A step that may not be defined, and that notes nothing. -/
def step (x : Except Mishap α) : Attempt α := ExceptT.mk (pure x)

@[simp] lemma step_ok (a : α) : step (.ok a) = pure a := rfl

lemma run_sure (x : Journaled α) : (sure x).run = Except.ok <$> x := rfl

lemma sure_pure (a : α) : sure (pure a) = pure a := by
  apply ExceptT.ext
  simp [run_sure]

lemma sure_bind (x : Journaled α) (f : α → Journaled β) :
    sure (x >>= f) = sure x >>= fun a => sure (f a) := by
  apply ExceptT.ext
  rw [run_sure, map_bind]
  exact (ExceptT.run_bind_lift x fun a => sure (f a)).symm

lemma sure_map (x : Journaled α) (f : α → β) : sure (f <$> x) = f <$> sure x := by
  rw [← bind_pure_comp, sure_bind, ← bind_pure_comp]
  simp only [sure_pure]

lemma sure_ite (c : Prop) [Decidable c] (x y : Journaled α) :
    sure (if c then x else y) = if c then sure x else sure y :=
  apply_ite sure c x y

lemma map_eq_sure {γ : Type} {f : γ → Attempt α} {g : γ → Journaled α} (h : ∀ c, f c = sure (g c))
    (cs : List γ) : cs.map f = (cs.map g).map sure := by
  rw [List.map_map]
  exact List.map_congr_left fun c _ => h c

end Attempt

end SceneFrames
