import SceneFrames.Proofs.Attempt.Graph
import SceneFrames.Proofs.Field.Numbers
import SceneFrames.Scene.Loading

/-!
The steps of a load as they stand.

A load is made of the same steps in whatever monad it is made. Attempts are such a monad: a text is
taken for a value though there is no list for problems, a pose is made of numbers that had better
be six and finite, a first child and a namesake are asked for as if they were there, and a graph
is built with all its look-ups. Where a step is defined, the attempt at it is what the running
load makes of it.
-/

namespace SceneFrames

open Attempt

variable {α : Type}

/-! ### Fields -/

/-- A field as a value of a kind, or the default, and whether there is one. A text that is no
value has nowhere to go. -/
def Element.demand (e : Element) (k : FieldKind) (key : String) (default : k.Value) :
    Attempt (k.Value × Bool) :=
  match e.getStrictWith k key default id with
  | .ok found => pure found
  | .error fault => throw (.unreadable fault)

/-- Every text is a text. -/
lemma Element.demand_text (e : Element) (key default : String) : e.demand .text key default =
    pure ((e.word? key).getD default, (e.word? key).isSome) := by
  unfold demand getStrictWith read? word?
  cases e.fieldText? key <;> rfl

/-- The pose that numbers stand for. There must be six of them, and they must be finite. -/
def attemptPlacing (bs : List Number.Binary64) : Except Mishap (Pose Float) :=
  match bs with
  | [x, y, z, roll, pitch, yaw] =>
    if bs.all Number.Binary64.isFinite then
      .ok (Pose.ofRollPitchYaw ⟨x.toFloat, y.toFloat, z.toFloat⟩
        ⟨roll.toFloat, pitch.toFloat, yaw.toFloat⟩)
    else .error .notPlaced
  | _ => .error .notPlaced

/-- The declared pose, or the identity if there is none. -/
def Element.attemptPose (e : Element) : Attempt (Pose Float) := do
  match e.fieldText? "pose" with
  | none => return Pose.identity
  | some text =>
    match readVector text 6 with
    | .ok bs => step (attemptPlacing bs)
    | .error fault =>
      sure (Journaled.report (.unreadable "pose" e.name e.line fault))
      return Pose.identity

/-- Numbers that have been read as a pose are six and finite. -/
lemma attemptPlacing_of_readVector {text : String} {bs : List Number.Binary64}
    (h : readVector text 6 = .ok bs) : ∃ p, attemptPlacing bs = .ok p ∧ readPose text = .ok p := by
  obtain ⟨hlist, hsix⟩ := readVector_eq_ok_iff.mp h
  match bs, hsix, hlist.finite with
  | [x, y, z, roll, pitch, yaw], _, hfinite =>
    exact ⟨_, if_pos (List.all_eq_true.mpr hfinite), by rw [readPose, h]⟩

lemma Element.attemptPose_eq (e : Element) :
    e.attemptPose = sure (Prod.fst <$> e.get .pose "pose" Pose.identity) := by
  unfold attemptPose get getWith read?
  cases e.fieldText? "pose" with
  | none => exact (sure_pure _).symm
  | some text =>
    simp only [Option.map_some, FieldKind.read]
    cases h : readVector text 6 with
    | error fault =>
      have hread : readPose text = .error fault := by rw [readPose, h]
      rw [hread]
      have hreport : (do
            sure (Journaled.report (.unreadable "pose" e.name e.line fault))
            return Pose.identity : Attempt (Pose Float)) =
          sure (Journaled.report (.unreadable "pose" e.name e.line fault) >>= fun _ =>
            pure Pose.identity) := by
        simp only [sure_bind, sure_pure]
      exact hreport
    | ok bs =>
      obtain ⟨p, hplaced, hread⟩ := attemptPlacing_of_readVector h
      simp [hplaced, hread, sure_pure]

/-! ### Steps -/

namespace Step

/-- A step as it stands. -/
def attempt : Step α → Attempt α
  | text e key default => e.demand .text key default
  | pose e => e.attemptPose
  | firstChild e =>
    match e.children with
    | [] => throw .noShape
    | c :: _ => pure c
  | namesake nameOf as a =>
    match as.find? fun b => nameOf b == nameOf a with
    | some b => pure b
    | none => throw (.noSibling (nameOf a))
  | graph records scope => step (FrameGraph.attempt records scope)

/-- What has to be so for a step to be defined. -/
def Defined : Step α → Prop
  | firstChild e => e.children ≠ []
  | namesake nameOf as a => ∃ b ∈ as, nameOf b = nameOf a
  | _ => True

lemma attempt_eq {s : Step α} (h : s.Defined) : s.attempt = sure s.journaled := by
  cases s with
  | text e key default => rw [attempt, Element.demand_text, journaled, sure_pure]
  | pose e => exact e.attemptPose_eq
  | firstChild e =>
    obtain ⟨c, cs, hcs⟩ := List.exists_cons_of_ne_nil h
    simp [attempt, journaled, hcs, sure_pure]
  | namesake nameOf as a =>
    obtain ⟨b, hb, hname⟩ := h
    have hfind : (as.find? fun b => nameOf b == nameOf a).isSome = true :=
      List.find?_isSome.mpr ⟨b, hb, by simpa using hname⟩
    obtain ⟨c, hc⟩ := Option.isSome_iff_exists.mp hfind
    simp [attempt, journaled, hc, sure_pure]
  | graph records scope =>
    rw [attempt, FrameGraph.attempt_eq, step_ok, journaled, sure_pure]

end Step

instance : Loading Attempt where
  note := sure
  take s := s.attempt
  overhear x := ExceptT.mk
    { x.run with value := x.run.value.map fun a => (a, x.run.problems) }

namespace Attempt

open Loading

lemma note_eq_sure (x : Journaled α) : (note x : Attempt α) = sure x := rfl

lemma take_eq_sure {s : Step α} (h : s.Defined) : (take s : Attempt α) = sure (take s) :=
  s.attempt_eq h

lemma text_eq_sure (e : Element) (key default : String) :
    (take (.text e key default) : Attempt (String × Bool)) = sure (take (.text e key default)) :=
  take_eq_sure trivial

lemma pose_eq_sure (e : Element) :
    (take (.pose e) : Attempt (Pose Float)) = sure (take (.pose e)) :=
  take_eq_sure trivial

lemma graph_eq_sure (records : List (FrameRecord (Pose Float))) (scope : String) :
    (take (.graph records scope) : Attempt SceneGraph) = sure (take (.graph records scope)) :=
  take_eq_sure trivial

lemma overhear_sure (x : Journaled α) :
    (overhear (sure x) : Attempt (α × List Problem)) = sure (overhear x) := by
  apply ExceptT.ext
  apply Journaled.ext <;> simp [overhear, run_sure, Except.map]

lemma closing_sure (x : Journaled α) (f : α → List Problem → LogEvent) :
    closing (sure x) f = sure (closing x f) := by
  simp only [closing, overhear_sure, note_eq_sure, sure_bind, sure_pure, note_eq]

lemma loadAs_sure {k : Kind} {old : α} {e : Element} (x : Journaled α) :
    loadAs k old e (sure x) = sure (loadAs k old e x) := by
  simp only [loadAs, note_eq_sure, note_eq, sure_ite, sure_bind, sure_pure]

end Attempt

end SceneFrames
