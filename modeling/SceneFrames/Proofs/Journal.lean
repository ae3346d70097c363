import SceneFrames.Scene.Placement
import Mathlib.Tactic.Lemma

/-!
What the steps of a load note, step by step.

The problems of a load are those of its steps, so a load is without problems exactly when each
of its steps is. A field is read without a problem when every text that the element gives it is
a value of its kind.
-/

namespace SceneFrames

namespace Journaled

variable {α β : Type} {x : Journaled α}

@[simp] lemma value_map (f : α → β) (x : Journaled α) : (f <$> x).value = f x.value := rfl

@[simp] lemma problems_map (f : α → β) (x : Journaled α) : (f <$> x).problems = x.problems :=
  List.append_nil _

@[simp] lemma events_map (f : α → β) (x : Journaled α) : (f <$> x).events = x.events :=
  List.append_nil _

@[simp] lemma problems_report (p : Problem) : (report p).problems = [p] := rfl
@[simp] lemma events_report (p : Problem) : (report p).events = [] := rfl
@[simp] lemma problems_reportAll (ps : List Problem) : (reportAll ps).problems = ps := rfl
@[simp] lemma events_reportAll (ps : List Problem) : (reportAll ps).events = [] := rfl
@[simp] lemma problems_log (e : LogEvent) : (log e).problems = [] := rfl
@[simp] lemma events_log (e : LogEvent) : (log e).events = [e] := rfl

@[ext] lemma ext {x y : Journaled α} (value : x.value = y.value)
    (problems : x.problems = y.problems) (events : x.events = y.events) : x = y := by
  cases x
  cases y
  simp_all

lemma reportAll_nil_bind (f : Unit → Journaled β) : reportAll [] >>= f = f () := rfl

/-- A problem that is noted under a condition. -/
lemma ite_report (c : Prop) [Decidable c] (p : Problem) (f : Unit → Journaled β) :
    (if c then report p >>= f else f ()) = reportAll (if c then [p] else []) >>= f := by
  split
  · rfl
  · rw [reportAll_nil_bind]

end Journaled

/-! ### Fields -/

namespace Element

variable {α : Type} {e : Element} {k : FieldKind} {key : String} {default : α} {use : k.Value → α}

@[simp] lemma events_getWith : (e.getWith k key default use).events = [] := by
  unfold getWith
  split <;> rfl

@[simp] lemma events_get {default : k.Value} : (e.get k key default).events = [] :=
  events_getWith

lemma problems_getWith_eq_nil_iff : (e.getWith k key default use).problems = [] ↔
    ∀ text, e.fieldText? key = some text → ∃ v, k.read text = .ok v := by
  unfold getWith read?
  cases e.fieldText? key with
  | none => simp
  | some text => cases h : k.read text <;> simp [h]

lemma problems_get_eq_nil_iff {default : k.Value} : (e.get k key default).problems = [] ↔
    ∀ text, e.fieldText? key = some text → ∃ v, k.read text = .ok v :=
  problems_getWith_eq_nil_iff

/-- What is read depends on the default only where there is no value to be read. -/
lemma get_eq_map (e : Element) (k : FieldKind) (key : String) (default other : k.Value) :
    e.get k key default = (fun p => (((e.read? k key).bind Except.toOption).getD default, p.2)) <$>
      e.get k key other := by
  unfold get getWith
  rcases e.read? k key with _ | _ | _ <;> rfl

lemma getD_word? (e : Element) (key : String) : (e.word? key).getD "" = e.word key := rfl

/-- A word is missing when there is none, or when it is empty. -/
lemma missing_iff (e : Element) (key : String) :
    (!(e.word? key).isSome || decide (e.word key = "")) = true ↔ e.word key = "" := by
  unfold word
  cases e.word? key <;> simp

end Element

/-! ### Loads -/

namespace Loading

variable {α : Type}

@[simp] lemma note_eq (x : Journaled α) : (note x : Journaled α) = x := rfl

@[simp] lemma take_text (e : Element) (key default : String) :
    (take (.text e key default) : Journaled (String × Bool)) =
      pure ((e.word? key).getD default, (e.word? key).isSome) := rfl

@[simp] lemma take_pose (e : Element) :
    (take (.pose e) : Journaled (Pose Float)) = (·.1) <$> e.get .pose "pose" Pose.identity := rfl

@[simp] lemma take_firstChild (e : Element) :
    (take (.firstChild e) : Journaled Element) = pure (e.children.headD e) := rfl

@[simp] lemma take_namesake (nameOf : α → String) (as : List α) (a : α) :
    (take (.namesake nameOf as a) : Journaled α) =
      pure ((as.find? fun b => nameOf b == nameOf a).getD a) := rfl

@[simp] lemma take_graph (records : List (FrameRecord (Pose Float))) (scope : String) :
    (take (.graph records scope) : Journaled SceneGraph) =
      pure (FrameGraph.build records scope) := rfl

@[simp] lemma overhear_eq (x : Journaled α) :
    (overhear x : Journaled (α × List Problem)) = { x with value := (x.value, x.problems) } := rfl

lemma closing_eq (x : Journaled α) (f : α → List Problem → LogEvent) :
    closing x f = { x with events := x.events ++ [f x.value x.problems] } := by
  apply Journaled.ext <;> simp [closing]

end Loading

section LoadAs

variable {m : Type → Type} [Loading m] {α : Type} {k : Kind} {old : α} {e : Element}

lemma loadAs_of_tag {x : m α} (h : e.name = k.tag) : loadAs k old e x = x := if_pos h

lemma loadAs_of_other {x : Journaled α} (h : e.name ≠ k.tag) :
    loadAs k old e x = ⟨old, [.wrongElement k.title e.name], []⟩ := if_neg h

end LoadAs

end SceneFrames
