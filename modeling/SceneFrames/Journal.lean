import SceneFrames.Log.Event

/-!
Journals: results together with the problems met and the events logged on the way, both in
order. Steps are chained by a monad that appends what each adds.
-/

namespace SceneFrames

/-- A result, the problems met on the way to it, and the events logged. -/
structure Journaled (α : Type) where
  value : α
  problems : List Problem := []
  events : List LogEvent := []

namespace Journaled

variable {α β : Type}

/-- The second step after the first, and all that both have noted. -/
def bind (x : Journaled α) (f : α → Journaled β) : Journaled β :=
  let y := f x.value
  ⟨y.value, x.problems ++ y.problems, x.events ++ y.events⟩

instance : Monad Journaled where
  pure a := ⟨a, [], []⟩
  bind := bind

/-- Notes a problem. -/
def report (p : Problem) : Journaled Unit := ⟨(), [p], []⟩

/-- Notes problems in order. -/
def reportAll (ps : List Problem) : Journaled Unit := ⟨(), ps, []⟩

/-- Logs an event. -/
def log (e : LogEvent) : Journaled Unit := ⟨(), [], [e]⟩

@[simp] theorem value_pure (a : α) : (pure a : Journaled α).value = a := rfl
@[simp] theorem problems_pure (a : α) : (pure a : Journaled α).problems = [] := rfl
@[simp] theorem events_pure (a : α) : (pure a : Journaled α).events = [] := rfl

@[simp] theorem value_bind (x : Journaled α) (f : α → Journaled β) :
    (x >>= f).value = (f x.value).value := rfl

@[simp] theorem problems_bind (x : Journaled α) (f : α → Journaled β) :
    (x >>= f).problems = x.problems ++ (f x.value).problems := rfl

@[simp] theorem events_bind (x : Journaled α) (f : α → Journaled β) :
    (x >>= f).events = x.events ++ (f x.value).events := rfl

theorem map_id_eq (x : Journaled α) : id <$> x = x := by
  show Journaled.mk _ _ _ = x
  simp

theorem pure_bind_eq (a : α) (f : α → Journaled β) : pure a >>= f = f a := by
  show Journaled.mk _ _ _ = f a
  simp

theorem bind_assoc_eq {γ : Type} (x : Journaled α) (f : α → Journaled β) (g : β → Journaled γ) :
    x >>= f >>= g = x >>= fun a => f a >>= g := by
  show Journaled.mk _ _ _ = Journaled.mk _ _ _
  simp [List.append_assoc]

instance : LawfulMonad Journaled := LawfulMonad.mk' Journaled map_id_eq pure_bind_eq bind_assoc_eq

end Journaled

/-- A field as a value of a kind under a function, or the default if there is no such field; and
whether there is one. A text that is no value is a problem, and the default takes its place. -/
def Element.getWith {α : Type} (e : Element) (k : FieldKind) (key : String) (default : α)
    (use : k.Value → α) : Journaled (α × Bool) :=
  match e.read? k key with
  | none => pure (default, false)
  | some (.ok v) => pure (use v, true)
  | some (.error fault) =>
    ⟨(default, true), [.unreadable key e.name e.line fault], []⟩

/-- A field as a value of a kind, or the default. -/
def Element.get (e : Element) (k : FieldKind) (key : String) (default : k.Value) :
    Journaled (k.Value × Bool) :=
  e.getWith k key default id

/-- A field as a value of a kind under a function, or the default if there is no such field; and
whether there is one. A text that is no value is an error. -/
def Element.getStrictWith {α : Type} (e : Element) (k : FieldKind) (key : String) (default : α)
    (use : k.Value → α) : Except ValueFault (α × Bool) :=
  match e.read? k key with
  | none => .ok (default, false)
  | some (.ok v) => .ok (use v, true)
  | some (.error fault) => .error fault

end SceneFrames
