import SceneFrames.Proofs.Attempt.Step
import SceneFrames.Proofs.Field.Grammar

/-!
Lookups of fields, with a list for problems and without.

A lookup takes the text of the field, reads it as a value of the kind, and stops where there is
none. What it does then depends on whether there is a list for problems: it notes that the text
is no value and goes on with the default, or it stops. Everything else about the two ways of
looking a field up is the same.
-/

namespace SceneFrames

open Attempt

variable {e : Element} {k : FieldKind} {key text : String} {fault : ValueFault}

/-! ### The text of a field -/

namespace Element

/-- There is an attribute of the key, or a child of that name. -/
def Has (e : Element) (key : String) : Prop :=
  (∃ p ∈ e.attributes, p.1 = key) ∨ ∃ c ∈ e.children, c.name = key

/-- Where a field gets its text from: an attribute stands before every child, and the first child
of the name before later ones. -/
inductive Supplies (e : Element) (key : String) : String → Prop
  | ofAttribute {before after : List (String × String)} {text : String}
      (hsplit : e.attributes = before ++ (key, text) :: after)
      (hfirst : ∀ p ∈ before, p.1 ≠ key) : Supplies e key text
  | ofChild {before after : List Element} {c : Element}
      (hnone : ∀ p ∈ e.attributes, p.1 ≠ key)
      (hsplit : e.children = before ++ c :: after) (hname : c.name = key)
      (hfirst : ∀ c ∈ before, c.name ≠ key) : Supplies e key c.value

lemma attribute?_eq_some_iff : e.attribute? key = some text ↔
    ∃ before after, e.attributes = before ++ (key, text) :: after ∧ ∀ p ∈ before, p.1 ≠ key := by
  simp only [attribute?, Option.map_eq_some_iff, List.find?_eq_some_iff_append]
  constructor
  · rintro ⟨⟨key', text⟩, ⟨hkey, before, after, hsplit, hfirst⟩, rfl⟩
    obtain rfl : key' = key := by simpa using hkey
    exact ⟨before, after, hsplit, by simpa using hfirst⟩
  · rintro ⟨before, after, hsplit, hfirst⟩
    exact ⟨(key, text), ⟨by simp, before, after, hsplit, by simpa using hfirst⟩, rfl⟩

lemma attribute?_eq_none_iff : e.attribute? key = none ↔ ∀ p ∈ e.attributes, p.1 ≠ key := by
  simp [attribute?]

lemma first?_eq_some_iff {c : Element} : e.first? key = some c ↔ c.name = key ∧
    ∃ before after, e.children = before ++ c :: after ∧ ∀ c ∈ before, c.name ≠ key := by
  simp [first?, List.find?_eq_some_iff_append]

lemma first?_eq_none_iff : e.first? key = none ↔ ∀ c ∈ e.children, c.name ≠ key := by
  simp [first?]

lemma fieldText?_eq_or (e : Element) (key : String) :
    e.fieldText? key = (e.attribute? key).or ((e.first? key).map value) := by
  unfold fieldText?
  cases e.attribute? key <;> rfl

/-- The text that a lookup takes is the one that the field gets. -/
lemma fieldText?_eq_some_iff : e.fieldText? key = some text ↔ e.Supplies key text := by
  rw [fieldText?_eq_or, Option.or_eq_some_iff, attribute?_eq_some_iff, attribute?_eq_none_iff,
    Option.map_eq_some_iff]
  simp only [first?_eq_some_iff]
  constructor
  · rintro (⟨before, after, hsplit, hfirst⟩ | ⟨hnone, c, ⟨hname, hat⟩, rfl⟩)
    · exact .ofAttribute hsplit hfirst
    · obtain ⟨before, after, hsplit, hfirst⟩ := hat
      exact .ofChild hnone hsplit hname hfirst
  · rintro (⟨hsplit, hfirst⟩ | ⟨hnone, hsplit, hname, hfirst⟩)
    · exact .inl ⟨_, _, hsplit, hfirst⟩
    · exact .inr ⟨hnone, _, ⟨hname, _, _, hsplit, hfirst⟩, rfl⟩

lemma fieldText?_eq_none_iff : e.fieldText? key = none ↔ ¬ e.Has key := by
  rw [fieldText?_eq_or, Option.or_eq_none_iff, attribute?_eq_none_iff, Option.map_eq_none_iff,
    first?_eq_none_iff, Has]
  push Not
  rfl

end Element

/-! ### Attempts -/

/-- A text as a value of a kind. The numbers of a pose are taken as they come. -/
def FieldKind.attempt : (k : FieldKind) → String → Except Mishap k.Value
  | pose, s => do
    let bs ← (readVector s 6).mapError .unreadable
    attemptPlacing bs
  | k, s => (k.read s).mapError .unreadable

/-- A field as a value of a kind under a function, or the default, and whether there is one. With
a list for problems, which may hold some already, a text that is no value is noted there; without
one it has nowhere to go. Nothing but such a text is dealt with. -/
def Element.attemptGet {α : Type} (e : Element) (list? : Option (List Problem)) (k : FieldKind)
    (key : String) (default : α) (use : k.Value → α) : Attempt (α × Bool) := do
  sure (Journaled.reportAll (list?.getD []))
  match e.fieldText? key with
  | none => return (default, false)
  | some text =>
    try
      let v ← step (k.attempt text)
      return (use v, true)
    catch mishap =>
      match mishap, list? with
      | .unreadable fault, some _ =>
        sure (Journaled.report (.unreadable key e.name e.line fault))
        return (default, true)
      | _, _ => throw mishap

/-- A lookup with a list that holds some problems already. -/
def Element.getNoting {α : Type} (e : Element) (noted : List Problem) (k : FieldKind)
    (key : String) (default : α) (use : k.Value → α) : Journaled (α × Bool) := do
  Journaled.reportAll noted
  e.getWith k key default use

lemma FieldKind.attempt_eq : k.attempt text = (k.read text).mapError .unreadable := by
  cases k with
  | pose =>
    simp only [attempt, read]
    cases h : readVector text 6 with
    | error fault =>
      rw [readPose_eq_error_iff.mpr h]
      rfl
    | ok bs =>
      obtain ⟨p, hplaced, hread⟩ := attemptPlacing_of_readVector h
      rw [hread]
      exact hplaced
  | _ => rfl

namespace Element

variable {α : Type} {default : α} {use : k.Value → α} {noted : List Problem}

lemma attemptGet_some : e.attemptGet (some noted) k key default use =
    sure (e.getNoting noted k key default use) := by
  unfold attemptGet getNoting getWith read?
  rw [sure_bind]
  simp only [Option.getD_some, FieldKind.attempt_eq]
  congr 1
  funext _
  cases e.fieldText? key with
  | none => exact (sure_pure _).symm
  | some text =>
    simp only [Option.map_some]
    cases k.read text with
    | ok v => rfl
    | error fault => rfl

lemma attemptGet_none : e.attemptGet none k key default use =
    step ((e.getStrictWith k key default use).mapError .unreadable) := by
  unfold attemptGet getStrictWith read?
  simp only [Option.getD_none, FieldKind.attempt_eq]
  cases e.fieldText? key with
  | none => rfl
  | some text =>
    simp only [Option.map_some]
    cases k.read text with
    | ok v => rfl
    | error fault => rfl

/-! ### What a lookup comes to -/

/-- There is a value where the text that the field gets says one, and no other value. -/
lemma getStrictWith_eq_value_iff {a : α} :
    e.getStrictWith k key default use = .ok (a, true) ↔
      ∃ text v, e.Supplies key text ∧ k.Denotes text v ∧ a = use v := by
  simp only [← fieldText?_eq_some_iff, ← FieldKind.read_eq_ok_iff, getStrictWith, read?]
  cases e.fieldText? key with
  | none => simp
  | some text => cases hread : k.read text <;> simp [hread, eq_comm]

/-- There is no value where there is no field. -/
lemma getStrictWith_eq_missing_iff {a : α} :
    e.getStrictWith k key default use = .ok (a, false) ↔ ¬ e.Has key ∧ a = default := by
  rw [← fieldText?_eq_none_iff, getStrictWith, read?]
  cases e.fieldText? key with
  | none => simp [eq_comm]
  | some text => cases hread : k.read text <;> simp [hread]

lemma getStrictWith_eq_error_iff : e.getStrictWith k key default use = .error fault ↔
    ∃ text, e.Supplies key text ∧ k.Refuses text fault := by
  simp only [← fieldText?_eq_some_iff, ← FieldKind.read_eq_error_iff, getStrictWith, read?]
  cases e.fieldText? key with
  | none => simp
  | some text => cases hread : k.read text <;> simp [hread]

/-- With a list, a lookup goes on where it would stop without one, and leaves the list alone where
it would not stop. -/
lemma getNoting_eq : e.getNoting noted k key default use =
    match e.getStrictWith k key default use with
    | .ok r => ⟨r, noted, []⟩
    | .error fault => ⟨(default, true), noted ++ [.unreadable key e.name e.line fault], []⟩ := by
  unfold getNoting getWith getStrictWith
  apply Journaled.ext <;> rcases e.read? k key with _ | _ | v <;> simp [Journaled.reportAll]

lemma getNoting_found_iff :
    (e.getNoting noted k key default use).value.2 = true ↔ e.Has key := by
  rw [← not_iff_not, ← fieldText?_eq_none_iff, getNoting, getWith, read?]
  cases e.fieldText? key with
  | none => simp
  | some text => cases hread : k.read text <;> simp [hread]

/-- **Both ways of looking a field up agree.** With a list for problems a lookup does not come to
grief, and without one only for a text that is no value. A field is found where the element has
it. Without a list the value is what the whole of the text says, or the default where there is no
field; a text that says no value is refused. With a list the result is the same and the list as
it was, or else the default is found and there is one problem more. -/
theorem lookups_agree (e : Element) (k : FieldKind) (key : String) (default : α)
    (use : k.Value → α) (noted : List Problem) :
    e.attemptGet (some noted) k key default use = sure (e.getNoting noted k key default use) ∧
    e.attemptGet none k key default use =
      step ((e.getStrictWith k key default use).mapError .unreadable) ∧
    ((e.getNoting noted k key default use).value.2 = true ↔ e.Has key) ∧
    (∀ a, e.getStrictWith k key default use = .ok (a, true) ↔
      ∃ text v, e.Supplies key text ∧ k.Denotes text v ∧ a = use v) ∧
    (∀ a, e.getStrictWith k key default use = .ok (a, false) ↔ ¬ e.Has key ∧ a = default) ∧
    (∀ fault, e.getStrictWith k key default use = .error fault ↔
      ∃ text, e.Supplies key text ∧ k.Refuses text fault) ∧
    (∀ r, e.getStrictWith k key default use = .ok r ↔
      e.getNoting noted k key default use = ⟨r, noted, []⟩) ∧
    (∀ fault, e.getStrictWith k key default use = .error fault ↔
      e.getNoting noted k key default use =
        ⟨(default, true), noted ++ [.unreadable key e.name e.line fault], []⟩) ∧
    ((∃ p, p.code = .attributeInvalid ∧
        (e.getNoting noted k key default use).problems = noted ++ [p]) ↔
      ∃ fault, e.getStrictWith k key default use = .error fault) ∧
    ((∃ text v, e.Supplies key text ∧ k.Denotes text v ∧
        (e.getNoting noted k key default use).value = (use v, true)) ∨
      (e.getNoting noted k key default use).value.1 = default) := by
  refine ⟨attemptGet_some, attemptGet_none, getNoting_found_iff,
    fun _ => getStrictWith_eq_value_iff, fun _ => getStrictWith_eq_missing_iff,
    fun _ => getStrictWith_eq_error_iff, fun r => ?_, fun fault => ?_, ?_, ?_⟩
  all_goals rw [getNoting_eq]
  · cases e.getStrictWith k key default use <;> simp
  · cases e.getStrictWith k key default use <;> simp
  · cases e.getStrictWith k key default use with
    | ok r => simp
    | error fault => exact ⟨fun _ => ⟨fault, rfl⟩, fun _ => ⟨_, rfl, rfl⟩⟩
  · rcases hstrict : e.getStrictWith k key default use with fault | ⟨a, found⟩
    · exact .inr rfl
    · cases found with
      | true =>
        obtain ⟨text, v, htext, hv, rfl⟩ := getStrictWith_eq_value_iff.mp hstrict
        exact .inl ⟨text, v, htext, hv, rfl⟩
      | false => exact .inr (getStrictWith_eq_missing_iff.mp hstrict).2

/-- An attribute stands before a child, even if only the child says a whole number. -/
example :
    let box : Element :=
      { name := "box"
        attributes := [("size", "two")]
        children := [{ name := "size", value := "2" }] }
    (box.getNoting [] .integer "size" 1 id) =
      ⟨(1, true), [.unreadable "size" "box" none (.notInteger "two")], []⟩ := by
  cbv

end Element

end SceneFrames
