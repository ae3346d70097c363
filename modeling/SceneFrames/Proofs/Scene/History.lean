import SceneFrames.Proofs.Scene.Load
import Mathlib.Data.List.Induction

/-!
Documents over many loads.

A call asks a document to load a file, a text or an element. Some calls never come to an element:
there is no such file, or what is read is malformed. Which files there are, relative or absolute,
and how bytes are parsed is left open. After any calls the problems are those of the
last call, and the version, the worlds and the models are those of the last element that a call
came to. So a call that comes to an element leaves nothing of the earlier ones, and one that comes
to none leaves all they have loaded.
-/

namespace SceneFrames

open Journaled

/-- What a document is asked to load. -/
inductive LoadCall
  | file (path : String)
  | text (text : String)
  | element (e : Element)

namespace Document

variable {parse : Markup.Parser} {files : FileSystem} {options : Options} {d : Document}
  {e : Element} {c : LoadCall}

/-- A document that nothing has been loaded into. -/
def new (options : Options) : Document := { options := options }

/-- What a document holds of what has been loaded. -/
def contents (d : Document) : String × List World × List Model := (d.version, d.worlds, d.models)

/-- A call, with a parser and the files as they are. -/
def call (parse : Markup.Parser) (files : FileSystem) (d : Document) :
    LoadCall → Journaled Document
  | .file path => d.loadFile parse files path
  | .text text => d.loadText parse text
  | .element e => d.loadElement e

def after (parse : Markup.Parser) (files : FileSystem) (d : Document) (calls : List LoadCall) :
    Document :=
  calls.foldl (fun d c => (d.call parse files c).value) d

/-- The element in the file that a path means, or the problem that there is none. -/
def elementOfFile (parse : Markup.Parser) (files : FileSystem) (options : Options)
    (path : String) : Except Problem Element :=
  match options.findFile? files path with
  | none => .error (.fileMissing path)
  | some found =>
    match Element.ofFile parse files found.text with
    | .ok e => .ok e
    | .error .malformed => .error (.fileMalformed found.text)
    | .error .unreadable => .error (.fileUnreadable found.text)

/-- The element in a text, or the problem that there is none. -/
def elementOfText (parse : Markup.Parser) (text : String) : Except Problem Element :=
  match Element.ofText? parse text with
  | some e => .ok e
  | none => .error .textMalformed

/-- The element that a call comes to, or the problem that keeps it from any. -/
def outcome (parse : Markup.Parser) (files : FileSystem) (options : Options) :
    LoadCall → Except Problem Element
  | .file path => elementOfFile parse files options path
  | .text text => elementOfText parse text
  | .element e => .ok e

def reached (parse : Markup.Parser) (files : FileSystem) (options : Options)
    (calls : List LoadCall) : List Element :=
  calls.filterMap fun c => (outcome parse files options c).toOption

/-! ### One call -/

/-- A load from an element leaves nothing of what a document has held. -/
lemma loadElement_eq_new (d : Document) (e : Element) :
    d.loadElement e = (new d.options).loadElement e := by
  by_cases h : e.name = tag <;> apply Journaled.ext <;> simp [loadElement, settle_eq, new, h]

@[simp] lemma options_loadElement : (d.loadElement e).value.options = d.options := by
  by_cases h : e.name = tag <;> simp [loadElement, settle_eq, h]

/-- The load from an element, or the failure to come to one. -/
def load (d : Document) : Except Problem Element → Journaled Document
  | .ok e => d.loadElement e
  | .error p => d.failed p

lemma loadFile_eq (parse : Markup.Parser) (files : FileSystem) (d : Document) (path : String) :
    d.loadFile parse files path =
      finish path (d.load (elementOfFile parse files d.options path)) := by
  unfold loadFile elementOfFile
  cases d.options.findFile? files path with
  | none => rfl
  | some found =>
    cases h : Element.ofFile parse files found.text with
    | error fault => cases fault <;> simp only [h] <;> rfl
    | ok e =>
      simp only [h]
      rfl

lemma loadText_eq (parse : Markup.Parser) (d : Document) (text : String) :
    d.loadText parse text = finish textSource (d.load (elementOfText parse text)) := by
  unfold loadText elementOfText
  cases Element.ofText? parse text <;> rfl

@[simp] lemma problems_finish (source : String) (x : Journaled Document) :
    (finish source x).problems = x.problems := by
  rw [finish, settle_eq]

lemma value_finish (source : String) (x : Journaled Document) :
    (finish source x).value = { x.value with problems := x.problems } := by
  rw [finish, settle_eq]

/-- What a call comes to decides the problems, and the document holds them then. -/
lemma value_call (d : Document) (c : LoadCall) : (d.call parse files c).value =
    { (d.load (outcome parse files d.options c)).value with
      problems := (d.load (outcome parse files d.options c)).problems } := by
  cases c with
  | file path => rw [call, loadFile_eq, value_finish, outcome]
  | text text => rw [call, loadText_eq, value_finish, outcome]
  | element e => simp [call, load, outcome, loadElement, settle_eq]

lemma problems_call (d : Document) (c : LoadCall) : (d.call parse files c).problems =
    (d.load (outcome parse files d.options c)).problems := by
  cases c with
  | file path => rw [call, loadFile_eq, problems_finish, outcome]
  | text text => rw [call, loadText_eq, problems_finish, outcome]
  | element e => rfl

lemma options_load (d : Document) (x : Except Problem Element) :
    (d.load x).value.options = d.options := by
  cases x with
  | error p => rfl
  | ok e => exact options_loadElement

lemma options_call (d : Document) (c : LoadCall) :
    (d.call parse files c).value.options = d.options := by
  rw [value_call]
  exact options_load d _

lemma problems_load (d : Document) (x : Except Problem Element) :
    (d.load x).problems = ((new d.options).load x).problems := by
  cases x with
  | error p => rfl
  | ok e => rw [load, load, loadElement_eq_new]

/-- The document holds the problems that the call would meet on a new one. -/
lemma problems_value_call (parse : Markup.Parser) (files : FileSystem) (d : Document)
    (c : LoadCall) :
    (d.call parse files c).value.problems = ((new d.options).call parse files c).problems := by
  rw [value_call, problems_call, problems_load]
  rfl

/-- The contents change with a call that comes to an element, and only then. -/
lemma contents_call (d : Document) (c : LoadCall) : (d.call parse files c).value.contents =
    ((outcome parse files d.options c).toOption.map fun e =>
      ((new d.options).loadElement e).value.contents).getD d.contents := by
  rw [value_call]
  cases outcome parse files d.options c with
  | error p => rfl
  | ok e => rw [load, loadElement_eq_new]; rfl

/-! ### Many calls -/

lemma after_concat (d : Document) (calls : List LoadCall) (c : LoadCall) :
    d.after parse files (calls ++ [c]) =
      ((d.after parse files calls).call parse files c).value := by
  simp [after, List.foldl_append]

lemma options_after (d : Document) (calls : List LoadCall) :
    (d.after parse files calls).options = d.options := by
  induction calls using List.reverseRecOn with
  | nil => rfl
  | append_singleton calls c ih => rw [after_concat, options_call, ih]

lemma reached_concat (calls : List LoadCall) (c : LoadCall) :
    reached parse files options (calls ++ [c]) =
      reached parse files options calls ++ (outcome parse files options c).toOption.toList := by
  cases h : outcome parse files options c <;> simp [reached, h, Except.toOption]

/-- The contents are those of the last element that a call came to. -/
lemma contents_after (d : Document) (calls : List LoadCall) : (d.after parse files calls).contents =
    ((reached parse files d.options calls).getLast?.map fun e =>
      ((new d.options).loadElement e).value.contents).getD d.contents := by
  induction calls using List.reverseRecOn with
  | nil => rfl
  | append_singleton calls c ih =>
    rw [after_concat, contents_call, options_after, reached_concat, ih]
    cases outcome parse files d.options c <;> simp [Except.toOption]

/-- A document is its options, its contents and its problems. -/
lemma eq_iff {d d' : Document} : d = d' ↔
    d.options = d'.options ∧ d.contents = d'.contents ∧ d.problems = d'.problems := by
  cases d
  cases d'
  simp [contents]
  tauto

/-- A call makes of a document what it makes of a new one exactly when it comes to an element,
or when the document is still empty. -/
lemma call_eq_new_iff (parse : Markup.Parser) (files : FileSystem) (d : Document)
    (c : LoadCall) :
    (d.call parse files c).value = ((new d.options).call parse files c).value ↔
      (∃ e, outcome parse files d.options c = .ok e) ∨ d.contents = (new d.options).contents := by
  rw [eq_iff, options_call, options_call, problems_value_call, problems_value_call,
    contents_call, contents_call]
  cases h : outcome parse files d.options c <;> simp [new, h, Except.toOption]

/-- **Documents over many loads.** After any calls the problems are those of the last call, and
the rest is that of the last element that a call came to. The document is therefore what the last
call would make of a new one exactly when that call came to an element, or when no earlier one
has left anything. -/
theorem after_calls (parse : Markup.Parser) (files : FileSystem) (options : Options)
    (calls : List LoadCall) (c : LoadCall) :
    let d := (new options).after parse files (calls ++ [c])
    d.problems = ((new options).call parse files c).problems ∧
      d.contents = ((reached parse files options (calls ++ [c])).getLast?.map fun e =>
        ((new options).loadElement e).value.contents).getD (new options).contents ∧
      (d = ((new options).call parse files c).value ↔ (∃ e, outcome parse files options c = .ok e) ∨
        ((new options).after parse files calls).contents = (new options).contents) := by
  have hoptions : ((new options).after parse files calls).options = options := options_after _ _
  have hproblems := problems_value_call parse files ((new options).after parse files calls) c
  have hnew := call_eq_new_iff parse files ((new options).after parse files calls) c
  rw [hoptions] at hproblems hnew
  rw [after_concat]
  refine ⟨hproblems, ?_, hnew⟩
  rw [← after_concat]
  exact contents_after (new options) (calls ++ [c])

/-- A document with a model of one link. -/
def oneLink : Element :=
  { name := "sdf"
    attributes := [("version", "1.7")]
    children := [{
      name := "model"
      attributes := [("name", "m")]
      children := [{ name := "link", attributes := [("name", "l")] }] }] }

/-- No files at all. -/
def nothing : FileSystem :=
  { isFile := fun _ => false, read? := fun _ => none, opened? := fun _ => none }

/-- Where a call comes to no element, what earlier ones have loaded stays. -/
theorem contents_outlive_failure : ¬ ∀ (parse : Markup.Parser) (files : FileSystem)
    (options : Options) (calls : List LoadCall) (c : LoadCall),
      (new options).after parse files (calls ++ [c]) =
        ((new options).call parse files c).value := by
  intro h
  have hmodels := congrArg (fun d => (d.version, d.models.length))
    (h (fun _ => none) nothing {} [.element oneLink] (.file "missing.sdf"))
  revert hmodels
  decide

end Document

end SceneFrames
