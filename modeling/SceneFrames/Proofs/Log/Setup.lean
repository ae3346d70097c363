import SceneFrames.Log.Logger
import Mathlib.Data.List.Induction

/-!
Loggers over many set-ups.

A call names a level and perhaps a log file. One that succeeds leaves a handler for the console
and, if it names a file, one for the file, both at its level, and from then on each event that is
important enough is written once to each of them. A call fails for two reasons. Where it names a
level that there is not, it changes nothing. Where its file cannot be opened, it has set the level
and let go of the handlers before it finds out. Until the next call, warnings go to the errors
then, and other events nowhere.
-/

namespace SceneFrames

/-- A call that sets a logger up: the files as they are, the level, and the path of the log file,
which is empty where there is none. -/
structure SetupCall where
  files : FileSystem
  choice : LevelChoice := .standard
  logFile : String := ""

namespace SetupCall

/-- The log file that is opened, if there is one. -/
def file? (c : SetupCall) : Option String :=
  if c.logFile = "" then none else c.files.opened? c.logFile

/-- The level, and the handlers for the console and for the file if there is one. -/
def configuration (level : Int) (file? : Option String) : Int × List Handler :=
  (level, ⟨.console, level⟩ :: (file?.map fun name => ⟨.file name, level⟩).toList)

/-- How a call ends: with the level and the handlers that it sets, or with a failure. -/
def outcome (c : SetupCall) : Except SetupFault (Int × List Handler) :=
  match c.choice.level with
  | .error fault => .error fault
  | .ok level =>
    if c.logFile = "" ∨ c.file?.isSome then .ok (configuration level c.file?)
    else .error (.unwritable c.logFile)

/-- The level and the handlers that a call leaves. One that names no level leaves them alone. -/
def leaves? (c : SetupCall) : Option (Int × List Handler) :=
  match c.outcome with
  | .ok set => some set
  | .error (.unknownLevel _) => none
  | .error (.unwritable _) => c.choice.level.toOption.map (·, [])

end SetupCall

/-- What a logger is asked to do: to be set up, or to write an event. -/
inductive LoggerCall
  | setup (c : SetupCall)
  | event (e : LogEvent)

namespace LoggerCall

/-- The level and the handlers that a call leaves, if it touches them. -/
def leaves? : LoggerCall → Option (Int × List Handler)
  | setup c => c.leaves?
  | event _ => none

/-- The level and the handlers that a call sets, if it succeeds in that. -/
def sets? : LoggerCall → Option (Int × List Handler)
  | setup c => c.outcome.toOption
  | event _ => none

end LoggerCall

namespace Logger

/-- The level and the handlers. -/
def configuration (l : Logger) : Int × List Handler := (l.level, l.handlers)

/-- The lines in a file. -/
def linesIn? (l : Logger) (name : String) : Option (List String) :=
  (l.files.find? (·.1 == name)).map (·.2)

/-- A call, and how it ends. -/
def call (l : Logger) (c : SetupCall) : Logger × Except SetupFault Unit :=
  l.setup c.files c.choice c.logFile

/-- The logger after a call. -/
def perform (l : Logger) : LoggerCall → Logger
  | .setup c => (l.call c).1
  | .event e => l.write e

/-- The logger after calls in order. -/
def after (l : Logger) (calls : List LoggerCall) : Logger := calls.foldl perform l

/-- An event is important enough for a logger of a level. No level is as good as the inherited
one. -/
def reaches (level : Int) (e : LogEvent) : Bool :=
  (if level = 0 then inheritedLevel else level) ≤ e.severity.rank

variable {l m n : Logger} {level : Int} {path : String} {file? : Option String}
  {lines more : List String}

/-! ### Writing -/

/-- Lines are written once to the console and once to the file, if there is one, and nothing else
changes. -/
structure Writes (file? : Option String) (lines : List String) (l m : Logger) : Prop where
  configuration : m.configuration = l.configuration
  console : m.console = l.console ++ lines
  errors : m.errors = l.errors
  files : ∀ name, m.linesIn? name =
    if file? = some name then (l.linesIn? name).map (· ++ lines) else l.linesIn? name

lemma Writes.nothing (file? : Option String) (l : Logger) : Writes file? [] l l :=
  ⟨rfl, by simp, rfl, fun name => by simp⟩

lemma Writes.trans (h : Writes file? lines l m) (h' : Writes file? more m n) :
    Writes file? (lines ++ more) l n where
  configuration := h'.configuration.trans h.configuration
  console := by rw [h'.console, h.console, List.append_assoc]
  errors := h'.errors.trans h.errors
  files name := by
    rw [h'.files, h.files]
    by_cases hn : file? = some name
    · simp [hn, Function.comp_def]
    · simp [hn]

lemma linesIn?_append_file (l : Logger) (lines : List String) (name other : String) :
    (l.append lines (.file name)).linesIn? other =
      if name = other then (l.linesIn? other).map (· ++ lines) else l.linesIn? other := by
  simp only [append, linesIn?, List.find?_map, Function.comp_def]
  have hkey : (fun f : String × List String =>
      (if f.1 == name then (f.1, f.2 ++ lines) else f).1 == other) = (·.1 == other) := by
    funext f
    by_cases hf : f.1 = name <;> simp [hf]
  rw [hkey]
  cases hfind : l.files.find? (·.1 == other) with
  | none => simp
  | some f =>
    obtain rfl : f.1 = other := by simpa using List.find?_some hfind
    by_cases hn : name = f.1
    · simp [hn]
    · simp [hn, Ne.symm hn]

lemma threshold_le_iff (l : Logger) (e : LogEvent) :
    l.threshold ≤ e.severity.rank ↔ reaches l.level e = true := by
  simp [threshold, reaches]

/-- An event goes through all handlers of its logger's level, or through none. -/
lemma write_of_handlers (hsome : l.handlers ≠ []) (hlevel : ∀ h ∈ l.handlers, h.level = l.level)
    (e : LogEvent) : l.write e = if reaches l.level e then
      l.handlers.foldl (fun l h => l.append (linesOf e) h.sink) l else l := by
  have hthreshold := l.threshold_le_iff e
  by_cases hr : reaches l.level e = true
  · have hle : l.level ≤ e.severity.rank := by
      have hrank : 0 ≤ e.severity.rank := by cases e.severity <;> decide
      simp only [reaches, decide_eq_true_eq] at hr
      split at hr <;> omega
    have hall : l.handlers.filter (·.level ≤ e.severity.rank) = l.handlers :=
      List.filter_eq_self.mpr fun h hh => by simpa [hlevel h hh] using hle
    rw [write, if_pos (hthreshold.mpr hr), if_neg hsome, hall, if_pos hr]
  · rw [write, if_neg fun h => hr (hthreshold.mp h), if_neg hr]

/-- **One event** is written once to each place, if it is important enough. -/
lemma writes_write (h : l.configuration = SetupCall.configuration level file?) (e : LogEvent) :
    Writes file? (if reaches level e then linesOf e else []) l (l.write e) := by
  obtain ⟨hl, hh⟩ := Prod.mk.injEq .. ▸ h
  have hsome : l.handlers ≠ [] := by simp [hh]
  have hlevel : ∀ x ∈ l.handlers, x.level = l.level := by
    rw [hh, hl]
    cases file? <;> simp
  rw [write_of_handlers hsome hlevel, hl, hh]
  by_cases hr : reaches level e = true
  · rw [if_pos hr, if_pos hr]
    cases file? with
    | none => exact ⟨rfl, rfl, rfl, fun name => by simp [append, linesIn?]⟩
    | some name =>
      refine ⟨rfl, rfl, rfl, fun other => ?_⟩
      simp only [Option.map_some, Option.toList_some, List.foldl_cons, List.foldl_nil,
        linesIn?_append_file, Option.some.injEq]
      rfl
  · rw [if_neg hr, if_neg hr]
    exact .nothing file? l

/-- **Events in order** are written once to each place, those that are important enough. -/
lemma writes_writeAll (h : l.configuration = SetupCall.configuration level file?)
    (es : List LogEvent) :
    Writes file? ((es.filter (reaches level)).flatMap linesOf) l (l.writeAll es) := by
  induction es generalizing l with
  | nil => exact .nothing file? l
  | cons e es ih =>
    have hfirst := writes_write h e
    have hrest := ih (hfirst.configuration.trans h)
    have hlines : ((e :: es).filter (reaches level)).flatMap linesOf =
        (if reaches level e then linesOf e else []) ++
          (es.filter (reaches level)).flatMap linesOf := by
      by_cases hr : reaches level e = true <;> simp [hr]
    rw [hlines]
    exact hfirst.trans hrest

/-- An event is a warning that is important enough for a logger of a level. The last resort writes
no others. -/
def warns (level : Int) (e : LogEvent) : Bool :=
  reaches level e && lastResortLevel ≤ e.severity.rank

/-- **Without handlers** the messages of warnings go to the errors, and nothing else changes. -/
lemma write_of_no_handlers (h : l.handlers = []) (e : LogEvent) : l.write e =
    { l with errors := l.errors ++ if warns l.level e then linesOfText e.message else [] } := by
  have hthreshold := l.threshold_le_iff e
  by_cases hr : reaches l.level e = true
  · rw [write, if_pos (hthreshold.mpr hr), if_pos h, writeLastResort, warns, hr, Bool.true_and]
    by_cases hw : lastResortLevel ≤ e.severity.rank <;> simp [hw]
  · rw [write, if_neg fun h => hr (hthreshold.mp h), warns]
    simp [hr]

lemma writeAll_of_no_handlers (h : l.handlers = []) (es : List LogEvent) : l.writeAll es =
    { l with
      errors := l.errors ++
        (es.filter (warns l.level)).flatMap fun e => linesOfText e.message } := by
  induction es generalizing l with
  | nil => simp [writeAll]
  | cons e es ih =>
    rw [writeAll, List.foldl_cons, ← writeAll, write_of_no_handlers h, ih]
    · by_cases hw : warns l.level e = true <;> simp [hw]
    · exact h

lemma configuration_append (l : Logger) (lines : List String) (s : Sink) :
    (l.append lines s).configuration = l.configuration := by
  cases s <;> rfl

/-- Writing changes neither the level nor the handlers. -/
lemma configuration_write (l : Logger) (e : LogEvent) :
    (l.write e).configuration = l.configuration := by
  have hfold : ∀ (hs : List Handler) (m : Logger),
      (hs.foldl (fun l h => l.append (linesOf e) h.sink) m).configuration = m.configuration := by
    intro hs
    induction hs with
    | nil => exact fun _ => rfl
    | cons h hs ih => exact fun m => (ih _).trans (configuration_append m _ h.sink)
  by_cases hnone : l.handlers = []
  · rw [write_of_no_handlers hnone]
    rfl
  · rw [write, if_neg hnone]
    split
    · exact hfold _ l
    · rfl

/-! ### Setting up -/

lemma linesIn?_openFile (l : Logger) (name other : String) :
    (l.openFile name).linesIn? other = if name = other then some [] else l.linesIn? other := by
  simp only [openFile, linesIn?, List.find?_append]
  by_cases hn : name = other
  · subst hn
    have hnone : (l.files.filter (·.1 ≠ name)).find? (·.1 == name) = none :=
      List.find?_eq_none.mpr fun f hf => by simpa using (List.mem_filter.mp hf).2
    rw [hnone]
    simp
  · have hother : (l.files.filter (·.1 ≠ name)).find? (·.1 == other) =
        l.files.find? (·.1 == other) := by
      rw [List.find?_filter]
      congr 1
      funext f
      by_cases hf : f.1 = other
      · simp [hf, Ne.symm hn]
      · simp [hf]
    rw [hother]
    simp [hn]

/-- The logger with the file opened, if there is one. -/
def opened (l : Logger) : Option String → Logger
  | some name => l.openFile name
  | none => l

/-- The logger with another level and other handlers. -/
def configured (l : Logger) (set : Int × List Handler) : Logger :=
  { l with level := set.1, handlers := set.2 }

lemma linesIn?_opened (l : Logger) (file? : Option String) (name : String) :
    (l.opened file?).linesIn? name = if file? = some name then some [] else l.linesIn? name := by
  cases file? with
  | none => rfl
  | some opened => simp [Logger.opened, linesIn?_openFile]

/-- A level is only refused for its name. -/
lemma exists_unknownLevel {choice : LevelChoice} {fault : SetupFault}
    (h : choice.level = .error fault) : ∃ name, fault = .unknownLevel name := by
  unfold LevelChoice.level at h
  split at h
  · simp at h
  · rename_i name
    split at h
    · simp at h
    · exact ⟨name, (Except.error.inj h).symm⟩

/-- A call that succeeds opens its file, sets its level and its handlers, and says so. -/
lemma call_of_ok {c : SetupCall} {set : Int × List Handler} (h : c.outcome = .ok set) :
    c.choice.level = .ok set.1 ∧ set = SetupCall.configuration set.1 c.file? ∧ l.call c =
      (((l.opened c.file?).configured set).write (.initialized set.2.length), .ok ()) := by
  unfold SetupCall.outcome at h
  cases hlevel : c.choice.level with
  | error fault => simp [hlevel] at h
  | ok level =>
    simp only [hlevel] at h
    split at h
    · rename_i hopens
      obtain rfl := Except.ok.inj h
      refine ⟨rfl, rfl, ?_⟩
      by_cases hfile : c.logFile = ""
      · simp [call, setup, SetupCall.file?, hlevel, hfile, opened, configured,
          SetupCall.configuration]
      · obtain ⟨name, hname⟩ := Option.isSome_iff_exists.mp (hopens.resolve_left hfile)
        rw [SetupCall.file?, if_neg hfile] at hname
        simp [call, setup, SetupCall.file?, hlevel, hfile, hname, opened, configured, openFile,
          SetupCall.configuration]
    · simp at h

/-- A call that succeeds opens a file just if it names one. -/
lemma file?_eq_none_iff {c : SetupCall} {set : Int × List Handler} (h : c.outcome = .ok set) :
    c.file? = none ↔ c.logFile = "" := by
  unfold SetupCall.outcome at h
  split at h
  · simp at h
  · split at h
    · rename_i hopens
      constructor
      · intro hnone
        simpa [hnone] using hopens
      · intro hfile
        simp [SetupCall.file?, hfile]
    · simp at h

/-- A call that names no level changes nothing. -/
lemma call_of_unknownLevel {c : SetupCall} {name : String}
    (h : c.outcome = .error (.unknownLevel name)) :
    l.call c = (l, .error (.unknownLevel name)) := by
  unfold SetupCall.outcome at h
  cases hlevel : c.choice.level with
  | error fault =>
    simp only [hlevel] at h
    simp [call, setup, hlevel, Except.error.inj h]
  | ok level =>
    simp only [hlevel] at h
    split at h <;> simp at h

/-- A call whose file cannot be opened sets the level, lets go of the handlers, and writes
nothing. -/
lemma call_of_unwritable {c : SetupCall} (h : c.outcome = .error (.unwritable path)) :
    ∃ level, c.choice.level = .ok level ∧
      l.call c = (l.configured (level, []), .error (.unwritable path)) := by
  unfold SetupCall.outcome at h
  cases hlevel : c.choice.level with
  | error fault =>
    obtain ⟨name, rfl⟩ := exists_unknownLevel hlevel
    simp [hlevel] at h
  | ok level =>
    simp only [hlevel] at h
    split at h
    · simp at h
    · rename_i hopens
      obtain ⟨hfile, hnone⟩ := not_or.mp hopens
      rw [Option.not_isSome_iff_eq_none, SetupCall.file?, if_neg hfile] at hnone
      refine ⟨level, rfl, ?_⟩
      obtain rfl : c.logFile = path := by simpa using h
      simp [call, setup, hlevel, hfile, hnone, configured]

/-! ### Runs -/

lemma after_concat (l : Logger) (calls : List LoggerCall) (c : LoggerCall) :
    l.after (calls ++ [c]) = (l.after calls).perform c := by
  simp [after, List.foldl_append]

/-- **One call** leaves the level and the handlers that it says, or the old ones. -/
lemma configuration_perform (l : Logger) (c : LoggerCall) :
    (l.perform c).configuration = c.leaves?.getD l.configuration := by
  cases c with
  | event e => exact configuration_write l e
  | setup c =>
    show (l.call c).1.configuration = c.leaves?.getD l.configuration
    unfold SetupCall.leaves?
    cases h : c.outcome with
    | ok set => rw [(call_of_ok h).2.2, configuration_write]; rfl
    | error fault =>
      cases fault with
      | unknownLevel name => rw [call_of_unknownLevel h]; rfl
      | unwritable path =>
        obtain ⟨level, hlevel, hcall⟩ := call_of_unwritable (l := l) h
        rw [hcall, hlevel]
        rfl

/-- The level and the handlers after any calls are those of the last call that touched them. -/
lemma configuration_after (l : Logger) (calls : List LoggerCall) :
    (l.after calls).configuration =
      (calls.reverse.findSome? LoggerCall.leaves?).getD l.configuration := by
  induction calls using List.reverseRecOn with
  | nil => rfl
  | append_singleton calls c ih =>
    rw [after_concat, configuration_perform, ih, List.reverse_append, List.reverse_singleton,
      List.singleton_append, List.findSome?_cons]
    cases c.leaves? <;> rfl

/-- **Set-ups over a run.** After any calls the level and the handlers are those of the last call
that names a level there is: the ones it sets, or none if its file cannot be opened. A call that
names no level changes nothing. One whose file cannot be opened changes nothing else, and of the
events after it only the messages of warnings are written, to the errors. After a call that
succeeds, the events that are important enough for its level are written once each to the console
and once each to its file, which was empty, and no other file changes. -/
theorem setups_over_run (l : Logger) (calls : List LoggerCall) (c : SetupCall)
    (es : List LogEvent) :
    let before := l.after calls
    before.configuration =
        (calls.reverse.findSome? LoggerCall.leaves?).getD l.configuration ∧
      (∀ name, c.outcome = .error (.unknownLevel name) →
        before.call c = (before, .error (.unknownLevel name))) ∧
      (∀ path, c.outcome = .error (.unwritable path) → ∃ level, c.choice.level = .ok level ∧
        before.call c = (before.configured (level, []), .error (.unwritable path)) ∧
        (before.call c).1.writeAll es =
          { before.configured (level, []) with
            errors := before.errors ++
              (es.filter (warns level)).flatMap fun e => linesOfText e.message }) ∧
      ∀ set, c.outcome = .ok set →
        let heard := (.initialized set.2.length :: es).filter (reaches set.1)
        let later := (before.call c).1.writeAll es
        c.choice.level = .ok set.1 ∧ set = SetupCall.configuration set.1 c.file? ∧
          (c.file? = none ↔ c.logFile = "") ∧
          (before.call c).2 = .ok () ∧
          later.configuration = set ∧
          later.console = before.console ++ heard.flatMap linesOf ∧
          later.errors = before.errors ∧
          ∀ name, later.linesIn? name =
            if c.file? = some name then some (heard.flatMap linesOf)
            else before.linesIn? name := by
  intro before
  refine ⟨configuration_after l calls, fun name => call_of_unknownLevel, fun path hpath => ?_,
    fun set hset => ?_⟩
  · obtain ⟨level, hlevel, hcall⟩ := call_of_unwritable (l := before) hpath
    refine ⟨level, hlevel, hcall, ?_⟩
    rw [hcall]
    exact writeAll_of_no_handlers rfl es
  · intro heard later
    obtain ⟨hlevel, hform, hcall⟩ := call_of_ok (l := before) hset
    have hopened : ((before.opened c.file?).configured set).configuration =
        SetupCall.configuration set.1 c.file? := hform
    -- the call writes an event of its own, and then the others come
    have hlater : later = ((before.opened c.file?).configured set).writeAll
        (.initialized set.2.length :: es) := by
      show (before.call c).1.writeAll es = _
      rw [hcall]
      rfl
    have hwrites := writes_writeAll hopened (.initialized set.2.length :: es)
    rw [← hlater] at hwrites
    refine ⟨hlevel, hform, file?_eq_none_iff hset, by rw [hcall], hwrites.configuration, ?_, ?_,
      fun name => ?_⟩
    · rw [hwrites.console]
      cases hfile : c.file? <;> rfl
    · rw [hwrites.errors]
      cases hfile : c.file? <;> rfl
    · have hfiles : ((before.opened c.file?).configured set).linesIn? name =
          (before.opened c.file?).linesIn? name := rfl
      rw [hwrites.files, hfiles, linesIn?_opened]
      by_cases hn : c.file? = some name
      · rw [if_pos hn, if_pos hn, if_pos hn, Option.map_some, List.nil_append]
      · rw [if_neg hn, if_neg hn, if_neg hn]

/-- Files of which one can be opened, by its name and by its place. -/
def oneFile : FileSystem :=
  { isFile := fun _ => false
    read? := fun _ => none
    opened? := fun path => if path = "x.log" ∨ path = "/x.log" then some "/x.log" else none }

/-- A second set-up, with a file, after a first one: an event below the level is written nowhere,
and one at the level goes to the console and to the file. -/
theorem setups_over_run_file :
    let c : SetupCall := { files := oneFile, logFile := "x.log" }
    let set := SetupCall.configuration 20 (some "/x.log")
    let before := ({} : Logger).after [.setup { files := oneFile }]
    let later := (before.call c).1.writeAll
      [.graphBuilt "m" 1, .documentLoaded "a.sdf"]
    c.outcome = .ok set ∧ later.configuration = set ∧
      later.console = ["sdf_dom.root - INFO - Loaded [a.sdf]"] ∧ later.errors = [] ∧
      later.linesIn? "/x.log" = some ["sdf_dom.root - INFO - Loaded [a.sdf]"] := by
  intro c set before later
  have hset : c.outcome = .ok set := by decide +kernel
  obtain ⟨-, -, -, -, hconfiguration, hconsole, herrors, hfile⟩ :=
    (setups_over_run {} [.setup { files := oneFile }] c
      [.graphBuilt "m" 1, .documentLoaded "a.sdf"]).2.2.2 set hset
  refine ⟨hset, hconfiguration, hconsole.trans ?_, herrors.trans ?_, (hfile "/x.log").trans ?_⟩
  · decide +kernel
  · decide +kernel
  · decide +kernel

/-- A set-up whose file cannot be opened takes the place of the one before it: the level is the
new one, and there are no handlers. -/
theorem failed_setup_lets_go : ¬ ∀ (l : Logger) (calls : List LoggerCall),
    (l.after calls).configuration =
      (calls.reverse.findSome? LoggerCall.sets?).getD l.configuration := by
  intro h
  have hcalls := h {} [.setup { files := oneFile },
    .setup { files := oneFile, choice := .number 10, logFile := "missing/x.log" }]
  revert hcalls
  decide +kernel

end Logger

end SceneFrames
