import Reckoner.Proofs.Names
import Reckoner.Proofs.SessionScript

/-!
# Logs that are told as a run goes

A run is gone through here step by step, with a log beside it that shows or drops each record when
it is told: an assignment as soon as the variable has its value, a fault after it has been caught,
the start and the end of a session around everything else. Of a fault that is not caught the log is
told nothing, nor of the end of a session that it breaks off. Whatever threshold the log has, the
run is the one without a log, and the log shows those of its records that reach the threshold. So a
log does not interfere, a higher threshold only drops records, and what is told of each line and of
each statement can be read off the run.

Main definitions:
* `Log.Journal`: a log with a threshold.
* `AtWork`: a session or a script on its way, with its log.
* `Session.runTelling`, `Script.runTelling`: runs that tell a log.
* `Session.told?`, `Script.Outcome.told?`: what is told of a line, and of an outcome.
* `Session.farewellTold`: what is told of the end of a session.

Results:
* `AtWork.execute_of_ok`, `AtWork.execute_of_error`: a statement with a log and without.
* `Session.hear_eq`, `Session.listen_eq`: a line, and then all lines, with a log and without.
* `Script.perform_eq`, `Script.performAll_eq`: the same for statements.
* `Session.log_replies`, `Script.log_steps`: what is told of lines and statements.
* `Log.only_observes`: all of it.
-/
namespace Reckoner

open Outcome

namespace Log

/-- Whether a record reaches a threshold. -/
def Record.reaches (threshold : Nat) (r : Record) : Bool := threshold ≤ r.level.severity

/-- A log: its threshold, and what it has shown. -/
structure Journal where
  threshold : Nat
  shown : List Record

namespace Journal

/-- Tell a log something, which it shows if that reaches its threshold. -/
def tell (j : Journal) (r : Record) : Journal :=
  if r.reaches j.threshold then { j with shown := j.shown ++ [r] } else j

/-- A log after some records. -/
def after (j : Journal) (records : List Record) : Journal :=
  { j with shown := j.shown ++ records.filter (Record.reaches j.threshold) }

theorem tell_eq (j : Journal) (r : Record) : j.tell r = j.after [r] := by
  unfold tell after
  by_cases shown : r.reaches j.threshold = true
  · simp [shown]
  · simp [shown]

@[simp]
theorem after_nil (j : Journal) : j.after [] = j := by
  simp [after]

@[simp]
theorem after_after (j : Journal) (first second : List Record) :
    (j.after first).after second = j.after (first ++ second) := by
  simp [after]

end Journal

/-- A threshold that is raised drops what does not reach it. -/
theorem filter_reaches {low high : Nat} (h : low ≤ high) (records : List Record) :
    (records.filter (Record.reaches low)).filter (Record.reaches high) =
      records.filter (Record.reaches high) := by
  rw [List.filter_filter]
  refine List.filter_congr fun r _ => ?_
  unfold Record.reaches
  by_cases reached : high ≤ r.level.severity
  · simp [reached, h.trans reached]
  · simp [reached]

def assignment (name : String) : Record :=
  ⟨.info, "📝 Variable " ++ Text.quoted name ++ " assigned"⟩

end Log

/-! ## Statements -/

/-- A session or a script on its way, with the log that is told of it. -/
structure AtWork (α : Type) where
  store : Store
  /-- what has come of it, in order -/
  out : List α
  journal : Log.Journal

/-- Execute a statement. An assignment is told when the variable has its value; of anything else
those tell who asked for it. -/
def AtWork.execute {α : Type} (limits : Limits) (w : AtWork α) (text : String) :
    Except Fault Effect × AtWork α :=
  match Statement.execute limits w.store text with
  | .ok (.assigned name v) =>
    (.ok (.assigned name v),
      { w with store := w.store.set name v, journal := w.journal.tell (Log.assignment name) })
  | .ok (.value v) => (.ok (.value v), w)
  | .error fault => (.error fault, w)

theorem AtWork.execute_of_ok {α : Type} {limits : Limits} {w : AtWork α} {text : String}
    {effect : Effect} (h : Statement.execute limits w.store text = .ok effect) :
    w.execute limits text =
      (.ok effect, ⟨effect.apply w.store, w.out, w.journal.after effect.records⟩) := by
  unfold execute
  rw [h]
  cases effect with
  | value v => simp [Effect.apply, Effect.records]
  | assigned name v => simp [Effect.apply, Effect.records, Log.Journal.tell_eq, Log.assignment]

theorem AtWork.execute_of_error {α : Type} {limits : Limits} {w : AtWork α} {text : String}
    {fault : Fault} (h : Statement.execute limits w.store text = .error fault) :
    w.execute limits text = (.error fault, w) := by
  unfold execute
  rw [h]

/-! ## Sessions -/

namespace Session

variable {limits : Limits} {store : Store}

/-- Answer a line; the second part says whether the session is over, or what breaks it off. -/
def hear (limits : Limits) (w : AtWork String) (line : String) :
    AtWork String × Except Fault Bool :=
  match Line.read line with
  | .blank => (w, .ok false)
  | .command text =>
    if text = "/exit" then (w, .ok true)
    else if text = "/help" then ({ w with out := w.out ++ [helpText] }, .ok false)
    else ({ w with out := w.out ++ [unknownCommand] }, .ok false)
  | .statement text =>
    match w.execute limits text with
    | (.ok effect, w) => ({ w with out := w.out ++ printed effect }, .ok false)
    | (.error fault, w) =>
      if fault.isCaught then
        let told := w.journal.tell (failure text fault)
        ({ w with out := w.out ++ [fault.message], journal := told }, .ok false)
      else (w, .error fault)

/-- Answer lines until the session is over; the second part says what breaks it off, if anything
does. -/
def listen (limits : Limits) (w : AtWork String) : List String → AtWork String × Option Fault
  | [] => (w, none)
  | line :: rest =>
    match hear limits w line with
    | (w, .error fault) => (w, some fault)
    | (w, .ok ended) => if ended then (w, none) else listen limits w rest

/-- A session with a log of a threshold, from its first line to its farewell. -/
def runTelling (threshold : Nat) (limits : Limits) (store : Store) (lines : List String) :
    Transcript :=
  let journal : Log.Journal := ⟨threshold, []⟩
  match listen limits ⟨store, [], journal.tell started⟩ lines with
  | (last, some fault) => ⟨last.out, last.store, last.journal.shown, some fault⟩
  | (last, none) =>
    ⟨last.out ++ [farewell], last.store, (last.journal.tell (finished last.store)).shown, none⟩

/-- The answer to a line is the one without a log, and the log is told what belongs to it; where
there is none, nothing has been said or told. -/
theorem hear_eq (limits : Limits) (w : AtWork String) (line : String) :
    hear limits w line =
      match reply limits w.store line with
      | .ok r => (⟨r.store, w.out ++ r.printed, w.journal.after r.log⟩, .ok r.ended)
      | .error fault => (w, .error fault) := by
  unfold hear
  cases kind : Line.read line with
  | blank => simp [reply, kind]
  | command text =>
    simp only [reply, kind, replyToCommand]
    split
    · simp
    · split <;> simp
  | statement text =>
    simp only [reply, kind, replyToStatement]
    cases ran : Statement.execute limits w.store text with
    | ok effect => simp [AtWork.execute_of_ok ran, Fault.caught, replyToOutcome]
    | error fault =>
      rw [AtWork.execute_of_error ran]
      cases goesOn : fault.isCaught with
      | true => simp [Fault.caught, goesOn, replyToOutcome, Log.Journal.tell_eq]
      | false => simp [Fault.caught, goesOn]

theorem listen_eq (limits : Limits) (w : AtWork String) (lines : List String) :
    let answers := replies limits w.store lines
    listen limits w lines =
      (⟨storeAfter w.store answers.done, w.out ++ answers.done.flatMap Reply.printed,
        w.journal.after (answers.done.flatMap Reply.log)⟩, answers.escaped) := by
  induction lines generalizing w with
  | nil => simp [listen, replies, Course.ended]
  | cons line rest ih =>
    simp only [listen, hear_eq, replies]
    cases reply limits w.store line with
    | error fault => simp [Course.broken]
    | ok r =>
      cases ended : r.ended with
      | true => simp [ended, Course.ended]
      | false => simp [ended, ih]

theorem runTelling_eq (threshold : Nat) (limits : Limits) (store : Store) (lines : List String) :
    runTelling threshold limits store lines =
      { run limits store lines with
        log := (run limits store lines).log.filter (Log.Record.reaches threshold) } := by
  simp only [runTelling, listen_eq, Log.Journal.tell_eq, Log.Journal.after_after, run, transcript]
  cases (replies limits store lines).escaped with
  | none => simp [Log.Journal.after, ← List.filter_append]
  | some fault => simp [Log.Journal.after]

/-- What is told of a line: of a statement that assigns, or that fails with a fault that is caught,
one record, of anything else nothing. -/
def told? (limits : Limits) (store : Store) (line : String) : Option Log.Record :=
  match Line.read line with
  | .statement text =>
    match Statement.execute limits store text with
    | .error .unwritable => none
    | .error fault => some (failure text fault)
    | .ok (.assigned name _) => some (Log.assignment name)
    | .ok (.value _) => none
  | .blank | .command _ => none

/-- What is told of lines, in order: of each by the store that those before it leave, up to the one
that breaks the session off. -/
def told (limits : Limits) (store : Store) : List String → List Log.Record
  | [] => []
  | line :: rest =>
    (told? limits store line).toList ++
      match reply limits store line with
      | .ok r => told limits r.store rest
      | .error _ => []

theorem log_reply {line : String} {r : Reply} (h : reply limits store line = .ok r) :
    r.log = (told? limits store line).toList := by
  cases kind : Line.read line with
  | blank =>
    simp only [reply, kind] at h
    cases h
    simp only [told?, kind]
    rfl
  | command text =>
    simp only [reply, kind, replyToCommand] at h
    cases h
    simp only [told?, kind]
    split
    · rfl
    · split <;> rfl
  | statement text =>
    simp only [reply, kind] at h
    obtain ⟨outcome, caught, rfl⟩ := map_eq_ok.1 h
    obtain ⟨rfl, goesOn⟩ := Fault.caught_eq_ok.1 caught
    simp only [told?, kind]
    cases ran : Statement.execute limits store text with
    | error fault =>
      rw [ran] at goesOn
      cases fault with
      | unwritable => exact absurd rfl goesOn
      | _ => rfl
    | ok effect => cases effect <;> rfl

theorem told?_of_error {line : String} {f : Fault} (h : reply limits store line = .error f) :
    told? limits store line = none := by
  cases kind : Line.read line with
  | blank => simp only [told?, kind]
  | command text => simp only [told?, kind]
  | statement text =>
    simp only [reply, kind] at h
    obtain ⟨ran, -⟩ := Fault.caught_eq_error.1 (map_eq_error.1 h)
    simp only [told?, kind, ran]

theorem log_replies {lines : List String} (h : ∀ line ∈ lines, isExit line = false) :
    (replies limits store lines).done.flatMap Reply.log = told limits store lines := by
  induction lines generalizing store with
  | nil => rfl
  | cons line rest ih =>
    obtain ⟨first, others⟩ := List.forall_mem_cons.1 h
    cases answered : reply limits store line with
    | error f =>
      rw [replies_cons_error answered, told, told?_of_error answered, answered]
      rfl
    | ok r =>
      rw [replies_cons first answered, Course.done_cons, List.flatMap_cons, log_reply answered,
        ih others, told, answered]

theorem level_of_told? {line : String} {r : Log.Record} (h : told? limits store line = some r) :
    r.level = .info := by
  unfold told? at h
  split at h
  · split at h <;> cases h <;> rfl
  · cases h
  · cases h

theorem level_of_mem_told {lines : List String} {r : Log.Record}
    (h : r ∈ told limits store lines) : r.level = .info := by
  induction lines generalizing store with
  | nil => cases h
  | cons line rest ih =>
    rcases List.mem_append.1 h with first | later
    · exact level_of_told? (Option.mem_toList.1 first)
    · split at later
      · exact ih later
      · cases later

/-- What is told at the end: nothing where the session is broken off. -/
def farewellTold (t : Transcript) : List Log.Record :=
  if t.escaped.isNone then [finished t.store] else []

/-- At the level of what is told of lines, nothing that a session tells is dropped. -/
theorem log_runTelling_info (limits : Limits) (store : Store) (lines : List String) :
    (runTelling Log.Level.info.severity limits store lines).log =
      started :: told limits store (heard lines) ++ farewellTold (run limits store lines) := by
  have goesOn : ∀ line ∈ heard lines, isExit line = false := fun line => isExit_of_mem_heard
  have told : (run limits store lines).log =
      started :: told limits store (heard lines) ++ farewellTold (run limits store lines) := by
    rw [run_heard, ← log_replies goesOn]
    rfl
  rw [runTelling_eq, told]
  refine List.filter_eq_self.2 fun r mem => ?_
  have level : r.level = .info := by
    rcases List.mem_append.1 mem with mem | mem
    · rcases List.mem_cons.1 mem with rfl | mem
      · rfl
      · exact level_of_mem_told mem
    · unfold farewellTold at mem
      split at mem
      · rw [List.mem_singleton.1 mem]
        rfl
      · cases mem
  simp [Log.Record.reaches, level]

end Session

/-! ## Scripts -/

namespace Script

variable {limits : Limits} {store : Store}

/-- Run a statement, and record what becomes of it; the second part says what breaks off the run, if
anything does. -/
def perform (limits : Limits) (w : AtWork Outcome) (statement : String) :
    AtWork Outcome × Option Fault :=
  match w.execute limits statement with
  | (.ok effect, w) => ({ w with out := w.out ++ [.ofEffect statement effect] }, none)
  | (.error fault, w) =>
    if fault.isCaught then
      let told := w.journal.tell (failure statement fault)
      ({ w with out := w.out ++ [.failed statement fault.message], journal := told }, none)
    else (w, some fault)

def performAll (limits : Limits) (w : AtWork Outcome) :
    List String → AtWork Outcome × Option Fault
  | [] => (w, none)
  | statement :: rest =>
    match perform limits w statement with
    | (w, some fault) => (w, some fault)
    | (w, none) => performAll limits w rest

/-- Run the script in a text, with a log of a threshold. -/
def runTelling (threshold : Nat) (limits : Limits) (store : Store) (content : String) : Run :=
  let (last, escaped) := performAll limits ⟨store, [], ⟨threshold, []⟩⟩ (statements content)
  ⟨last.out, last.store, last.journal.shown, escaped⟩

/-- What becomes of a statement is what does without a log, and the log is told what belongs to
it; where nothing becomes of it, nothing is told. -/
theorem perform_eq (limits : Limits) (w : AtWork Outcome) (statement : String) :
    perform limits w statement =
      match step limits w.store statement with
      | .ok s => (⟨s.store, w.out ++ [s.outcome], w.journal.after s.log⟩, none)
      | .error fault => (w, some fault) := by
  unfold perform step
  cases ran : Statement.execute limits w.store statement with
  | ok effect => simp [AtWork.execute_of_ok ran, Fault.caught, stepOfOutcome]
  | error fault =>
    rw [AtWork.execute_of_error ran]
    cases goesOn : fault.isCaught with
    | true => simp [Fault.caught, goesOn, stepOfOutcome, Log.Journal.tell_eq]
    | false => simp [Fault.caught, goesOn]

theorem performAll_eq (limits : Limits) (w : AtWork Outcome) (statements : List String) :
    let ss := steps limits w.store statements
    performAll limits w statements =
      (⟨storeAfter w.store ss.done, w.out ++ ss.done.map Step.outcome,
        w.journal.after (ss.done.flatMap Step.log)⟩, ss.escaped) := by
  induction statements generalizing w with
  | nil => simp [performAll, steps, storeAfter, Course.ended]
  | cons statement rest ih =>
    simp only [performAll, perform_eq, steps]
    cases step limits w.store statement with
    | error fault => simp [storeAfter, Course.broken]
    | ok s => simp [ih, storeAfter_cons]

theorem runTelling_eq (threshold : Nat) (limits : Limits) (store : Store) (content : String) :
    runTelling threshold limits store content =
      { run limits store content with
        log := (run limits store content).log.filter (Log.Record.reaches threshold) } := by
  simp only [runTelling, performAll_eq]
  simp [run, Run.ofSteps, Log.Journal.after]

/-- What is told of an outcome: a warning of a failure, one record of an assignment, nothing of a
value. -/
def Outcome.told? : Outcome → Option Log.Record
  | value .. => none
  | assigned _ name => some (Log.assignment name)
  | failed statement message =>
    some ⟨.warning, "❌ Statement failed: " ++ Text.quoted statement ++ ": " ++ message⟩

theorem log_step {statement : String} {s : Step} (h : step limits store statement = .ok s) :
    s.log = s.outcome.told?.toList := by
  obtain ⟨-, rfl⟩ := step_eq_ok.1 h
  cases Statement.execute limits store statement with
  | error fault => rfl
  | ok effect => cases effect <;> rfl

theorem log_steps (limits : Limits) (store : Store) (statements : List String) :
    (steps limits store statements).done.flatMap Step.log =
      ((steps limits store statements).done.map Step.outcome).filterMap Outcome.told? := by
  induction statements generalizing store with
  | nil => rfl
  | cons statement rest ih =>
    cases ran : step limits store statement with
    | error fault =>
      rw [steps_cons_error ran]
      rfl
    | ok s =>
      rw [steps_cons ran, Course.done_cons, List.flatMap_cons, List.map_cons, log_step ran, ih]
      cases told : s.outcome.told? with
      | none => simp [told]
      | some r => simp [told]

theorem log_runTelling_info (limits : Limits) (store : Store) (content : String) :
    (runTelling Log.Level.info.severity limits store content).log =
      (run limits store content).outcomes.filterMap Outcome.told? := by
  have told : (run limits store content).log =
      (run limits store content).outcomes.filterMap Outcome.told? :=
    log_steps limits store (statements content)
  rw [runTelling_eq, told]
  refine List.filter_eq_self.2 fun r mem => ?_
  obtain ⟨o, -, ofOutcome⟩ := List.mem_filterMap.1 mem
  cases o with
  | value s v => cases ofOutcome
  | assigned s name => cases ofOutcome; rfl
  | failed s message => cases ofOutcome; rfl

end Script

/-! ## All levels -/

/-- A session or a script has the same output, leaves the same store and is broken off by the same
fault or by none, whatever the threshold of its log. A log with a higher threshold shows those
records of one with a lower one that reach it. Each level shows what it shows of the run without a
log. At the level of information the log of a session has a record at the start, then in their order
one for each statement that assigns or has a fault that is caught and none for any other line, and
at the end one with the number of names that have values, unless the session is broken off; the log
of a script has in their order a warning for each statement that has failed, one record for each
that assigns, and nothing else. Under limits that are short nothing is broken off. -/
theorem Log.only_observes (limits : Limits) (store : Store) :
    (∀ (low high : Nat) (lines : List String), low ≤ high →
      let loud := Session.runTelling low limits store lines
      let quiet := Session.runTelling high limits store lines
      quiet.printed = loud.printed ∧ quiet.store = loud.store ∧ quiet.escaped = loud.escaped ∧
        quiet.log = loud.log.filter (Record.reaches high)) ∧
    (∀ (low high : Nat) (content : String), low ≤ high →
      let loud := Script.runTelling low limits store content
      let quiet := Script.runTelling high limits store content
      quiet.outcomes = loud.outcomes ∧ quiet.text = loud.text ∧ quiet.store = loud.store ∧
        quiet.escaped = loud.escaped ∧ quiet.log = loud.log.filter (Record.reaches high)) ∧
    (∀ (level : Level) (lines : List String),
      let run := Session.run limits store lines
      Session.runTelling level.threshold.severity limits store lines =
        { run with log := shown level run.log }) ∧
    (∀ (level : Level) (content : String),
      let run := Script.run limits store content
      Script.runTelling level.threshold.severity limits store content =
        { run with log := shown level run.log }) ∧
    (∀ lines : List String,
      let session := Session.run limits store lines
      let names := session.store.names
      (Session.runTelling Level.info.severity limits store lines).log =
          ⟨.info, "🧮 Session started"⟩ :: Session.told limits store (Session.heard lines) ++
            (if session.escaped.isNone then
              [⟨.info, "🧮 Session ended with " ++ Decimal.text names.length ++ " variable(s)"⟩]
            else []) ∧
        names.Nodup ∧ (∀ name, name ∈ names ↔ ∃ v, session.store.get? name = some v) ∧
        (limits.Short → session.escaped = none)) ∧
    (∀ content : String,
      let script := Script.run limits store content
      (Script.runTelling Level.info.severity limits store content).log =
          script.outcomes.filterMap Script.Outcome.told? ∧
        (limits.Short → script.escaped = none)) := by
  refine ⟨fun low high lines le => ?_, fun low high content le => ?_, fun level lines => ?_,
    fun level content => ?_, fun lines => ?_, fun content => ?_⟩
  · simp only [Session.runTelling_eq, filter_reaches le, and_self]
  · simp only [Script.runTelling_eq, filter_reaches le, Script.Run.text, and_self]
  · exact Session.runTelling_eq level.threshold.severity limits store lines
  · exact Script.runTelling_eq level.threshold.severity limits store content
  · refine ⟨?_, Store.names_nodup _, fun name => Store.mem_names_iff,
      fun short => Session.escaped_replies short store lines⟩
    rw [Session.log_runTelling_info, Store.names, List.length_map]
    rfl
  · exact ⟨Script.log_runTelling_info limits store content,
      fun short => Script.escaped_steps short store _⟩

/-- A value is not told, nor is a command, and nothing is heard after the end. -/
example :
    (Session.runTelling Log.Level.info.severity {} .empty
        ["a = 2", "a", "/help", "b", " ", " /exit", "c"]).log =
      [Session.started, Log.assignment "a", Session.failure "b" (.unknownVariable "b"),
        Session.finished (Store.empty.set "a" 2)] ∧
    (Script.runTelling Log.Level.warning.severity {} .empty "a = 2\nb\na").log =
      [Script.failure "b" (.unknownVariable "b")] := by
  decide +kernel

/-- A limit with one digit too many is to be named: the log is told neither of the statement that is
refused for it nor of the end. -/
theorem Log.only_observes_broken :
    let limits : Limits := ⟨10 ^ 4300, 1000000, by decide⟩
    let store := Store.empty.set "b" (10 ^ 4300 + 1)
    (Session.runTelling Log.Level.info.severity limits store ["1 ^ b"]).log =
        [Session.started] ∧
      (Script.runTelling Log.Level.info.severity limits store "1 ^ b").log = [] := by
  decide +kernel

end Reckoner
