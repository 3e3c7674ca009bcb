import Reckoner.Proofs.History
import Reckoner.Proofs.Lines
import Reckoner.Proofs.ShortLimits

/-!
# Sessions and scripts

A session on the lines of a text and a script of the lines before its end go the same way.
They share what becomes of each statement, and carry the same store from one to the next;
the session also answers commands, which do not change the store, and which a script skips.
What breaks off the one breaks off the other at the same statement, and then the session has no
farewell.

Results:
* `reply_statement`: a session prints for a statement what became of it in a script.
* `reply_command`: a command that does not end the session prints one of two texts.
* `replies_eq_steps`: so it is with all lines, by induction.
* `statements_intercalate`: joining lines loses no statement.
* `run_eq_script`: a session and a script agree.
-/
namespace Reckoner

def Line.isCommand : Line → Bool
  | command _ => true
  | _ => false

/-- What a session prints for what became of a statement. -/
def Script.Outcome.printed : Script.Outcome → List String
  | value _ v => [Decimal.text v]
  | assigned .. => []
  | failed _ message => [message]

theorem Script.run_outcomes (limits : Limits) (store : Store) (content : String) :
    (run limits store content).outcomes =
      (steps limits store (statements content)).done.map Step.outcome := rfl

namespace Session

variable {limits : Limits} {store : Store}

theorem reply_statement {line text : String} (h : Line.read line = .statement text)
    (limits : Limits) (store : Store) :
    (∃ r s, reply limits store line = .ok r ∧ Script.step limits store text = .ok s ∧
      r.store = s.store ∧ r.printed = s.outcome.printed) ∨
    ∃ f, reply limits store line = .error f ∧ Script.step limits store text = .error f := by
  simp only [reply, h, replyToStatement, Script.step]
  cases Fault.caught (Statement.execute limits store text) with
  | error f => exact .inr ⟨f, rfl, rfl⟩
  | ok outcome =>
    refine .inl ⟨_, _, rfl, rfl, ?_⟩
    cases outcome with
    | error f => exact ⟨rfl, rfl⟩
    | ok effect => cases effect <;> exact ⟨rfl, rfl⟩

theorem reply_command {line text : String} (h : Line.read line = .command text)
    (goesOn : isExit line = false) (limits : Limits) (store : Store) :
    ∃ r, reply limits store line = .ok r ∧ r.store = store ∧
      (r.printed = [helpText] ∨ r.printed = [unknownCommand]) := by
  have other : text ≠ "/exit" := by
    rw [Line.eq_strip_of_command h]
    simpa [isExit] using goesOn
  refine ⟨replyToCommand store text, by simp only [reply, h], ?_⟩
  simp only [replyToCommand, if_neg other]
  split
  · exact ⟨rfl, .inl rfl⟩
  · exact ⟨rfl, .inr rfl⟩

theorem reply_blank {line : String} (h : Line.read line = .blank) (limits : Limits)
    (store : Store) : reply limits store line = .ok ⟨[], false, store, []⟩ := by
  simp only [reply, h]

/-! ## All lines -/

/-- Every answer is that to its line, in the store that the lines before it leave. -/
theorem exists_before {lines : List String} (h : ∀ line ∈ lines, isExit line = false)
    {line : String} {r : Reply} (mem : (line, r) ∈ lines.zip (replies limits store lines).done) :
    ∃ before, reply limits before line = .ok r := by
  induction lines generalizing store with
  | nil => cases mem
  | cons head rest ih =>
    obtain ⟨first, others⟩ := List.forall_mem_cons.1 h
    cases answered : reply limits store head with
    | error f =>
      rw [replies_cons_error answered] at mem
      cases mem
    | ok s =>
      rw [replies_cons first answered, Course.done_cons, List.zip_cons_cons] at mem
      rcases List.mem_cons.1 mem with same | mem
      · cases same
        exact ⟨store, answered⟩
      · exact ih others mem

theorem printed_of_isCommand {lines : List String} (h : ∀ line ∈ lines, isExit line = false)
    {pair : String × Reply} (mem : pair ∈ lines.zip (replies limits store lines).done)
    (command : (Line.read pair.1).isCommand = true) :
    pair.2.printed = [helpText] ∨ pair.2.printed = [unknownCommand] := by
  obtain ⟨line, r⟩ := pair
  obtain ⟨before, answer⟩ := exists_before h mem
  have goesOn : isExit line = false := h line (List.of_mem_zip mem).1
  cases kind : Line.read line with
  | command text =>
    obtain ⟨s, same, -, printed⟩ := reply_command kind goesOn limits before
    cases same.symm.trans answer
    exact printed
  | blank => rw [kind] at command; cases command
  | statement text => rw [kind] at command; cases command

/-- What is printed in answer to lines, save in answer to commands. -/
def withoutCommands (lines : List String) (answers : List Reply) : List String :=
  (lines.zip answers).flatMap fun (line, r) =>
    if (Line.read line).isCommand then [] else r.printed

variable {lines : List String}

theorem withoutCommands_cons (line : String) (rest : List String) (r : Reply) (rs : List Reply) :
    withoutCommands (line :: rest) (r :: rs) =
      (if (Line.read line).isCommand then [] else r.printed) ++ withoutCommands rest rs := rfl

/-- The statements among lines, as a script finds them. -/
def statementsIn (lines : List String) : List String :=
  lines.filterMap fun line => (Line.read line).statement?

theorem statementsIn_append (first second : List String) :
    statementsIn (first ++ second) = statementsIn first ++ statementsIn second :=
  List.filterMap_append

/-- The store and what is printed go along with the script of the same statements, and what breaks
them off. -/
theorem replies_eq_steps (limits : Limits) (store : Store)
    (h : ∀ line ∈ lines, isExit line = false) :
    let answers := replies limits store lines
    let ss := Script.steps limits store (statementsIn lines)
    storeAfter store answers.done = Script.storeAfter store ss.done ∧
      withoutCommands lines answers.done = ss.done.flatMap (·.outcome.printed) ∧
      answers.escaped = ss.escaped := by
  induction lines generalizing store with
  | nil => exact ⟨rfl, rfl, rfl⟩
  | cons line rest ih =>
    obtain ⟨first, others⟩ := List.forall_mem_cons.1 h
    -- only a statement has a step of the script; the other lines leave the store to the next one
    cases kind : Line.read line with
    | blank =>
      have skipped : statementsIn (line :: rest) = statementsIn rest := by
        simp [statementsIn, kind, Line.statement?]
      rw [replies_cons first (reply_blank kind limits store), skipped]
      dsimp only [Course.done_cons, Course.escaped_cons]
      rw [storeAfter_cons, withoutCommands_cons]
      simpa using ih store others
    | command text =>
      have skipped : statementsIn (line :: rest) = statementsIn rest := by
        simp [statementsIn, kind, Line.statement?]
      obtain ⟨r, answered, same, -⟩ := reply_command kind first limits store
      have isCommand : (Line.read line).isCommand = true := by rw [kind]; rfl
      rw [replies_cons first answered, same, skipped]
      dsimp only [Course.done_cons, Course.escaped_cons]
      rw [storeAfter_cons, same, withoutCommands_cons, if_pos isCommand]
      exact ih store others
    | statement text =>
      have found : statementsIn (line :: rest) = text :: statementsIn rest := by
        simp [statementsIn, kind, Line.statement?]
      have notCommand : ¬(Line.read line).isCommand = true := by rw [kind]; exact Bool.noConfusion
      rw [found]
      rcases reply_statement kind limits store with
        ⟨r, s, answered, ran, stored, printed⟩ | ⟨f, answered, ran⟩
      · rw [replies_cons first answered, Script.steps_cons ran, stored]
        dsimp only [Course.done_cons, Course.escaped_cons]
        rw [storeAfter_cons, Script.storeAfter_cons, stored, withoutCommands_cons,
          if_neg notCommand, List.flatMap_cons, printed]
        obtain ⟨storeRest, printedRest, escapedRest⟩ := ih s.store others
        exact ⟨storeRest, congrArg _ printedRest, escapedRest⟩
      · rw [replies_cons_error answered, Script.steps_cons_error ran]
        exact ⟨rfl, rfl, rfl⟩

/-- Lines that are joined hold the same statements: of an empty last line nothing is left, and it
holds none. -/
theorem statements_intercalate (h : ∀ line ∈ lines, Text.isBreakless line) :
    Script.statements ("\n".intercalate lines) = statementsIn lines := by
  have blank : statementsIn [""] = [] := rfl
  rcases Text.lines_intercalate h with same | same
  · exact congrArg statementsIn same.symm
  · calc
      statementsIn (Text.lines ("\n".intercalate lines))
        = statementsIn (Text.lines ("\n".intercalate lines) ++ [""]) := by
          rw [statementsIn_append, blank, List.append_nil]
      _ = statementsIn lines := congrArg statementsIn same.symm

/-! ## Whole runs -/

theorem run_append_exit {exit : String} (h : isExit exit = true) (limits : Limits)
    (store : Store) (lines others : List String) :
    run limits store (heard lines ++ exit :: others) = run limits store lines := by
  have goesOn : ∀ line ∈ heard lines, (!isExit line) = true := fun line mem => by
    simp [isExit_of_mem_heard mem]
  have kept : heard (heard lines ++ exit :: others) = heard lines := by
    rw [heard, List.takeWhile_append_of_pos goesOn, List.takeWhile_cons_of_neg (by simp [h]),
      List.append_nil]
  rw [run_heard, kept, ← run_heard]

/-- A session on the lines of a text and a script of those that are heard leave the same store, and
are broken off by the same fault or by none; under limits that are short by none. The session prints
its answers, one for each line, and its farewell, which is missing where it is broken off with a
line left unanswered. Without the answers to commands, which are one of two texts each, it prints
for each statement what became of it in the script. From the line that ends the session on, no line
has a part in it. -/
theorem run_eq_script (limits : Limits) (store : Store) (content : String) :
    let lines := heard (Text.lines content)
    let answers := (replies limits store lines).done
    let session := run limits store (Text.lines content)
    let script := Script.run limits store ("\n".intercalate lines)
    (session.store = script.store ∧ session.escaped = script.escaped) ∧
      (session.escaped = none → session.printed = answers.flatMap Reply.printed ++ [farewell] ∧
        answers.length = lines.length) ∧
      (session.escaped ≠ none → session.printed = answers.flatMap Reply.printed ∧
        answers.length < lines.length) ∧
      withoutCommands lines answers = script.outcomes.flatMap Script.Outcome.printed ∧
      (∀ pair ∈ lines.zip answers, (Line.read pair.1).isCommand = true →
        pair.2.printed = [helpText] ∨ pair.2.printed = [unknownCommand]) ∧
      (∀ exit others, isExit exit = true →
        run limits store (lines ++ exit :: others) = session) ∧
      (limits.Short → session.escaped = none) := by
  intro lines answers session script
  have goesOn : ∀ line ∈ lines, isExit line = false := fun line => isExit_of_mem_heard
  have breakless : ∀ line ∈ lines, Text.isBreakless line := fun line mem =>
    Text.isBreakless_of_mem_lines ((List.takeWhile_sublist _).subset mem)
  have same : session = run limits store lines := run_heard limits store (Text.lines content)
  -- the lines that are heard are cut apart as they were joined
  have statements : Script.statements ("\n".intercalate lines) = statementsIn lines :=
    statements_intercalate breakless
  obtain ⟨stored, printed, escaped⟩ := replies_eq_steps limits store goesOn
  obtain ⟨atMost, whole⟩ := length_replies limits store goesOn
  have course : (replies limits store lines).escaped = session.escaped :=
    (congrArg Transcript.escaped same).symm
  rw [course] at whole
  refine ⟨⟨?_, ?_⟩, fun unbroken => ?_, fun broken => ?_, ?_, ?_, ?_, fun short => ?_⟩
  · calc
      session.store = storeAfter store answers := congrArg Transcript.store same
      _ = Script.storeAfter store (Script.steps limits store (statementsIn lines)).done := stored
      _ = script.store := by rw [← statements, ← Script.run_store]
  · calc
      session.escaped = (Script.steps limits store (statementsIn lines)).escaped :=
        course.symm.trans escaped
      _ = script.escaped := by rw [← statements]; rfl
  · refine ⟨?_, whole.2 unbroken⟩
    rw [← course] at unbroken
    rw [same]
    simp only [run, transcript, unbroken, Option.isNone_none, if_true]
    rfl
  · refine ⟨?_, Nat.lt_of_le_of_ne atMost (mt whole.1 broken)⟩
    rw [← course] at broken
    rw [same]
    simp only [run, transcript, Option.isNone_iff_eq_none, broken, if_false, List.append_nil]
    rfl
  · calc
      withoutCommands lines answers
        = (Script.steps limits store (statementsIn lines)).done.flatMap (·.outcome.printed) :=
          printed
      _ = script.outcomes.flatMap Script.Outcome.printed := by
        rw [← statements, ← List.flatMap_map, ← Script.run_outcomes]
  · exact fun pair => printed_of_isCommand goesOn
  · exact fun exit others ends => run_append_exit ends limits store (Text.lines content) others
  · rw [← course]
    exact escaped_replies short store lines

/-- The exponent of the first line is refused, and the limit in the refusal has one digit too many:
the line is not answered, and the farewell is missing. -/
theorem run_without_farewell :
    let limits : Limits := ⟨10 ^ 4300, 1000000, by decide⟩
    let store := Store.empty.set "b" (10 ^ 4300 + 1)
    (run limits store ["2", "1 ^ b", "3"]).printed = ["2"] ∧
      (run limits store ["2", "1 ^ b", "3"]).escaped = some .unwritable := by
  decide +kernel

end Session

end Reckoner
