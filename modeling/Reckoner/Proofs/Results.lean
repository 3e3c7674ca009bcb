import Reckoner.Proofs.Numerals
import Reckoner.Proofs.SessionScript

/-!
# The results of a script

The results of a script are one line for each statement, which starts with the statement. A
statement may hold anything that a line of results has after it, so it is the end of the line
that is read first: a value ends with a digit, an assignment with `OK`, a failure with one of
five messages, no two of which end alike. What then stands before is the statement, for a
statement with a value has no `=` of its own, and an assignment names its variable before its
first one. A fault that is not caught has no line, and no statement after it has one.

Results:
* `Outcome.arises_step`: all that can become of a statement.
* `Outcome.line_injective`: the line of an outcome tells the outcome.
* `lines_text`: the lines of the results are those of the outcomes.
* `map_statement`: the statements of the outcomes are the first ones of the script.
* `text_lossless`: the results tell all outcomes, one line for each.
-/
namespace Reckoner

open Outcome

/-- What stands on both sides of the first `a` is known from the whole. -/
theorem append_cons_injective {α : Type} [DecidableEq α] {a : α} {l l' r r' : List α}
    (h : a ∉ l) (h' : a ∉ l') (eq : l ++ a :: r = l' ++ a :: r') : l = l' ∧ r = r' := by
  constructor
  · rw [← takeWhile_ne_append h r, eq, takeWhile_ne_append h' r']
  · have rest := dropWhile_ne_append h r
    rw [eq, dropWhile_ne_append h' r'] at rest
    exact (List.cons.inj rest).2.symm

/-- The last character of the message of a kind. -/
def FaultKind.ending : FaultKind → Char
  | general | identifier => 'r'
  | expression => 'n'
  | assignment | unwritable => 't'
  | unknownVariable => 'e'
  | divisionByZero => 'o'

theorem FaultKind.getLast?_message (k : FaultKind) : k.message.toList.getLast? = some k.ending := by
  cases k <;> decide +kernel

theorem FaultKind.isBreakless_message (k : FaultKind) : Text.isBreakless k.message = true := by
  cases k <;> decide +kernel

/-- No fault is of the general kind, and no two of the other messages end alike, save that of the
fault that is not caught. -/
theorem Fault.message_of_ending {f g : Fault} (caught : f.isCaught) (caught' : g.isCaught)
    (h : f.kind.ending = g.kind.ending) : f.message = g.message := by
  cases f with
  | unwritable => cases caught
  | _ =>
    cases g with
    | unwritable => cases caught'
    | _ => first | rfl | cases h

theorem Text.isBreakless_numeral (z : Int) : isBreakless (Decimal.text z) = true := by
  have broken : ∀ b ∈ lineBreaks, b ≠ '-' ∧ b.isDigit = false := by simp [lineBreaks]
  rw [isBreakless_iff, Decimal.toList_text]
  intro c mem
  rw [Bool.eq_false_iff]
  intro ends
  obtain ⟨notMinus, notDigit⟩ := broken c (List.contains_iff_mem.1 ends)
  rcases Decimal.eq_minus_or_isDigit mem with minus | digit
  · exact notMinus minus
  · rw [notDigit] at digit
    cases digit

namespace Script

variable {limits : Limits} {store : Store}

/-! ## Outcomes of statements -/

theorem single_of_value {text : String} {v : Int}
    (h : Statement.execute limits store text = .ok (.value v)) : '=' ∉ text.toList := by
  intro mem
  obtain ⟨left, right, first, rfl⟩ := Statement.exists_sides mem
  rw [Statement.execute_eq_ok first] at h
  obtain ⟨name, w, -, same⟩ := Statement.assign_eq_ok h
  cases same

namespace Outcome

/-- What can become of a statement, whatever the store. -/
inductive Arises : Outcome → Prop where
  | value {s : String} (single : '=' ∉ s.toList) (v : Int) : Arises (.value s v)
  | assigned {left right name : String} (first : '=' ∉ left.toList)
    (one : Token.soleName? (Token.scan left) = some name) :
    Arises (.assigned (left ++ "=" ++ right) name)
  | failed (s : String) {f : Fault} (caught : f.isCaught) : Arises (.failed s f.message)

theorem arises_step {statement : String} {s : Step} (h : step limits store statement = .ok s) :
    Arises s.outcome := by
  obtain ⟨goesOn, rfl⟩ := step_eq_ok.1 h
  cases ran : Statement.execute limits store statement with
  | error f =>
    rw [ran] at goesOn
    exact .failed statement (Fault.isCaught_iff.2 fun same => goesOn (congrArg _ same))
  | ok effect =>
    cases effect with
    | value v => exact .value (single_of_value ran) v
    | assigned name v =>
      obtain ⟨left, right, first, rfl, one, -⟩ := Statement.value_of_execute ran
      exact .assigned first one

theorem statement_step {statement : String} {s : Step}
    (h : step limits store statement = .ok s) : s.outcome.statement = statement := by
  obtain ⟨-, rfl⟩ := step_eq_ok.1 h
  cases Statement.execute limits store statement with
  | error f => rfl
  | ok effect => cases effect <;> rfl

theorem getLast?_value (s : String) (v : Int) :
    ∃ c, (value s v).line.toList.getLast? = some c ∧ c.isDigit = true := by
  obtain ⟨c, last, digit⟩ := Decimal.getLast?_chars v
  refine ⟨c, ?_, digit⟩
  rw [line, String.toList_append, List.getLast?_append, Decimal.toList_text, last]
  rfl

theorem getLast?_assigned (s name : String) :
    (assigned s name).line.toList.getLast? = some 'K' := by
  rw [line, String.toList_append, List.getLast?_append]
  rfl

theorem getLast?_failed (s : String) (f : Fault) :
    (failed s f.message).line.toList.getLast? = some f.kind.ending := by
  have last : f.message.toList.getLast? = some f.kind.ending := f.kind.getLast?_message
  rw [line, String.toList_append, List.getLast?_append, last]
  rfl

theorem value_line_ne_assigned (s s' name : String) (v : Int) :
    (value s v).line ≠ (assigned s' name).line := by
  intro same
  obtain ⟨c, last, digit⟩ := getLast?_value s v
  rw [same, getLast?_assigned] at last
  cases last
  cases digit

theorem value_line_ne_failed (s s' : String) (v : Int) (f : Fault) :
    (value s v).line ≠ (failed s' f.message).line := by
  intro same
  obtain ⟨c, last, digit⟩ := getLast?_value s v
  rw [same, getLast?_failed] at last
  cases last
  cases f <;> cases digit

theorem assigned_line_ne_failed (s s' name : String) (f : Fault) :
    (assigned s name).line ≠ (failed s' f.message).line := by
  intro same
  have last := getLast?_assigned s name
  rw [same, getLast?_failed] at last
  cases f <;> cases last

/-! ## What a line tells -/

theorem value_injective {s s' : String} {v v' : Int} (single : '=' ∉ s.toList)
    (single' : '=' ∉ s'.toList) (h : (value s v).line = (value s' v').line) :
    value s v = value s' v' := by
  have chars (s : String) (v : Int) : (value s v).line.toList =
      (s.toList ++ [' ']) ++ '=' :: (' ' :: Decimal.chars v) := by
    simp [line, Decimal.toList_text]
  have spaced {s : String} (single : '=' ∉ s.toList) : '=' ∉ s.toList ++ [' '] := by
    simp [single]
  have same := congrArg String.toList h
  rw [chars, chars] at same
  obtain ⟨before, after⟩ := append_cons_injective (spaced single) (spaced single') same
  rw [String.toList_inj.1 (List.append_cancel_right before),
    Decimal.chars_injective (List.cons.inj after).2]

theorem assigned_injective {left left' right right' name name' : String}
    (first : '=' ∉ left.toList) (first' : '=' ∉ left'.toList)
    (one : Token.soleName? (Token.scan left) = some name)
    (one' : Token.soleName? (Token.scan left') = some name')
    (h : (assigned (left ++ "=" ++ right) name).line =
      (assigned (left' ++ "=" ++ right') name').line) :
    assigned (left ++ "=" ++ right) name = assigned (left' ++ "=" ++ right') name' := by
  have statement : left ++ "=" ++ right = left' ++ "=" ++ right' :=
    (String.append_left_inj _).1 h
  have chars (l r : String) : (l ++ "=" ++ r).toList = l.toList ++ '=' :: r.toList := by simp
  have same := congrArg String.toList statement
  rw [chars, chars] at same
  -- the name is what stands before the first `=`
  obtain rfl := String.toList_inj.1 (append_cons_injective first first' same).1
  rw [statement, Option.some.inj (one.symm.trans one')]

theorem failed_injective {s s' : String} {f f' : Fault} (caught : f.isCaught)
    (caught' : f'.isCaught)
    (h : (failed s f.message).line = (failed s' f'.message).line) :
    failed s f.message = failed s' f'.message := by
  have last := getLast?_failed s f
  rw [h, getLast?_failed] at last
  have message : f.message = f'.message :=
    Fault.message_of_ending caught caught' (Option.some.inj last).symm
  rw [message] at h ⊢
  have before := (String.append_left_inj _).1 ((String.append_left_inj _).1 h)
  rw [before]

/-- Two outcomes with one line are one outcome. -/
theorem line_injective {o o' : Outcome} (h : Arises o) (h' : Arises o')
    (same : o.line = o'.line) : o = o' := by
  cases h with
  | value single v =>
    cases h' with
    | value single' v' => exact value_injective single single' same
    | assigned first' one' => exact absurd same (value_line_ne_assigned _ _ _ _)
    | failed s' caught' => exact absurd same (value_line_ne_failed _ _ _ _)
  | assigned first one =>
    cases h' with
    | value single' v' => exact absurd same.symm (value_line_ne_assigned _ _ _ _)
    | assigned first' one' => exact assigned_injective first first' one one' same
    | failed s' caught' => exact absurd same (assigned_line_ne_failed _ _ _ _)
  | failed s caught =>
    cases h' with
    | value single' v' => exact absurd same.symm (value_line_ne_failed _ _ _ _)
    | assigned first' one' => exact absurd same.symm (assigned_line_ne_failed _ _ _ _)
    | failed s' caught' => exact failed_injective caught caught' same

theorem map_line_injective {os os' : List Outcome} (h : ∀ o ∈ os, Arises o)
    (h' : ∀ o ∈ os', Arises o) (same : os.map line = os'.map line) : os = os' := by
  induction os generalizing os' with
  | nil => exact (List.map_eq_nil_iff.1 same.symm).symm
  | cons o os ih =>
    cases os' with
    | nil => cases same
    | cons o' os' =>
      obtain ⟨first, others⟩ := List.forall_mem_cons.1 h
      obtain ⟨first', others'⟩ := List.forall_mem_cons.1 h'
      obtain ⟨sameFirst, sameOthers⟩ := List.cons.inj same
      rw [line_injective first first' sameFirst, ih others others' sameOthers]

theorem isBreakless_line {o : Outcome} (h : Arises o)
    (statement : Text.isBreakless o.statement = true) : Text.isBreakless o.line = true := by
  cases h with
  | value single v =>
    exact Text.isBreakless_append.2
      ⟨Text.isBreakless_append.2 ⟨statement, rfl⟩, Text.isBreakless_numeral v⟩
  | assigned first one => exact Text.isBreakless_append.2 ⟨statement, rfl⟩
  | @failed s f caught =>
    exact Text.isBreakless_append.2 ⟨Text.isBreakless_append.2 ⟨statement, rfl⟩,
      f.kind.isBreakless_message⟩

theorem exists_line (o : Outcome) : ∃ rest, o.line = o.statement ++ rest := by
  cases o with
  | value s v => exact ⟨" = " ++ Decimal.text v, String.append_assoc ..⟩
  | assigned s name => exact ⟨" -> OK", rfl⟩
  | failed s message => exact ⟨" -> ERROR: " ++ message, String.append_assoc ..⟩

end Outcome

/-! ## Statements of a script -/

/-- Without the blanks around it, a line is a statement if it starts with anything but `/`. -/
theorem statement?_read (line : String) :
    (Line.read line).statement? =
      if (Text.strip line).toList.head?.any (· != '/') then some (Text.strip line) else none := by
  simp only [Line.read]
  split
  · rename_i empty
    simp [Line.statement?, empty]
  · rename_i rest slash
    simp [Line.statement?, slash]
  · rename_i nonempty noSlash
    cases chars : (Text.strip line).toList with
    | nil => exact absurd chars nonempty
    | cons c rest =>
      have other : c ≠ '/' := fun eq => noSlash rest (eq ▸ chars)
      simp [Line.statement?, other]

/-- The statements among lines are the lines without blanks around them, save blank ones and
commands. -/
theorem statementsIn_eq_filter (lines : List String) :
    Session.statementsIn lines =
      (lines.map Text.strip).filter (·.toList.head?.any (· != '/')) := by
  induction lines with
  | nil => rfl
  | cons line rest ih =>
    rw [Session.statementsIn, List.filterMap_cons, statement?_read, List.map_cons,
      List.filter_cons, ← ih]
    cases (Text.strip line).toList.head?.any (· != '/') <;> rfl

theorem statements_eq_filter (content : String) :
    statements content =
      ((Text.lines content).map Text.strip).filter (·.toList.head?.any (· != '/')) :=
  statementsIn_eq_filter (Text.lines content)

/-! ## Whole runs -/

theorem statement_steps (limits : Limits) (store : Store) (statements : List String) :
    (steps limits store statements).done.map (·.outcome.statement) =
      statements.take (steps limits store statements).done.length := by
  induction statements generalizing store with
  | nil => rfl
  | cons statement rest ih =>
    cases ran : step limits store statement with
    | error f =>
      rw [steps_cons_error ran]
      rfl
    | ok s =>
      rw [steps_cons ran, Course.done_cons, List.map_cons, Outcome.statement_step ran, ih,
        List.length_cons, List.take_succ_cons]

theorem isBreakless_of_mem_statements {content s : String} (h : s ∈ statements content) :
    Text.isBreakless s = true := by
  rw [statements_eq_filter] at h
  obtain ⟨line, inText, rfl⟩ := List.mem_map.1 (List.mem_of_mem_filter h)
  exact Text.isBreakless_strip (Text.isBreakless_of_mem_lines inText)

theorem map_statement (limits : Limits) (store : Store) (content : String) :
    (run limits store content).outcomes.map Outcome.statement = executed limits store content := by
  rw [executed, run_outcomes, List.map_map, List.length_map]
  exact statement_steps limits store _

theorem arises_outcomes (limits : Limits) (store : Store) (content : String) :
    ∀ o ∈ (run limits store content).outcomes, o.Arises := by
  rw [run_outcomes]
  refine List.forall_mem_map.2 fun s mem => ?_
  obtain ⟨statement, -, before, ran⟩ := exists_of_mem_steps mem
  exact Outcome.arises_step ran

theorem lines_text (limits : Limits) (store : Store) (content : String) :
    Text.lines (run limits store content).text =
      (run limits store content).outcomes.map Outcome.line := by
  have split : (run limits store content).outcomes.map (fun o => o.line ++ "\n") =
      ((run limits store content).outcomes.map Outcome.line).map (· ++ "\n") := by
    rw [List.map_map]
    rfl
  rw [Run.text, split]
  refine Text.lines_join (List.forall_mem_map.2 fun o mem => ?_)
  have isExecuted : o.statement ∈ executed limits store content := by
    rw [← map_statement limits store content]
    exact List.mem_map_of_mem mem
  exact Outcome.isBreakless_line (arises_outcomes limits store content o mem)
    (isBreakless_of_mem_statements (List.mem_of_mem_take isExecuted))

/-- The results of a script have a line for each of its first statements, in order, which starts
with the statement; the statements are the lines of the script that are neither blank nor commands,
without the blanks around them. All have one exactly if nothing breaks off the run, and under limits
that are short nothing does. And the results are lossless: those of two runs, of any scripts in any
stores under any limits, are equal exactly if the outcomes are. -/
theorem text_lossless (limits limits' : Limits) (store store' : Store)
    (content content' : String) :
    let r := run limits store content
    let r' := run limits' store' content'
    let asked := ((Text.lines content).map Text.strip).filter (·.toList.head?.any (· != '/'))
    (Text.lines r.text = r.outcomes.map Outcome.line ∧
      r.outcomes.map Outcome.statement <+: asked ∧
      (r.outcomes.map Outcome.statement = asked ↔ r.escaped = none) ∧
      (limits.Short → r.escaped = none) ∧
      ∀ o ∈ r.outcomes, ∃ rest, o.line = o.statement ++ rest) ∧
    (r.text = r'.text ↔ r.outcomes = r'.outcomes) := by
  intro r r' asked
  have found : asked = statements content := (statements_eq_filter content).symm
  have told : r.outcomes.map Outcome.statement = executed limits store content :=
    map_statement limits store content
  rw [found, told]
  refine ⟨⟨lines_text limits store content, List.take_prefix _ _, executed_eq_iff,
    fun short => escaped_steps short store _, fun o _ => o.exists_line⟩, ?_, ?_⟩
  · intro same
    have lines := congrArg Text.lines same
    rw [lines_text, lines_text] at lines
    exact Outcome.map_line_injective (arises_outcomes limits store content)
      (arises_outcomes limits' store' content') lines
  · intro same
    rw [Run.text, same, Run.text]

/-- The limit that the second statement is refused for has one digit too many: neither it nor the
third one has a line. -/
theorem text_lossless_broken :
    let limits : Limits := ⟨10 ^ 4300, 1000000, by decide⟩
    let store := Store.empty.set "b" (10 ^ 4300 + 1)
    Text.lines (run limits store "2\n1 ^ b\n3").text = ["2 = 2"] := by
  decide +kernel

end Script

end Reckoner
