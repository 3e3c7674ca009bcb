import Reckoner.Proofs.Lexemes
import Reckoner.Proofs.Placement
import Reckoner.Proofs.Results

/-!
# Commands

A line that starts with `/` is a command and is never executed. Nothing is lost by that. As a
statement it would fail, whatever follows and whatever the store: the `/` at its start is an
operator without a left operand, which is found before anything else of an expression is looked
at, and what stands before a later `=` is no name. So if all lines were statements, commands and
blank lines too, a script would have the same steps, and failures between them.

Main definitions:
* `Script.stepsOfAll`: the steps if every line were a statement.
* `Script.ofStatements`: those of them that belong to statements.

Results:
* `Token.scan_of_head?`: a symbol at the start of a text is its first token.
* `Token.value_of_misplaced`: a first token that stands for nothing decides the fault.
* `Statement.execute_of_slash`: what is wrong with a text that starts with `/`.
* `Statement.exists_fault`: a line that is no statement fails as one, with a fault that is caught.
* `Script.steps_filter`: statements that fail in every store can be left out.
* `Script.commands_hide_nothing`: what sessions and scripts make of all lines.
-/
namespace Reckoner

open Outcome

namespace Token

theorem isSymbol_slash : isSymbol '/' := by decide

/-- Blanks before a symbol are no tokens. -/
theorem scan_of_head? {c : Char} (h : isSymbol c) {text : String}
    (first : (Text.strip text).toList.head? = some c) :
    ∃ rest, scan text = symbol c :: rest := by
  obtain ⟨cs, chars⟩ := List.head?_eq_some_iff.1 first
  have cut := scanChars_symbol h [] cs
  rw [List.nil_append, scanChars_eq_nil.2 (List.forall_mem_nil _), List.nil_append] at cut
  refine ⟨scanChars cs, ?_⟩
  rw [← scan_strip, scan, chars, cut]

variable {limits : Limits} {store : Store}

/-- The first token has its element before the others, the parentheses and the store matter. -/
theorem value_of_misplaced {t : Token} {cause : Malformed}
    (h : Element.classify none t = .error cause) (rest : List Token) :
    value limits store (t :: rest) = .error (.expression cause) := by
  have refused : Element.ofTokens (t :: rest) = .error cause := by
    rw [Element.ofTokens_eq_placed, Element.placed_cons, h, error_bind, error_bind]
  rw [value, rpn, refused]
  rfl

end Token

/-! ## Lines that are no statements -/

namespace Statement

variable {limits : Limits} {store : Store} {text : String}

theorem read_of_symbol {c : Char} (other : c ≠ '=') {rest : List Token}
    (h : Token.scan text = .symbol c :: rest) (mem : '=' ∈ text.toList) :
    read text = .misassignment (leftText text) := by
  have sign : assignSign ∈ Token.scan text := assignSign_mem_scan.2 mem
  have before : Token.symbol c ≠ assignSign := fun same => other (Token.symbol.inj same)
  cases after : (Token.scan text).dropWhile (· != assignSign) with
  | nil =>
    have ruledOut := List.dropWhile_eq_nil_iff.1 after assignSign sign
    simp at ruledOut
  | cons t right =>
    have noName : Token.soleName? ((Token.scan text).takeWhile (· != assignSign)) = none := by
      rw [h, List.takeWhile_cons_of_pos (by simpa using before)]
      rfl
    simp only [read, after, noName]

theorem execute_of_slash (h : (Text.strip text).toList.head? = some '/') (limits : Limits)
    (store : Store) :
    ('=' ∉ text.toList →
      execute limits store text = .error (.expression (.noLeftOperand '/'))) ∧
    ('=' ∈ text.toList → execute limits store text = .error (.identifier (leftText text))) := by
  obtain ⟨rest, tokens⟩ := Token.scan_of_head? Token.isSymbol_slash h
  constructor
  · intro single
    have misplaced : Element.classify none (.symbol '/') = .error (.noLeftOperand '/') := rfl
    rw [execute_eq_value single, Expression.value, tokens, Token.value_of_misplaced misplaced]
    rfl
  · intro assigns
    rw [execute, read_of_symbol (by decide) tokens assigns]
    rfl

theorem execute_of_blank (h : (Text.strip text).toList.head? = none) :
    execute limits store text = .error (.expression (.valuesLeft 0)) := by
  have noToken : Token.scan text = [] := by
    rw [← Token.scan_strip, Token.scan, List.head?_eq_none_iff.1 h]
    rfl
  have expression : read text = .expression [] := by
    simp only [read, noToken, List.dropWhile_nil]
  rw [execute, expression]
  rfl

/-- Blanks around a statement count for nothing, but a fault may show them. -/
theorem execute_strip_eq {outcome : Except Fault Effect}
    (h : ∀ left, outcome ≠ .error (.identifier left)) :
    execute limits store (Text.strip text) = outcome ↔ execute limits store text = outcome := by
  simp only [execute, read, Token.scan_strip]
  split
  · rfl
  · split
    · rfl
    · constructor
      · intro same
        exact absurd same.symm (h _)
      · intro same
        exact absurd same.symm (h _)

/-- A line that is no statement fails as one, in every store, and the fault is caught. -/
theorem exists_fault {line : String}
    (h : (Text.strip line).toList.head?.any (· != '/') = false) (limits : Limits) (store : Store) :
    ∃ f, f ≠ .unwritable ∧ execute limits store (Text.strip line) = .error f := by
  have faulty : ∃ f, f ≠ .unwritable ∧ execute limits store line = .error f := by
    cases first : (Text.strip line).toList.head? with
    | none => exact ⟨_, Fault.noConfusion, execute_of_blank first⟩
    | some c =>
      obtain rfl : c = '/' := by simpa [first] using h
      obtain ⟨operand, name⟩ := execute_of_slash first limits store
      by_cases assigns : '=' ∈ line.toList
      · exact ⟨_, Fault.noConfusion, name assigns⟩
      · exact ⟨_, Fault.noConfusion, operand assigns⟩
  obtain ⟨f, goesOn, faulty⟩ := faulty
  cases ran : execute limits store (Text.strip line) with
  | error g =>
    refine ⟨g, ?_, rfl⟩
    rintro rfl
    rw [execute_strip_eq (fun left => by simp), faulty] at ran
    exact goesOn (Except.error.inj ran)
  | ok effect =>
    rw [execute_strip_eq (fun left => by simp), faulty] at ran
    cases ran

end Statement

/-- A line that would succeed as a statement is answered as one. -/
theorem Session.reply_of_execute {limits : Limits} {store : Store} {line : String}
    {effect : Effect} (h : Statement.execute limits store line = .ok effect) :
    reply limits store line =
      .ok ⟨printed effect, false, effect.apply store, effect.records⟩ := by
  have ran := (Statement.execute_strip_eq fun left => by simp).2 h
  have starts : (Text.strip line).toList.head?.any (· != '/') = true := by
    by_contra other
    obtain ⟨f, -, faulty⟩ := Statement.exists_fault (Bool.eq_false_iff.2 other) limits store
    cases faulty.symm.trans ran
  have isStatement := Script.statement?_read line
  rw [if_pos starts] at isStatement
  cases kind : Line.read line with
  | blank => rw [kind] at isStatement; cases isStatement
  | command text => rw [kind] at isStatement; cases isStatement
  | statement text =>
    obtain rfl := Line.eq_strip_of_statement kind
    simp only [reply, kind, replyToStatement, ran]
    rfl

/-! ## All lines as statements -/

namespace Script

variable {limits : Limits} {store : Store}

theorem step_of_error {text : String} {f : Fault} (goesOn : f ≠ .unwritable)
    (h : Statement.execute limits store text = .error f) :
    step limits store text = .ok ⟨.failed text f.message, store, [failure text f]⟩ := by
  refine step_eq_ok.2 ⟨?_, ?_⟩
  · rw [h]
    exact fun same => goesOn (Except.error.inj same)
  · rw [h]
    rfl

/-- A course without some of the steps that are done. -/
def keeping (kept : String → Bool) (ss : Course Step) : Course Step :=
  ⟨ss.done.filter (kept ·.outcome.statement), ss.escaped⟩

theorem keeping_cons (kept : String → Bool) (s : Step) (ss : Course Step) :
    keeping kept (.cons s ss) =
      if kept s.outcome.statement then .cons s (keeping kept ss) else keeping kept ss := by
  rw [keeping, Course.done_cons, List.filter_cons]
  split <;> rfl

/-- Statements that fail in every store, with faults that are caught, can be left out: the steps of
the others, and the store in the end, are the same. -/
theorem steps_filter {kept : String → Bool} {texts : List String} {limits : Limits}
    (h : ∀ text ∈ texts, kept text = false → ∀ store, ∃ f, f ≠ .unwritable ∧
      Statement.execute limits store text = .error f) (store : Store) :
    steps limits store (texts.filter kept) = keeping kept (steps limits store texts) ∧
      storeAfter store (steps limits store (texts.filter kept)).done =
        storeAfter store (steps limits store texts).done := by
  induction texts generalizing store with
  | nil => exact ⟨rfl, rfl⟩
  | cons text rest ih =>
    obtain ⟨first, others⟩ := List.forall_mem_cons.1 h
    rw [List.filter_cons]
    cases isKept : kept text with
    | true =>
      rw [if_pos rfl]
      cases ran : step limits store text with
      | error f =>
        rw [steps_cons_error ran, steps_cons_error ran]
        exact ⟨rfl, rfl⟩
      | ok s =>
        obtain ⟨sameSteps, sameStore⟩ := ih others s.store
        rw [steps_cons ran, steps_cons ran, keeping_cons, Outcome.statement_step ran, if_pos isKept,
          sameSteps]
        rw [sameSteps] at sameStore
        exact ⟨rfl, by rw [Course.done_cons, Course.done_cons, storeAfter_cons, storeAfter_cons,
          sameStore]⟩
    | false =>
      -- the statements after it start with the same store, whether it is left out or fails
      obtain ⟨f, goesOn, faulty⟩ := first isKept store
      have ran := step_of_error goesOn faulty
      have dropped : ¬kept text = true := by rw [isKept]; exact Bool.false_ne_true
      rw [if_neg Bool.false_ne_true, steps_cons ran, keeping_cons, Outcome.statement_step ran,
        if_neg dropped, Course.done_cons, storeAfter_cons]
      exact ih others store

/-- The steps if every line were a statement. -/
def stepsOfAll (limits : Limits) (store : Store) (lines : List String) : Course Step :=
  steps limits store (lines.map Text.strip)

/-- The steps of lines that are statements, without those of commands and of blank lines. -/
def ofStatements (ss : Course Step) : Course Step :=
  keeping (·.toList.head?.any (· != '/')) ss

/-- The lines that a script skips are among those that would fail. -/
theorem steps_statementsIn (limits : Limits) (store : Store) (lines : List String) :
    steps limits store (Session.statementsIn lines) =
        ofStatements (stepsOfAll limits store lines) ∧
      storeAfter store (steps limits store (Session.statementsIn lines)).done =
        storeAfter store (stepsOfAll limits store lines).done := by
  rw [statementsIn_eq_filter]
  refine steps_filter (fun text mem skipped store => ?_) store
  obtain ⟨line, -, rfl⟩ := List.mem_map.1 mem
  exact Statement.exists_fault skipped limits store

theorem failed_of_skipped {lines : List String} {s : Step}
    (mem : s ∈ (stepsOfAll limits store lines).done)
    (skipped : s ∉ (ofStatements (stepsOfAll limits store lines)).done) :
    ∃ f : Fault, s.outcome = .failed s.outcome.statement f.message := by
  obtain ⟨text, inLines, before, ran⟩ := exists_of_mem_steps mem
  obtain ⟨line, -, rfl⟩ := List.mem_map.1 inLines
  rw [ofStatements, keeping, List.mem_filter, not_and, Outcome.statement_step ran,
    Bool.not_eq_true] at skipped
  obtain ⟨f, goesOn, faulty⟩ := Statement.exists_fault (skipped mem) limits before
  rw [step_of_error goesOn faulty] at ran
  cases ran
  exact ⟨f, rfl⟩

theorem session_of_all (limits : Limits) (store : Store) (lines : List String) :
    let heard := Session.heard lines
    let all := stepsOfAll limits store heard
    (Session.run limits store lines).store = storeAfter store all.done ∧
      (Session.run limits store lines).escaped = all.escaped ∧
      Session.withoutCommands heard (Session.replies limits store heard).done =
        (ofStatements all).done.flatMap (·.outcome.printed) := by
  intro heard all
  have goesOn : ∀ line ∈ heard, Session.isExit line = false := fun _ => Session.isExit_of_mem_heard
  obtain ⟨stored, printed, escaped⟩ := Session.replies_eq_steps limits store goesOn
  obtain ⟨sameSteps, sameStore⟩ := steps_statementsIn limits store heard
  rw [sameSteps] at printed escaped
  rw [Session.run_heard]
  exact ⟨stored.trans sameStore, escaped, printed⟩

theorem run_of_all (limits : Limits) (store : Store) (content : String) :
    let all := stepsOfAll limits store (Text.lines content)
    run limits store content =
      ⟨(ofStatements all).done.map Step.outcome, storeAfter store all.done,
        (ofStatements all).done.flatMap Step.log, all.escaped⟩ := by
  intro all
  obtain ⟨sameSteps, sameStore⟩ := steps_statementsIn limits store (Text.lines content)
  have found : statements content = Session.statementsIn (Text.lines content) := rfl
  rw [run, Run.ofSteps, found, sameStore, sameSteps]
  rfl

/-- No command hides a statement. A text that starts with `/` behind its blanks fails as a
statement in every store, whatever follows: it is refused for the missing operand if it has no `=`,
and for its left side if it has one. So a line that has an effect as a statement is answered with
that effect. If all lines were statements, commands and blank lines too, sessions and scripts would
end with the same store, be broken off by the same fault or by none, and have the same steps, and
failures besides. -/
theorem commands_hide_nothing (limits : Limits) (store : Store) :
    (∀ text : String, (Text.strip text).toList.head? = some '/' →
      ('=' ∉ text.toList →
        Statement.execute limits store text = .error (.expression (.noLeftOperand '/'))) ∧
      ('=' ∈ text.toList →
        Statement.execute limits store text = .error (.identifier (Statement.leftText text))) ∧
      (Action.execute text).after limits store = store) ∧
    (∀ line effect, Statement.execute limits store line = .ok effect →
      Session.reply limits store line =
        .ok ⟨Session.printed effect, false, effect.apply store, effect.records⟩) ∧
    (∀ lines : List String,
      let heard := Session.heard lines
      let all := stepsOfAll limits store heard
      (Session.run limits store lines).store = storeAfter store all.done ∧
      (Session.run limits store lines).escaped = all.escaped ∧
      Session.withoutCommands heard (Session.replies limits store heard).done =
        (ofStatements all).done.flatMap (·.outcome.printed)) ∧
    (∀ content : String,
      let all := stepsOfAll limits store (Text.lines content)
      run limits store content =
        ⟨(ofStatements all).done.map Step.outcome, storeAfter store all.done,
          (ofStatements all).done.flatMap Step.log, all.escaped⟩) ∧
    (∀ (lines : List String) (s : Step), s ∈ (stepsOfAll limits store lines).done →
      s ∉ (ofStatements (stepsOfAll limits store lines)).done →
      ∃ f : Fault, s.outcome = .failed s.outcome.statement f.message) := by
  refine ⟨fun text slash => ?_, fun line effect => Session.reply_of_execute,
    session_of_all limits store, run_of_all limits store, fun lines s => failed_of_skipped⟩
  obtain ⟨operand, name⟩ := Statement.execute_of_slash slash limits store
  refine ⟨operand, name, ?_⟩
  by_cases assigns : '=' ∈ text.toList
  · rw [Action.after, name assigns, Action.storeAfter]
  · rw [Action.after, operand assigns, Action.storeAfter]

example :
    (stepsOfAll {} .empty ["a = 2", " / a = 3", "a ^ 5"]).done.map Step.outcome =
      [.assigned "a = 2" "a", .failed "/ a = 3" "Invalid identifier", .value "a ^ 5" 32] := by
  decide +kernel

end Script

end Reckoner
