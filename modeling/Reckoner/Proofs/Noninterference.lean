import Mathlib.Data.Set.Insert
import Reckoner.Proofs.Mentions
import Reckoner.Proofs.SessionScript

/-!
# Hidden variables

Variables that no line mentions are hidden from a session: it cannot tell their values, nor
whether they have any, and it does not touch them. So two runs on the same lines, from stores that
differ in nothing but hidden variables, go on side by side. They print the same, end at the same
line and have the same faults, that which breaks them off among these; what they assign they assign
in both stores, which keep what they differ in.

Results:
* `Store.Parallel`: what holds of the stores of two such runs.
* `reply_parallel`, `step_parallel`: one line, and one statement, in both runs.
* `replies_parallel`, `steps_parallel`: all of them, by induction.
* `Store.run_parallel`: sessions and scripts as a whole.
-/
namespace Reckoner

namespace Store

variable {names hidden : Set String} {s t s' t' s'' t'' : Store}

theorem AgreeOn.set (h : AgreeOn names s t) (name : String) (v : Int) :
    AgreeOn names (s.set name v) (t.set name v) := by
  intro other mem
  rw [get?_set, get?_set, h mem]

theorem agreeOn_set_self {name : String} (h : name ∉ names) (s : Store) (v : Int) :
    AgreeOn names (s.set name v) s := by
  intro other mem
  exact get?_set_of_ne s v fun same => h (same ▸ mem)

/-- Of two runs, from `s` to `s'` and from `t` to `t'`: no value outside `hidden` tells where they
have come, and each has left the hidden values as they were. -/
structure Parallel (hidden : Set String) (s t s' t' : Store) : Prop where
  agree : AgreeOn hiddenᶜ s' t'
  kept : AgreeOn hidden s' s
  kept' : AgreeOn hidden t' t

theorem Parallel.refl (h : AgreeOn hiddenᶜ s t) : Parallel hidden s t s t :=
  ⟨h, Set.eqOn_refl _ _, Set.eqOn_refl _ _⟩

theorem Parallel.trans (h : Parallel hidden s t s' t') (h' : Parallel hidden s' t' s'' t'') :
    Parallel hidden s t s'' t'' :=
  ⟨h'.agree, h'.kept.trans h.kept, h'.kept'.trans h.kept'⟩

theorem Parallel.set {name : String} (h : AgreeOn hiddenᶜ s t) (visible : name ∉ hidden)
    (v : Int) : Parallel hidden s t (s.set name v) (t.set name v) :=
  ⟨h.set name v, agreeOn_set_self visible s v, agreeOn_set_self visible t v⟩

end Store

open Store (AgreeOn Parallel)

variable {hidden : Set String} {s t : Store} {limits : Limits}

namespace Statement

variable {text : String}

theorem execute_parallel (agree : AgreeOn hiddenᶜ s t)
    (unmentioned : Text.mentions text ⊆ hiddenᶜ) (limits : Limits) :
    execute limits s text = execute limits t text :=
  execute_congr (agree.mono unmentioned)

theorem apply_parallel (agree : AgreeOn hiddenᶜ s t)
    (unmentioned : Text.mentions text ⊆ hiddenᶜ) {effect : Effect}
    (ran : execute limits s text = .ok effect) :
    Parallel hidden s t (effect.apply s) (effect.apply t) := by
  cases effect with
  | value v => exact .refl agree
  | assigned name v =>
    exact .set agree (unmentioned (mem_mentions_of_execute ran)) v

theorem caught_parallel (agree : AgreeOn hiddenᶜ s t)
    (unmentioned : Text.mentions text ⊆ hiddenᶜ) {outcome : Except Fault Effect}
    (caught : Fault.caught (execute limits s text) = .ok outcome) :
    Parallel hidden s t (Action.storeAfter s outcome) (Action.storeAfter t outcome) := by
  cases outcome with
  | error f => exact .refl agree
  | ok effect => exact apply_parallel agree unmentioned (Fault.caught_eq_ok.1 caught).1

end Statement

/-! ## Sessions -/

namespace Session

/-- All that can be told from an answer, but for the store. -/
def Reply.said (r : Reply) : List String × Bool × List Log.Record := (r.printed, r.ended, r.log)

theorem reply_parallel (agree : AgreeOn hiddenᶜ s t) {line : String}
    (unmentioned : Text.mentions line ⊆ hiddenᶜ) (limits : Limits) :
    (∃ r r', reply limits s line = .ok r ∧ reply limits t line = .ok r' ∧ r.said = r'.said ∧
      Parallel hidden s t r.store r'.store) ∨
    ∃ f, reply limits s line = .error f ∧ reply limits t line = .error f := by
  simp only [reply]
  cases kind : Line.read line with
  | blank => exact .inl ⟨_, _, rfl, rfl, rfl, .refl agree⟩
  | command text =>
    refine .inl ⟨_, _, rfl, rfl, ?_⟩
    simp only [replyToCommand]
    split
    · exact ⟨rfl, .refl agree⟩
    · split <;> exact ⟨rfl, .refl agree⟩
  | statement text =>
    have same : Text.mentions text = Text.mentions line := by
      rw [Line.eq_strip_of_statement kind, Text.mentions_strip]
    rw [← same] at unmentioned
    simp only [replyToStatement, ← Statement.execute_parallel agree unmentioned]
    cases caught : Fault.caught (Statement.execute limits s text) with
    | error f => exact .inr ⟨f, rfl, rfl⟩
    | ok outcome =>
      have side := Statement.caught_parallel agree unmentioned caught
      cases outcome <;> exact .inl ⟨_, _, rfl, rfl, rfl, side⟩

theorem replies_parallel (agree : AgreeOn hiddenᶜ s t) {lines : List String}
    (unmentioned : ∀ line ∈ lines, Text.mentions line ⊆ hiddenᶜ) (limits : Limits) :
    let answers := replies limits s lines
    let answers' := replies limits t lines
    answers.done.map Reply.said = answers'.done.map Reply.said ∧
      answers.escaped = answers'.escaped ∧
      Parallel hidden s t (storeAfter s answers.done) (storeAfter t answers'.done) := by
  induction lines generalizing s t with
  | nil => exact ⟨rfl, rfl, .refl agree⟩
  | cons line rest ih =>
    obtain ⟨first, others⟩ := List.forall_mem_cons.1 unmentioned
    cases exit : isExit line with
    | true =>
      rw [replies_cons_exit exit, replies_cons_exit exit]
      exact ⟨rfl, rfl, .refl agree⟩
    | false =>
      rcases reply_parallel agree first limits with
        ⟨r, r', answered, answered', said, side⟩ | ⟨f, broken, broken'⟩
      · obtain ⟨saidRest, escaped, sideRest⟩ := ih side.agree others
        rw [replies_cons exit answered, replies_cons exit answered']
        dsimp only [Course.done_cons, Course.escaped_cons]
        rw [storeAfter_cons, storeAfter_cons]
        exact ⟨congrArg₂ List.cons said saidRest, escaped, side.trans sideRest⟩
      · rw [replies_cons_error broken, replies_cons_error broken']
        exact ⟨rfl, rfl, .refl agree⟩

theorem printed_of_said {rs rs' : List Reply} (h : rs.map Reply.said = rs'.map Reply.said) :
    rs.flatMap Reply.printed = rs'.flatMap Reply.printed := by
  have printed (rs : List Reply) :
      rs.flatMap Reply.printed = (rs.map Reply.said).flatMap Prod.fst := by
    rw [List.flatMap_map]
    rfl
  rw [printed, printed, h]

theorem screen_of_said {answers answers' : Course Reply}
    (h : answers.done.map Reply.said = answers'.done.map Reply.said)
    (escaped : answers.escaped = answers'.escaped) (prompt : String) :
    screen prompt answers = screen prompt answers' := by
  have shown (c : Course Reply) :
      screen prompt c =
        String.join ((c.done.map Reply.said).map fun said => prompt ++ onLines said.1) ++
          (if (c.done.map Reply.said).any (·.2.1) then "" else prompt) ++
          (if c.escaped.isNone then onLines [farewell] else "") := by
    rw [List.map_map, List.any_map]
    rfl
  rw [shown, shown, h, escaped]

end Session

/-! ## Scripts -/

namespace Script

theorem step_parallel (agree : AgreeOn hiddenᶜ s t) {statement : String}
    (unmentioned : Text.mentions statement ⊆ hiddenᶜ) (limits : Limits) :
    (∃ p p', step limits s statement = .ok p ∧ step limits t statement = .ok p' ∧
      p.outcome = p'.outcome ∧ p.log = p'.log ∧ Parallel hidden s t p.store p'.store) ∨
    ∃ f, step limits s statement = .error f ∧ step limits t statement = .error f := by
  simp only [step, ← Statement.execute_parallel agree unmentioned]
  cases caught : Fault.caught (Statement.execute limits s statement) with
  | error f => exact .inr ⟨f, rfl, rfl⟩
  | ok outcome =>
    have side := Statement.caught_parallel agree unmentioned caught
    cases outcome <;> exact .inl ⟨_, _, rfl, rfl, rfl, rfl, side⟩

theorem steps_parallel (agree : AgreeOn hiddenᶜ s t) {statements : List String}
    (unmentioned : ∀ statement ∈ statements, Text.mentions statement ⊆ hiddenᶜ)
    (limits : Limits) :
    let ss := steps limits s statements
    let ss' := steps limits t statements
    ss.done.map Step.outcome = ss'.done.map Step.outcome ∧
      ss.done.flatMap Step.log = ss'.done.flatMap Step.log ∧ ss.escaped = ss'.escaped ∧
      Parallel hidden s t (storeAfter s ss.done) (storeAfter t ss'.done) := by
  induction statements generalizing s t with
  | nil => exact ⟨rfl, rfl, rfl, .refl agree⟩
  | cons statement rest ih =>
    obtain ⟨first, others⟩ := List.forall_mem_cons.1 unmentioned
    rcases step_parallel agree first limits with
      ⟨p, p', ran, ran', outcome, log, side⟩ | ⟨f, broken, broken'⟩
    · obtain ⟨outcomes, logs, escaped, sideRest⟩ := ih side.agree others
      rw [steps_cons ran, steps_cons ran']
      dsimp only [Course.done_cons, Course.escaped_cons]
      rw [storeAfter_cons, storeAfter_cons]
      exact ⟨congrArg₂ List.cons outcome outcomes, congrArg₂ List.append log logs, escaped,
        side.trans sideRest⟩
    · rw [steps_cons_error broken, steps_cons_error broken']
      exact ⟨rfl, rfl, rfl, .refl agree⟩

theorem mentions_subset_of_mem_statements {content statement : String}
    (h : statement ∈ statements content) : Text.mentions statement ⊆ Text.mentions content := by
  obtain ⟨line, inText, found⟩ := List.mem_filterMap.1 h
  cases kind : Line.read line with
  | blank => rw [kind] at found; cases found
  | command text => rw [kind] at found; cases found
  | statement text =>
    rw [kind] at found
    cases found
    rw [Line.eq_strip_of_statement kind, Text.mentions_strip]
    exact Text.mentions_subset_of_mem_lines inText

end Script

/-! ## Whole runs -/

/-- Two stores that give the same values to all but hidden variables cannot be told apart by lines
that mention none of these. A session on the lines prints the same from both, with any prompt,
answers the same lines alike and ends, if at all, at the same one; the script of the lines has the
same outcomes, and so the same results. What breaks them off from the one store breaks them off from
the other. Afterwards the stores differ in the hidden variables alone, as before. -/
theorem Store.run_parallel (agree : AgreeOn hiddenᶜ s t) {lines : List String}
    (unmentioned : ∀ line ∈ lines, Text.mentions line ⊆ hiddenᶜ) (limits : Limits) :
    let session (store : Store) := Session.run limits store lines
    let answers (store : Store) := Session.replies limits store lines
    let script (store : Store) := Script.run limits store ("\n".intercalate lines)
    ((session s).printed = (session t).printed ∧
      (∀ prompt, Session.screen prompt (answers s) = Session.screen prompt (answers t)) ∧
      (answers s).done.map Session.Reply.said = (answers t).done.map Session.Reply.said ∧
      (session s).escaped = (session t).escaped ∧
      Parallel hidden s t (session s).store (session t).store) ∧
    ((script s).outcomes = (script t).outcomes ∧ (script s).text = (script t).text ∧
      (script s).log = (script t).log ∧ (script s).escaped = (script t).escaped ∧
      Parallel hidden s t (script s).store (script t).store) := by
  intro session answers script
  have inScript : ∀ statement ∈ Script.statements ("\n".intercalate lines),
      Text.mentions statement ⊆ hiddenᶜ := by
    intro statement mem name mentioned
    have inText := Script.mentions_subset_of_mem_statements mem mentioned
    obtain ⟨line, inLines, inLine⟩ := Text.mem_mentions_intercalate.1 inText
    exact unmentioned line inLines inLine
  obtain ⟨said, escaped, stores⟩ := Session.replies_parallel agree unmentioned limits
  obtain ⟨outcomes, log, scriptEscaped, scriptStores⟩ :=
    Script.steps_parallel agree inScript limits
  have results : (script s).outcomes = (script t).outcomes := outcomes
  refine ⟨⟨?_, Session.screen_of_said said escaped, said, escaped, stores⟩, results, ?_, log,
    scriptEscaped, scriptStores⟩
  · exact congrArg₂ (fun printed (last : Option Fault) =>
      printed ++ if last.isNone then [Session.farewell] else [])
      (Session.printed_of_said said) escaped
  · rw [Script.Run.text, Script.Run.text, results]

/-- The one store has a value for `x`, the other has none; and a failing line is no way to tell. -/
theorem Store.run_parallel_unset :
    let t := Store.empty.set "a" 2
    let s := t.set "x" 7
    let lines := ["xx = a ^ 3", "xx = xx / (a - 2)", " xx + b\x0b", "/exit", "a = 1"]
    AgreeOn {"x"}ᶜ s t ∧ (∀ line ∈ lines, Text.mentions line ⊆ {"x"}ᶜ) ∧
      (Session.run {} s lines).printed = (Session.run {} t lines).printed ∧
      (Session.run {} s lines).store.get? "x" = some 7 ∧
      (Session.run {} t lines).store.get? "x" = none := by
  intro t s lines
  have agree : AgreeOn {"x"}ᶜ s t := agreeOn_set_self (by simp) t 7
  have unmentioned : ∀ line ∈ lines, Text.mentions line ⊆ {"x"}ᶜ := by
    have tokens : ∀ line ∈ lines, .identifier "x" ∉ Token.scan line := by decide +kernel
    exact fun line mem => Set.subset_compl_singleton_iff.2 (tokens line mem)
  obtain ⟨⟨printed, -, -, -, stores⟩, -⟩ := Store.run_parallel agree unmentioned {}
  refine ⟨agree, unmentioned, printed, ?_, ?_⟩
  · exact (stores.kept rfl).trans (get?_set_self t "x" 7)
  · exact stores.kept' rfl

end Reckoner
