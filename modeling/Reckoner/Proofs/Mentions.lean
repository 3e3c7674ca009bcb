import Mathlib.Data.Set.Function
import Reckoner.Proofs.History
import Reckoner.Proofs.Lexemes
import Reckoner.Proofs.Lines
import Reckoner.Proofs.Misshapen

/-!
# What a text mentions

A text mentions the names among its tokens. As every line break is a blank, the lines of a text
mention together what the text does, and lines that are joined what each of them does.

The names that a statement mentions are all that it has to do with: it looks up no others, so it
goes the same way in two stores that agree on them, and it assigns to no others.

Results:
* `scan_lines`, `scan_intercalate`: the tokens of a text are those of its lines.
* `Rpn.value_congr`, `Token.value_congr`: values depend on nothing but the variables.
* `Statement.execute_congr`: nor does what becomes of a statement.
* `Statement.mem_mentions_of_execute`: what a statement can assign to.
-/
namespace Reckoner

open Outcome

namespace Token

open Text

theorem isBlank_of_isLineBreak {c : Char} (h : isLineBreak c = true) : isBlank c = true := by
  have all : lineBreaks.all isBlank = true := by decide
  exact List.all_eq_true.1 all c (List.contains_iff_mem.1 h)

theorem isBlank_of_mem_ending {ending rest : List Char} (ends : Ending ending rest) {c : Char}
    (mem : c ∈ ending) : isBlank c = true := by
  cases ends with
  | pair =>
    have both : ['\r', '\n'].all isBlank = true := by decide
    exact List.all_eq_true.1 both c mem
  | single breaks whole =>
    rw [List.mem_singleton.1 mem]
    exact isBlank_of_isLineBreak breaks

theorem scanChars_ending {cs ending rest : List Char} (ends : Ending ending rest) :
    scanChars (cs ++ ending ++ rest) = scanChars cs ++ scanChars rest := by
  have nonempty : ending ≠ [] := by cases ends <;> simp
  exact scanChars_blanks nonempty fun c mem => isBlank_of_mem_ending ends mem

theorem scanChars_lines (cs : List Char) :
    (lines (String.ofList cs)).flatMap scan = scanChars cs := by
  induction inLines cs with
  | @last cs breakless =>
    by_cases empty : cs = []
    · subst empty
      rfl
    · rw [lines_ofList_breakless breakless empty, List.flatMap_singleton, scan,
        String.toList_ofList]
  | line breakless ends others ih =>
    rw [lines_ofList_ending breakless ends, List.flatMap_cons, ih, scanChars_ending ends, scan,
      String.toList_ofList]

/-- The lines of a text have together the tokens that the text has. -/
theorem scan_lines (text : String) : (lines text).flatMap scan = scan text := by
  have tokens := scanChars_lines text.toList
  rwa [String.ofList_toList] at tokens

theorem scan_intercalate (lines : List String) :
    scan ("\n".intercalate lines) = lines.flatMap scan := by
  induction lines with
  | nil => rfl
  | cons line rest ih =>
    cases rest with
    | nil => simp
    | cons second rest =>
      have text : (line ++ "\n" ++ "\n".intercalate (second :: rest)).toList =
          line.toList ++ ['\n'] ++ ("\n".intercalate (second :: rest)).toList := by simp
      rw [String.intercalate_cons_cons, List.flatMap_cons, ← ih, scan, text,
        scanChars_ending (.newline _)]
      rfl

end Token

/-- The names that a text mentions. -/
def Text.mentions (text : String) : Set String := {name | .identifier name ∈ Token.scan text}

/-- Whether two stores agree on some names: each has the same value in both, or in neither. -/
def Store.AgreeOn (names : Set String) (s t : Store) : Prop := Set.EqOn s.get? t.get? names

namespace Text

theorem mentions_strip (text : String) : mentions (strip text) = mentions text := by
  rw [mentions, Token.scan_strip]
  rfl

theorem mentions_subset_of_mem_lines {text line : String} (h : line ∈ lines text) :
    mentions line ⊆ mentions text := by
  intro name mem
  have whole : .identifier name ∈ Token.scan text := by
    rw [← Token.scan_lines]
    exact List.mem_flatMap.2 ⟨line, h, mem⟩
  exact whole

theorem mem_mentions_intercalate {lines : List String} {name : String} :
    name ∈ mentions ("\n".intercalate lines) ↔ ∃ line ∈ lines, name ∈ mentions line := by
  rw [mentions, Token.scan_intercalate]
  exact List.mem_flatMap

end Text

/-! ## Values -/

variable {limits : Limits} {s t : Store}

namespace Rpn

theorem step_congr {e : Element} (h : ∀ name, e = .var name → s.get? name = t.get? name)
    (stack : List Int) : step limits s stack e = step limits t stack e := by
  cases e with
  | var name => simp only [step, h name rfl]
  | number v => rfl
  | operator op => cases op <;> rfl
  | opening => rfl
  | closing => rfl

theorem run_congr {rpn : Rpn} (h : ∀ name, .var name ∈ rpn → s.get? name = t.get? name)
    (stack : List Int) : run limits s stack rpn = run limits t stack rpn := by
  induction rpn generalizing stack with
  | nil => rfl
  | cons e rpn ih =>
    have first : step limits s stack e = step limits t stack e :=
      step_congr (fun name same => h name (same ▸ List.mem_cons_self)) stack
    have others (next : List Int) : run limits s next rpn = run limits t next rpn :=
      ih (fun name mem => h name (List.mem_cons_of_mem _ mem)) next
    rw [run_cons, run_cons, first]
    simp only [others]

theorem value_congr {rpn : Rpn} (h : ∀ name, .var name ∈ rpn → s.get? name = t.get? name) :
    value limits s rpn = value limits t rpn := by
  rw [value_eq_run, value_eq_run, run_congr h]

end Rpn

namespace Token

theorem value_congr {tokens : List Token}
    (h : ∀ name, .identifier name ∈ tokens → s.get? name = t.get? name) :
    value limits s tokens = value limits t tokens := by
  unfold value
  cases converted : Token.rpn tokens with
  | error c => rfl
  | ok rpn =>
    refine Rpn.value_congr fun name mem => h name ?_
    -- the variable stands for a token
    obtain ⟨before, token, after, rfl, stands⟩ := exists_place_of_mem_rpn converted mem
    cases stands with
    | var => exact List.mem_append_right _ List.mem_cons_self

end Token

/-! ## Statements -/

namespace Statement

theorem rightValue_congr {right : List Token}
    (h : ∀ name, .identifier name ∈ right → s.get? name = t.get? name) :
    rightValue limits s right = rightValue limits t right := by
  rw [rightValue, rightValue, Token.value_congr h]

/-- What becomes of a statement, its faults included, depends on the names that it mentions. -/
theorem execute_congr {text : String} (h : Store.AgreeOn (Text.mentions text) s t) :
    execute limits s text = execute limits t text := by
  by_cases mem : '=' ∈ text.toList
  · obtain ⟨left, right, first, rfl⟩ := exists_sides mem
    have ofRight : rightValue limits s (Token.scan right) =
        rightValue limits t (Token.scan right) := by
      refine rightValue_congr fun name used => h ?_
      rw [Text.mentions, scan_assignment]
      exact List.mem_append_right _ (List.mem_cons_of_mem _ used)
    rw [execute, execute, read_assignment first]
    cases Token.soleName? (Token.scan left) with
    | none => rfl
    | some name => simp only [run, ofRight]
  · rw [execute_eq_value mem, execute_eq_value mem]
    exact congrArg (Except.map _) (Token.value_congr fun name used => h used)

/-- A statement mentions the name that it assigns to. -/
theorem mem_mentions_of_execute {text name : String} {v : Int}
    (h : execute limits s text = .ok (.assigned name v)) : name ∈ Text.mentions text := by
  obtain ⟨left, right, -, rfl, one, -⟩ := value_of_execute h
  rw [Text.mentions, scan_assignment, Token.scan_of_soleName one]
  exact List.mem_append_left _ (List.mem_singleton_self _)

end Statement

end Reckoner
