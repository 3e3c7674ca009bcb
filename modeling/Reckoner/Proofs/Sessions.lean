import Mathlib.Data.List.TakeWhile
import Reckoner.Session
import Reckoner.Proofs.Outcome

/-!
# Sessions line by line

A session ends at the first line that is `/exit` without the blanks around it. That line
says nothing and changes nothing, and those after it are not even read.

Results:
* `ended_reply`: the session is over exactly after such a line.
* `replies_cons`: after any other line that is answered the session goes on with the store that
  this leaves; `replies_cons_error`: one that is not answered breaks it off.
* `run_heard`: a session is the session on the lines before its end.
-/
namespace Reckoner

namespace Session

open Outcome

variable {limits : Limits} {store : Store}

/-- Whether a line ends a session. -/
def isExit (line : String) : Bool := Text.strip line == "/exit"

/-- The lines before the one that ends a session, or all. -/
def heard (lines : List String) : List String := lines.takeWhile (!isExit ·)

theorem read_exit {line : String} (h : isExit line = true) :
    Line.read line = .command "/exit" := by
  have stripped : Text.strip line = "/exit" := by simpa [isExit] using h
  simp only [Line.read, stripped]
  rfl

theorem reply_exit {line : String} (h : isExit line = true) (limits : Limits) (store : Store) :
    reply limits store line = .ok ⟨[], true, store, []⟩ := by
  simp only [reply, read_exit h]
  rfl

theorem ended_reply {line : String} {r : Reply} (h : reply limits store line = .ok r) :
    r.ended = isExit line := by
  cases exit : isExit line with
  | true =>
    rw [reply_exit exit] at h
    cases h
    rfl
  | false =>
    unfold reply at h
    split at h
    · cases h
      rfl
    · rename_i text isCommand
      have other : text ≠ "/exit" := by
        rw [Line.eq_strip_of_command isCommand]
        simpa [isExit] using exit
      simp only [replyToCommand, if_neg other] at h
      split at h
      · cases h
        rfl
      · cases h
        rfl
    · rename_i text isStatement
      obtain ⟨outcome, -, rfl⟩ := map_eq_ok.1 h
      cases outcome <;> rfl

/-! ## All lines -/

theorem replies_cons {line : String} {r : Reply} (h : isExit line = false)
    (answered : reply limits store line = .ok r) (rest : List String) :
    replies limits store (line :: rest) = .cons r (replies limits r.store rest) := by
  have goesOn : r.ended = false := (ended_reply answered).trans h
  simp only [replies, answered, goesOn]
  rfl

theorem replies_cons_error {line : String} {f : Fault}
    (h : reply limits store line = .error f) (rest : List String) :
    replies limits store (line :: rest) = .broken f := by
  simp only [replies, h]

theorem replies_cons_exit {line : String} (h : isExit line = true) (limits : Limits)
    (store : Store) (rest : List String) :
    replies limits store (line :: rest) = .cons ⟨[], true, store, []⟩ .ended := by
  simp only [replies, reply_exit h]
  rfl

@[simp]
theorem storeAfter_nil (store : Store) : storeAfter store [] = store := rfl

@[simp]
theorem storeAfter_cons (store : Store) (r : Reply) (rs : List Reply) :
    storeAfter store (r :: rs) = storeAfter r.store rs := by
  unfold storeAfter
  rw [List.getLast?_cons]
  cases rs.getLast? <;> rfl

theorem storeAfter_append (store : Store) (rs ss : List Reply) :
    storeAfter store (rs ++ ss) = storeAfter (storeAfter store rs) ss := by
  induction rs generalizing store with
  | nil => rfl
  | cons r rs ih => simp [ih]

/-- After the lines that are heard there is no answer, or one that says and changes nothing. -/
theorem replies_heard (limits : Limits) (store : Store) (lines : List String) :
    let before := replies limits store (heard lines)
    replies limits store lines = before ∨
      (before.escaped = none ∧ replies limits store lines =
        ⟨before.done ++ [⟨[], true, storeAfter store before.done, []⟩], none⟩) := by
  induction lines generalizing store with
  | nil => exact .inl rfl
  | cons line rest ih =>
    cases exit : isExit line with
    | true =>
      have nothing : heard (line :: rest) = [] := by simp [heard, exit]
      rw [nothing, replies_cons_exit exit]
      exact .inr ⟨rfl, rfl⟩
    | false =>
      have kept : heard (line :: rest) = line :: heard rest := by simp [heard, exit]
      rw [kept]
      cases answered : reply limits store line with
      | error f =>
        rw [replies_cons_error answered, replies_cons_error answered]
        exact .inl rfl
      | ok r =>
        -- the answer to this line comes first on both sides, and the store it leaves counts then
        rw [replies_cons exit answered, replies_cons exit answered]
        dsimp only [Course.done_cons, Course.escaped_cons]
        rw [storeAfter_cons]
        rcases ih r.store with same | ⟨goesOn, same⟩
        · exact .inl (congrArg _ same)
        · exact .inr ⟨goesOn, congrArg (Course.cons r) same⟩

/-- The line that ends a session and those after it have no part in it. -/
theorem run_heard (limits : Limits) (store : Store) (lines : List String) :
    run limits store lines = run limits store (heard lines) := by
  unfold run
  rcases replies_heard limits store lines with same | ⟨goesOn, same⟩
  · rw [same]
  · rw [same]
    simp [transcript, storeAfter_append, goesOn]

/-- No line that is heard ends the session. -/
theorem isExit_of_mem_heard {lines : List String} {line : String} (h : line ∈ heard lines) :
    isExit line = false := by
  have others := List.mem_takeWhile_imp h
  simpa using others

end Session

end Reckoner
