import Reckoner.Text.Blank

/-!
# Lines of input

Without the blanks around it a line of input is empty, a command, which starts
with `/`, or a statement.
-/
namespace Reckoner

/-- A line of input, stripped of the blanks around it. -/
inductive Line where
  | blank
  | command (text : String)
  | statement (text : String)
  deriving Repr, DecidableEq

namespace Line

def read (line : String) : Line :=
  let text := Text.strip line
  match text.toList with
  | [] => blank
  | '/' :: _ => command text
  | _ => statement text

theorem eq_strip_of_command {line text : String} (h : read line = command text) :
    text = Text.strip line := by
  simp only [read] at h
  split at h
  · cases h
  · cases h
    rfl
  · cases h

theorem eq_strip_of_statement {line text : String} (h : read line = statement text) :
    text = Text.strip line := by
  simp only [read] at h
  split at h
  · cases h
  · cases h
  · cases h
    rfl

def statement? : Line → Option String
  | statement text => some text
  | _ => none

end Line

end Reckoner
