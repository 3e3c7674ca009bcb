import Reckoner.Log
import Reckoner.Rpn

/-!
# Expressions

The way from a text or its tokens to the value of the expression they form.
-/
namespace Reckoner

/-- Reverse Polish notation of the expression that tokens form. -/
def Token.rpn (tokens : List Token) : Except Malformed Rpn := do
  Rpn.ofElements (← Element.ofTokens tokens)

/-- The value of the expression that tokens form. -/
def Token.value (limits : Limits) (store : Store) (tokens : List Token) : Except Fault Int := do
  let rpn ← (rpn tokens).mapError .expression
  rpn.value limits store

namespace Expression

def rpn (text : String) : Except Malformed Rpn := Token.rpn (Token.scan text)

def value (limits : Limits) (store : Store) (text : String) : Except Fault Int :=
  Token.value limits store (Token.scan text)

/-- What the log is told before the expression in a text is evaluated; nothing of one that has no
reverse Polish notation. -/
def records (text : String) : List Log.Record :=
  match rpn text with
  | .ok rpn => [⟨.debug, "🧮 " ++ Text.quoted text ++ " -> RPN: " ++ rpn.text⟩]
  | .error _ => []

end Expression

end Reckoner
