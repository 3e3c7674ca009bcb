import Reckoner.Script
import Reckoner.Session
import Reckoner.Proofs.EntryPoints
import Reckoner.Proofs.Lexemes
import Reckoner.Proofs.ShortLimits

/-!
# Checks

On the way from a text to its effect data is made that has rules, and things are looked up that
need not be there: tokens and elements check their fields, what is read as a number is a run of
digits, digits are converted in blocks that are not too long, an operator is found by its symbol,
values are taken off a stack, and the `=` of a text is looked for. Here statements are run with
all these checks made where the data is used. A run that fails a check stops for another reason
than a fault, which neither a session nor a script would catch.

One check can fail: a power that is refused for a limit has the limit written at once, without
blocks. A run with checks is the run without, whatever the text, where the fault that is not caught
is that this check fails. What is taken apart by cases needs no check: the operators held in the
yard, a divisor that is zero, and an exponent that is negative.

Results:
* `scan_eq`, `elements_eq`: no check fails in scanning, and in classifying what was scanned.
* `power_eq`, `step_eq`: in evaluating an element, only that of a limit in a refusal.
* `execute_eq`: nor does any other in a statement.
* `text_eq`: none does in writing a value.
* `reply_eq`, `scriptStep_eq`: so sessions and scripts catch all else that a statement can stop for.
-/
namespace Reckoner

open Outcome

/-- Why a run stops when all is checked. -/
inductive Stop where
  /-- the statement has a fault -/
  | fault (fault : Fault)
  /-- a token or an element has a field that breaks a rule -/
  | violation (violation : Violation)
  /-- no operator has the symbol -/
  | unknownOperator (unknown : UnknownOperator)
  /-- what is read as a number has no character -/
  | emptyNumeral
  /-- what is read as a number has a character that is no digit -/
  | notDigit (char : Char)
  /-- more digits are converted together than can be -/
  | longNumeral
  /-- a value is taken off an empty stack -/
  | emptyStack
  /-- the text has no `=` -/
  | noAssignSign
  deriving Repr, DecidableEq

/-- The reason to stop that a fault is; one that is not caught is a check that fails. -/
def Stop.ofFault : Fault → Stop
  | .unwritable => .longNumeral
  | f => .fault f

namespace Checked

/-! ## Running with checks -/

/-- Read one more digit into its block. -/
def push (p : Decimal.Progress) (c : Char) : Except Stop Decimal.Progress :=
  if !c.isDigit then .error (.notDigit c)
  else if Decimal.maxDigits < (p.push c).count then .error .longNumeral
  else .ok (p.push c)

def number (digits : List Char) : Except Stop Nat :=
  if digits.isEmpty then .error .emptyNumeral
  else (digits.foldlM push .start).map Decimal.Progress.value

/-- The token of a lexeme; a name has a character, and a symbol is one. -/
def lexeme : List Char → Except Stop (Option Token)
  | [] => .ok none
  | c :: cs =>
    if Text.isBlank c then .ok none
    else if c.isDigit then (number (c :: cs)).map fun n => some (.integer n)
    else if Text.isLetter c then
      ((Token.ofName (String.ofList (c :: cs))).mapError .violation).map some
    else ((Token.ofSymbolText (String.ofList (c :: cs))).mapError .violation).map some

def scan (text : String) : Except Stop (List Token) := do
  let tokens ← (text.toList.splitBy Token.joins).mapM lexeme
  .ok (tokens.filterMap id)

/-- The binary operator of a symbol, with the precedence that it is listed with. -/
def binary (symbol : Char) : Except Stop Element := do
  let op ← (BinaryOp.named symbol.toString).mapError .unknownOperator
  (Element.ofBinary symbol.toString op.precedence).mapError .violation

/-- The sign of a symbol, with the precedence that it is listed with. -/
def unary (symbol : Char) : Except Stop Element := do
  let op ← (UnaryOp.named symbol.toString).mapError .unknownOperator
  (Element.ofUnary symbol.toString op.precedence).mapError .violation

/-- What is refused with a cause is a fault. -/
def refusal (cause : Malformed) : Stop := .fault (.expression cause)

def classify (previous : Option Token) : Token → Except Stop Element
  | .integer v => .ok (.number v)
  | .identifier name => (Element.ofName name).mapError .violation
  | .symbol c =>
    if Element.endsOperand previous then
      if (BinaryOp.ofSymbol? c).isSome then binary c
      else (Element.parenthesis c).mapError refusal
    else if (UnaryOp.ofSymbol? c).isSome then unary c
    else if (BinaryOp.ofSymbol? c).isSome then .error (refusal (.noLeftOperand c))
    else (Element.parenthesis c).mapError refusal

def elements (tokens : List Token) : Except Stop (List Element) := do
  let es ← (withPrevious none tokens).mapM fun (previous, token) => classify previous token
  if Element.balanced es then .ok es else .error (refusal .unbalanced)

/-- The digits of a number that is written at once. -/
def block (n : Nat) : Except Stop (List Char) :=
  let digits := Nat.toDigits 10 n
  if Decimal.maxDigits < digits.length then .error .longNumeral else .ok digits

/-- Refuse a power for a limit, which is written first. -/
def refuse (limit : Nat) (cause : Decimal.Short → Malformed) : Except Stop Int := do
  let _ ← block limit
  .error (.fault (.ofLimit limit cause))

def power (limits : Limits) (left right : Int) : Except Stop Int :=
  if right < 0 then .error (refusal .negativeExponent)
  else if right > limits.maxExponent then refuse limits.maxExponent .exponentTooLarge
  else if left.natAbs > 1 ∧ bitLength left * right > limits.maxResultBits then
    refuse limits.maxResultBits .resultTooLarge
  else .ok (raise left right.toNat)

def apply (limits : Limits) (op : BinaryOp) (left right : Int) : Except Stop Int :=
  match op with
  | .pow => power limits left right
  | op => (op.apply limits left right).mapError .fault

def pop : List Int → Except Stop (Int × List Int)
  | [] => .error .emptyStack
  | v :: rest => .ok (v, rest)

def step (limits : Limits) (store : Store) (stack : List Int) :
    Element → Except Stop (List Int)
  | .operator (.binary op p) =>
    if stack.length < 2 then .error (refusal (.tooFewOperands (.binary op p)))
    else do
      let (right, rest) ← pop stack
      let (left, rest) ← pop rest
      let found ← (BinaryOp.named op.symbol.toString).mapError .unknownOperator
      let v ← apply limits found left right
      .ok (v :: rest)
  | .operator (.unary op p) =>
    if stack.isEmpty then .error (refusal (.noOperand (.unary op p)))
    else do
      let (operand, rest) ← pop stack
      let found ← (UnaryOp.named op.symbol.toString).mapError .unknownOperator
      .ok (found.apply operand :: rest)
  | e => (Rpn.step limits store stack e).mapError .fault

def rpnValue (limits : Limits) (store : Store) (rpn : Rpn) : Except Stop Int := do
  let stack ← rpn.foldlM (step limits store) []
  if stack.length ≠ 1 then .error (refusal (.valuesLeft stack.length))
  else (pop stack).map Prod.fst

def value (limits : Limits) (store : Store) (tokens : List Token) : Except Stop Int := do
  let es ← elements tokens
  let rpn ← (Rpn.ofElements es).mapError refusal
  rpnValue limits store rpn

/-- A fault of the right side is one of the assignment; any other stop stays what it is. -/
def onRightSide : Stop → Stop
  | .fault f => .fault f.onRightSide
  | other => other

/-- The text before the first `=`, without the blanks around it. -/
def leftText (text : String) : Except Stop String :=
  match text.toList.findIdx? (· == '=') with
  | some i => .ok (String.ofList (Text.trim (text.toList.take i)))
  | none => .error .noAssignSign

def execute (limits : Limits) (store : Store) (text : String) : Except Stop Effect := do
  let tokens ← scan text
  match tokens.dropWhile (· != assignSign) with
  | [] => (value limits store tokens).map .value
  | _ :: right =>
    match Token.soleName? (tokens.takeWhile (· != assignSign)) with
    | some name =>
      if right.isEmpty || right.contains assignSign then .error (.fault (.assignment none))
      else ((value limits store right).mapError onRightSide).map (.assigned name)
    | none => do
      let left ← leftText text
      .error (.fault (.identifier left))

/-- The digits of a number in front of those in `low`; every block is written by itself. -/
def writeOver (low : List Char) : Nat → Nat → Except Stop (List Char)
  | 0, n => (block n).map (· ++ low)
  | blocks + 1, n =>
    if n < Decimal.blockBase then (block n).map (· ++ low)
    else do
      let _ ← block (n % Decimal.blockBase)
      writeOver (Decimal.padded (n % Decimal.blockBase) ++ low) blocks (n / Decimal.blockBase)

def text (z : Int) : Except Stop String :=
  (writeOver [] (Decimal.fullBlocks z.natAbs) z.natAbs).map fun digits =>
    String.ofList (if z < 0 then '-' :: digits else digits)

def printed : Effect → Except Stop (List String)
  | .value v => (text v).map fun line => [line]
  | .assigned .. => .ok []

/-- Catch a fault, and nothing else. -/
def caught {α : Type} : Except Stop α → Except Stop (Except Fault α)
  | .ok a => .ok (.ok a)
  | .error (.fault f) => .ok (.error f)
  | .error other => .error other

def reply (limits : Limits) (store : Store) (line : String) : Except Stop Session.Reply :=
  match Line.read line with
  | .blank => .ok ⟨[], false, store, []⟩
  | .command text => .ok (Session.replyToCommand store text)
  | .statement text => do
    match ← caught (execute limits store text) with
    | .ok effect => do
      let lines ← printed effect
      .ok ⟨lines, false, effect.apply store, effect.records⟩
    | .error fault => .ok ⟨[fault.message], false, store, [Session.failure text fault]⟩

def scriptStep (limits : Limits) (store : Store) (statement : String) :
    Except Stop Script.Step := do
  match ← caught (execute limits store statement) with
  | .ok effect => .ok ⟨.ofEffect statement effect, effect.apply store, effect.records⟩
  | .error fault =>
    .ok ⟨.failed statement fault.message, store, [Script.failure statement fault]⟩

/-! ## Tokens -/

/-- A block is never longer than blocks are. -/
theorem count_push (p : Decimal.Progress) (c : Char) : (p.push c).count ≤ Decimal.blockDigits := by
  unfold Decimal.Progress.push
  split
  · assumption
  · show 1 ≤ Decimal.blockDigits
    decide

theorem push_eq (p : Decimal.Progress) {c : Char} (h : c.isDigit = true) :
    push p c = .ok (p.push c) := by
  have fits : ¬Decimal.maxDigits < (p.push c).count :=
    Nat.not_lt.2 (Nat.le_trans (count_push p c) (by decide))
  simp only [push, h, if_neg fits]
  rfl

theorem number_eq {digits : List Char} (h : digits ≠ [])
    (all : ∀ c ∈ digits, c.isDigit = true) : number digits = .ok (Decimal.read digits) := by
  rw [number, if_neg (by simpa using h), foldlM_eq_ok fun p c mem => push_eq p (all c mem)]
  rfl

theorem lexeme_eq {cs chunk : List Char} (h : chunk ∈ cs.splitBy Token.joins) :
    lexeme chunk = .ok (Token.ofLexeme? chunk) := by
  cases chunk with
  | nil => rfl
  | cons c rest =>
    simp only [lexeme, Token.ofLexeme?]
    split
    · rfl
    · split
      · rename_i digit
        rw [number_eq (List.cons_ne_nil c rest) (Token.isDigit_of_mem_splitBy h digit)]
        rfl
      · rename_i notDigit
        split
        · have named : (String.ofList (c :: rest)).isEmpty = false := by simp
          rw [Token.ofName, named]
          rfl
        · rename_i notLetter
          -- a character of no class joins nothing, so it is all of the lexeme
          have alone : ∀ d, Token.joins c d = false := fun d => by
            simp [Token.joins, notDigit, notLetter]
          obtain rfl := Token.eq_singleton_of_joins h alone
          simp [Token.ofSymbolText]

theorem scan_eq (text : String) : scan text = .ok (Token.scan text) := by
  rw [scan, mapM_eq_ok fun chunk => lexeme_eq, ok_bind, List.filterMap_map]
  rfl

/-! ## Elements -/

theorem binary_eq {c : Char} {op : BinaryOp} (h : BinaryOp.ofSymbol? c = some op) :
    binary c = .ok (.operator (.binary op op.precedence)) := by
  have named : BinaryOp.ofText? c.toString = some op := by simpa [BinaryOp.ofText?] using h
  simp only [binary, BinaryOp.named, Element.ofBinary, named]
  rfl

theorem unary_eq {c : Char} {op : UnaryOp} (h : UnaryOp.ofSymbol? c = some op) :
    unary c = .ok (.operator (.unary op op.precedence)) := by
  have named : UnaryOp.ofText? c.toString = some op := by simpa [UnaryOp.ofText?] using h
  simp only [unary, UnaryOp.named, Element.ofUnary, named]
  rfl

/-- Whether every identifier has a name. -/
def Named (tokens : List Token) : Prop :=
  ∀ name, .identifier name ∈ tokens → name.isEmpty = false

theorem named_scan (text : String) : Named (Token.scan text) := fun name mem => by
  have letters := Text.isName_iff.1 (Token.isName_of_mem_scan mem)
  simpa using letters.1

theorem classify_eq {tokens : List Token} (h : Named tokens) (previous : Option Token) {t : Token}
    (mem : t ∈ tokens) :
    classify previous t = (Element.classify previous t).mapError refusal := by
  cases t with
  | integer v => rfl
  | identifier name =>
    simp only [classify, Element.ofName, h name mem]
    rfl
  | symbol c =>
    simp only [classify, Element.classify, Element.afterOperand, Element.beforeOperand]
    split
    · cases found : BinaryOp.ofSymbol? c with
      | none => rfl
      | some op => exact binary_eq found
    · cases sign : UnaryOp.ofSymbol? c with
      | some op => exact unary_eq sign
      | none =>
        cases found : BinaryOp.ofSymbol? c with
        | none => rfl
        | some op => rfl

theorem elements_eq {tokens : List Token} (h : Named tokens) :
    elements tokens = (Element.ofTokens tokens).mapError refusal := by
  have each : ∀ pair ∈ withPrevious none tokens,
      classify pair.1 pair.2 = (Element.classify pair.1 pair.2).mapError refusal :=
    fun pair mem => classify_eq h pair.1 (List.of_mem_zip mem).2
  rw [elements, Element.ofTokens, mapM_mapError each, mapError_bind]
  congr 1
  funext es
  split <;> rfl

/-! ## Evaluation -/

variable {limits : Limits} {store : Store}

theorem block_eq {n : Nat} (h : (Nat.toDigits 10 n).length ≤ Decimal.maxDigits) :
    block n = .ok (Nat.toDigits 10 n) := if_neg (Nat.not_lt.2 h)

theorem length_toDigits_le_iff {n : Nat} :
    (Nat.toDigits 10 n).length ≤ Decimal.maxDigits ↔ n < Decimal.firstLong := by
  have wide : 0 < Decimal.maxDigits := by decide
  unfold Decimal.firstLong
  generalize Decimal.maxDigits = places at wide ⊢
  exact Nat.length_toDigits_le_iff (by decide) wide

/-- The limit in a refusal is written unless it is too long. -/
theorem refuse_eq (limit : Nat) (cause : Decimal.Short → Malformed) :
    refuse limit cause = .error (.ofFault (.ofLimit limit cause)) := by
  by_cases short : limit < Decimal.firstLong
  · rw [refuse, block_eq (length_toDigits_le_iff.2 short), ok_bind, Fault.ofLimit_of_lt short]
    rfl
  · have tooLong : Decimal.maxDigits < (Nat.toDigits 10 limit).length :=
      Nat.not_le.1 fun few => short (length_toDigits_le_iff.1 few)
    have stopped : block limit = .error .longNumeral := if_pos tooLong
    rw [refuse, stopped, error_bind, Fault.ofLimit_of_le (Nat.not_lt.1 short)]
    rfl

theorem power_eq (limits : Limits) (left right : Int) :
    power limits left right = (Reckoner.power limits left right).mapError .ofFault := by
  unfold power Reckoner.power
  split
  · rfl
  · split
    · exact refuse_eq _ _
    · split
      · exact refuse_eq _ _
      · rfl

theorem apply_eq (limits : Limits) (op : BinaryOp) (left right : Int) :
    apply limits op left right = (op.apply limits left right).mapError .ofFault := by
  cases op with
  | add => rfl
  | sub => rfl
  | mul => rfl
  | div =>
    simp only [apply, BinaryOp.apply, divide]
    split <;> rfl
  | pow => exact power_eq limits left right

theorem step_eq (limits : Limits) (store : Store) (stack : List Int) (e : Element) :
    step limits store stack e = (Rpn.step limits store stack e).mapError .ofFault := by
  cases e with
  | number v => rfl
  | var name =>
    simp only [step, Rpn.step]
    cases store.get? name <;> rfl
  | operator op =>
    cases op with
    | binary op p =>
      have named : BinaryOp.named op.symbol.toString = .ok op := by cases op <;> rfl
      rcases stack with _ | ⟨b, _ | ⟨a, rest⟩⟩
      · rfl
      · rfl
      · have enough : ¬(b :: a :: rest).length < 2 := by simp
        simp only [step, if_neg enough, pop, ok_bind, named, ok_mapError, apply_eq, Rpn.step]
        cases op.apply limits a b <;> rfl
    | unary op p =>
      have named : UnaryOp.named op.symbol.toString = .ok op := by cases op <;> rfl
      rcases stack with _ | ⟨a, rest⟩
      · rfl
      · simp only [step, Rpn.step, pop, named]
        rfl
  | opening => rfl
  | closing => rfl

theorem rpnValue_eq (limits : Limits) (store : Store) (rpn : Rpn) :
    rpnValue limits store rpn = (Rpn.value limits store rpn).mapError .ofFault := by
  rw [rpnValue, Rpn.value_eq_run, mapError_bind, foldlM_mapError (step_eq limits store)]
  congr 1
  funext stack
  rcases stack with _ | ⟨v, _ | ⟨w, rest⟩⟩
  · rfl
  · rfl
  · rfl

theorem value_eq {tokens : List Token} (h : Named tokens) :
    value limits store tokens = (Token.value limits store tokens).mapError .ofFault := by
  simp only [value, Token.value, Token.rpn, elements_eq h, rpnValue_eq]
  cases Element.ofTokens tokens with
  | error cause => rfl
  | ok es =>
    simp only [ok_mapError, ok_bind]
    cases Rpn.ofElements es <;> rfl

/-! ## Statements -/

theorem mapError_onRightSide {α : Type} (x : Except Fault α) :
    (x.mapError Stop.ofFault).mapError onRightSide =
      (x.mapError Fault.onRightSide).mapError Stop.ofFault := by
  cases x with
  | ok a => rfl
  | error f => cases f <;> rfl

theorem leftText_eq {text : String} (h : '=' ∈ text.toList) :
    leftText text = .ok (Statement.leftText text) := by
  have cut : text.toList.takeWhile (· != '=') =
      text.toList.take (text.toList.findIdx (· == '=')) := by
    rw [List.takeWhile_eq_take_findIdx_not]
    congr 2
    funext c
    simp [bne]
  cases found : text.toList.findIdx? (· == '=') with
  | none => exact absurd (List.findIdx?_eq_none_iff.1 found '=' h) (by simp)
  | some i =>
    rw [leftText, found, Statement.leftText, cut,
      (List.findIdx?_eq_some_iff_findIdx_eq.1 found).2]

theorem execute_eq (limits : Limits) (store : Store) (text : String) :
    execute limits store text = (Statement.execute limits store text).mapError .ofFault := by
  have named := named_scan text
  simp only [execute, scan_eq, ok_bind, Statement.execute, Statement.read]
  cases cut : (Token.scan text).dropWhile (· != assignSign) with
  | nil =>
    simp only [value_eq named, Statement.run, mapError_map]
  | cons sign right =>
    have inText : right ⊆ Token.scan text := fun t mem =>
      (List.dropWhile_sublist _).subset (cut ▸ List.mem_cons_of_mem sign mem)
    have rightNamed : Named right := fun name mem => named name (inText mem)
    cases Token.soleName? ((Token.scan text).takeWhile (· != assignSign)) with
    | some name =>
      simp only [Statement.run, Statement.rightValue]
      split
      · rfl
      · rw [value_eq rightNamed, mapError_onRightSide, mapError_map]
    | none =>
      have assignment : '=' ∈ text.toList := by
        refine Decidable.byContradiction fun single => ?_
        have expression := Statement.read_expression single
        simp only [Statement.read, cut] at expression
        split at expression <;> cases expression
      rw [leftText_eq assignment]
      rfl

/-! ## Values in decimal -/

theorem block_eq_of_lt {n : Nat} (h : n < Decimal.blockBase) :
    block n = .ok (Nat.toDigits 10 n) := by
  unfold Decimal.blockBase at h
  have few : (Nat.toDigits 10 n).length ≤ Decimal.blockDigits :=
    Decimal.length_toDigits_le (by decide) h
  exact block_eq (Nat.le_trans few (by decide))

/-- If a block has `width` bits, the blocks that are cut off leave no more than one. -/
theorem writeOver_eq (low : List Char) {width blocks n : Nat}
    (bits : Nat.pow 2 width ≤ Decimal.blockBase) (h : n < Nat.pow 2 (width * (blocks + 1))) :
    writeOver low blocks n = .ok (Decimal.writeOver low blocks n) := by
  induction blocks generalizing low n with
  | zero =>
    rw [Nat.zero_add, Nat.mul_one] at h
    rw [writeOver, block_eq_of_lt (Nat.lt_of_lt_of_le h bits)]
    rfl
  | succ blocks ih =>
    rw [writeOver, Decimal.writeOver]
    split
    · rename_i last
      rw [block_eq_of_lt last]
      rfl
    · rw [block_eq_of_lt (Nat.mod_lt n Decimal.blockBase_pos), ok_bind]
      refine ih _ (Nat.div_lt_of_lt_mul (Nat.lt_of_lt_of_le h ?_))
      rw [Nat.mul_add_one, Nat.pow_eq, Nat.pow_add, Nat.mul_comm]
      exact Nat.mul_le_mul_right _ bits

theorem lt_two_pow_fullBlocks (n : Nat) :
    n < Nat.pow 2 (3 * Decimal.blockDigits * (Decimal.fullBlocks n + 1)) := by
  refine Nat.lt_of_lt_of_le Nat.lt_log2_self (Nat.pow_le_pow_right (by decide) ?_)
  exact Nat.lt_mul_div_succ n.log2 (by decide)

theorem text_eq (z : Int) : text z = .ok (Decimal.text z) := by
  -- every digit has three bits
  have bits : Nat.pow 2 (3 * Decimal.blockDigits) ≤ Decimal.blockBase := by decide +kernel
  rw [text, writeOver_eq [] bits (lt_two_pow_fullBlocks z.natAbs)]
  rfl

theorem printed_eq (effect : Effect) : printed effect = .ok (Session.printed effect) := by
  cases effect with
  | value v => rw [printed, text_eq]; rfl
  | assigned name v => rfl

/-! ## Sessions and scripts -/

theorem caught_mapError {α : Type} (x : Except Fault α) :
    caught (x.mapError .ofFault) = (Fault.caught x).mapError .ofFault := by
  cases x with
  | ok a => rfl
  | error f => cases f <;> rfl

theorem reply_eq (limits : Limits) (store : Store) (line : String) :
    reply limits store line = (Session.reply limits store line).mapError .ofFault := by
  cases read : Line.read line with
  | blank =>
    simp only [reply, Session.reply, read]
    rfl
  | command text =>
    simp only [reply, Session.reply, read]
    rfl
  | statement text =>
    simp only [reply, Session.reply, read, execute_eq, caught_mapError, Session.replyToStatement]
    cases Fault.caught (Statement.execute limits store text) with
    | error fault => rfl
    | ok outcome =>
      cases outcome with
      | error fault => rfl
      | ok effect =>
        simp only [ok_mapError, ok_bind, printed_eq]
        rfl

theorem scriptStep_eq (limits : Limits) (store : Store) (statement : String) :
    scriptStep limits store statement =
      (Script.step limits store statement).mapError .ofFault := by
  rw [scriptStep, execute_eq, caught_mapError, Script.step]
  cases Fault.caught (Statement.execute limits store statement) with
  | error fault => rfl
  | ok outcome => cases outcome <;> rfl

end Checked

end Reckoner
