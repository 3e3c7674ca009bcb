/-!
# Command line arguments

The command takes one argument, the path of a script, and one option, which asks
for help. An argument that starts with `-` is an option, unless it is `-` itself,
looks like a negative number, or has a space in it; after `--` nothing is an
option.

`--help` can be shortened, and takes no value. `-h` can be followed by further
letters `h` in the same argument, with a `=` before them or not; they ask for the
same.

Main definitions:
* `Arguments.classify`: what an argument is.
* `Invocation.ofArguments`: what the arguments ask for.
-/
namespace Reckoner

/-- What the arguments ask for. -/
inductive Invocation where
  | help
  | session
  | script (path : String)
  /-- something else than the command can do -/
  | refused
  deriving Repr, DecidableEq

namespace Arguments

inductive Kind where
  | positional
  | help
  | unknownOption
  /-- something else than the option takes is given to it -/
  | misused
  deriving Repr, DecidableEq

/-- The zeros of all decimal digits: the nine others of a kind follow each (Unicode 14). -/
def digitZeros : List Nat :=
  [0x30, 0x660, 0x6f0, 0x7c0, 0x966, 0x9e6, 0xa66, 0xae6, 0xb66, 0xbe6, 0xc66, 0xce6, 0xd66,
   0xde6, 0xe50, 0xed0, 0xf20, 0x1040, 0x1090, 0x17e0, 0x1810, 0x1946, 0x19d0, 0x1a80, 0x1a90,
   0x1b50, 0x1bb0, 0x1c40, 0x1c50, 0xa620, 0xa8d0, 0xa900, 0xa9d0, 0xa9f0, 0xaa50, 0xabf0,
   0xff10, 0x104a0, 0x10d30, 0x11066, 0x110f0, 0x11136, 0x111d0, 0x112f0, 0x11450, 0x114d0,
   0x11650, 0x116c0, 0x11730, 0x118e0, 0x11950, 0x11c50, 0x11d50, 0x11da0, 0x16a60, 0x16ac0,
   0x16b50, 0x1d7ce, 0x1d7d8, 0x1d7e2, 0x1d7ec, 0x1d7f6, 0x1e140, 0x1e2f0, 0x1e950, 0x1fbf0]

/-- Whether a character is a decimal digit of any script. -/
def isAnyDigit (c : Char) : Bool := digitZeros.any fun z => z ≤ c.toNat && c.toNat < z + 10

/-- Whether what follows a `-` makes a number: digits, which may have a point before their last
run; one line break at the end does not count. -/
def isNumber (cs : List Char) : Bool :=
  let cs := if cs.getLast? = some '\n' then cs.dropLast else cs
  let whole := cs.takeWhile isAnyDigit
  match cs.dropWhile isAnyDigit with
  | [] => !whole.isEmpty
  | '.' :: fraction => !fraction.isEmpty && fraction.all isAnyDigit
  | _ => false

/-- An argument that goes on with the given characters after `-h`. -/
def classifyAfterH : List Char → Kind
  | ['='] => .misused
  | '=' :: rest => if rest.all (· == 'h') then .help else .misused
  | rest => if rest.all (· == 'h') then .help else .misused

/-- An argument that is no known option. -/
def classifyOther (cs : List Char) : Kind :=
  if isNumber (cs.drop 1) || cs.contains ' ' then .positional else .unknownOption

/-- An argument that starts with `--`. -/
def classifyLong (cs : List Char) : Kind :=
  if (cs.takeWhile (· != '=')).isPrefixOf "--help".toList then
    if cs.contains '=' then .misused else .help
  else classifyOther cs

/-- What an argument before any `--` is. -/
def classify (argument : String) : Kind :=
  match argument.toList with
  | '-' :: '-' :: rest => classifyLong ('-' :: '-' :: rest)
  | '-' :: 'h' :: rest => classifyAfterH rest
  | '-' :: c :: rest => classifyOther ('-' :: c :: rest)
  | _ => .positional

end Arguments

/-- What the arguments ask for. The first request for help, or misuse of it, decides; unknown
options and a second path are refused afterwards. -/
def Invocation.ofArguments (arguments : List String) : Invocation :=
  let before := arguments.takeWhile (· != "--")
  let after := (arguments.dropWhile (· != "--")).drop 1
  let kinds := before.map Arguments.classify
  match kinds.find? fun kind => kind == .help || kind == .misused with
  | some .help => .help
  | some _ => .refused
  | none =>
    if kinds.contains .unknownOption then .refused
    else
      match before ++ after with
      | [] => .session
      | [path] => .script path
      | _ => .refused

end Reckoner
