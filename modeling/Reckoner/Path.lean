import Reckoner.Text.Quoted

/-!
# Paths

A path is a sequence of components from an anchor on. Empty components and `.`
say nothing and are dropped; `..` stays, for what it leads to depends on the
folders. Two slashes at the front, and only two, are an anchor of their own.

The name of a path is its last component. A name that does not end with a dot is
cut at the first dot after its leading dots into a stem and its suffixes; a name
that ends with a dot has no suffixes.

Main definitions:
* `Path.ofText`, `Path.text`: paths as text.
* `Path.stem`, `Path.suffixes`: the two parts of the name.
* `Path.withName`: the path with another name in the same folder.
-/
namespace Reckoner

inductive Anchor where
  | relative
  | root
  | doubleRoot
  deriving Repr, DecidableEq

def Anchor.text : Anchor → String
  | relative => ""
  | root => "/"
  | doubleRoot => "//"

/-- The anchor that a number of leading slashes stands for. -/
def Anchor.ofSlashes : Nat → Anchor
  | 0 => relative
  | 2 => doubleRoot
  | _ => root

/-- An anchor and the components after it. -/
structure Path where
  anchor : Anchor
  components : List String
  deriving Repr, DecidableEq

namespace Path

/-- Whether two neighbouring characters belong to one component. -/
def sameComponent (a b : Char) : Bool := a != '/' && b != '/'

/-- The path that a text denotes. -/
def ofText (text : String) : Path where
  anchor := .ofSlashes (text.toList.takeWhile (· == '/')).length
  components := ((text.toList.splitBy sameComponent).filter fun part =>
    part != ['/'] && part != ['.']).map String.ofList

/-- The text of a path; one without anchor and components is `.`. -/
def text (p : Path) : String :=
  match p with
  | ⟨.relative, []⟩ => "."
  | ⟨anchor, components⟩ => anchor.text ++ "/".intercalate components

/-- The last component; a path without components has no name. -/
def name (p : Path) : String := p.components.getLast?.getD ""

/-- The stem of a name and its suffixes, each of which starts with a dot. -/
def cut (name : List Char) : List Char × List Char :=
  if name.getLast? = some '.' then (name, [])
  else
    let afterDots := name.dropWhile (· == '.')
    (name.takeWhile (· == '.') ++ afterDots.takeWhile (· != '.'), afterDots.dropWhile (· != '.'))

/-- Nothing of a name is lost. -/
theorem cut_append (name : List Char) : (cut name).1 ++ (cut name).2 = name := by
  unfold cut
  split
  · simp
  · simp [List.append_assoc, List.takeWhile_append_dropWhile]

def stem (p : Path) : String := String.ofList (cut p.name.toList).1

def suffixes (p : Path) : String := String.ofList (cut p.name.toList).2

/-- The last suffix: the name from its last dot on, unless that is its first or last character. -/
def lastSuffix (p : Path) : String :=
  let backwards := p.name.toList.reverse
  let tail := backwards.takeWhile (· != '.')
  match backwards.dropWhile (· != '.') with
  | _ :: _ :: _ => if tail.isEmpty then "" else String.ofList ('.' :: tail.reverse)
  | _ => ""

/-- Whether an extension in lower case ends a text in ASCII letters of any case. -/
def endsWithExtension (extension text : String) : Bool :=
  extension.toList.isSuffixOf (text.toList.map Char.toLower)

/-- A path without a name where a name is needed. -/
structure Nameless where
  path : Path
  deriving Repr, DecidableEq

def Nameless.message (n : Nameless) : String :=
  "PosixPath(" ++ Text.quoted n.path.text ++ ") has an empty name"

def withName (p : Path) (name : String) : Except Nameless Path :=
  if p.name.isEmpty then .error ⟨p⟩
  else .ok ⟨p.anchor, p.components.dropLast ++ [name]⟩

end Path

/-- Where the results of the script at a path are written: beside it, under its name with the dots
of the suffixes replaced. -/
def resultsPath (p : Path) : Except Path.Nameless Path :=
  let safe := p.suffixes.toList.map fun c => if c = '.' then '_' else c
  p.withName (p.stem ++ String.ofList safe ++ "_results.txt")

end Reckoner
