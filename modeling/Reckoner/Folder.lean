import Reckoner.Archive

/-!
# Folders of files

The files and folders that a run finds, by their paths from the current folder. A
path leads to its end component by component, each time from a folder; `..` leads
back. Paths without such detours are the keys of the entries.

Main definitions:
* `Folder.locate`: where a path leads.
* `Folder.file?`: what is in the file there.
* `Folder.put`: the files after one has been written.
-/
namespace Reckoner

/-- What a file holds: bytes, or the members of an archive. -/
inductive Content where
  | bytes (data : ByteArray)
  | archive (format : Archive.Format) (members : List Archive.Member)
  deriving DecidableEq

inductive Entry where
  | file (content : Content)
  | folder
  deriving DecidableEq

namespace Path

/-- Whether a path starts at the current folder or the root and leads nowhere but upwards. -/
def leadsUp (p : Path) : Bool := p.components.all (· == "..")

/-- One component further along a path without detours. -/
def descend (p : Path) (component : String) : Path :=
  if component != ".." then ⟨p.anchor, p.components ++ [component]⟩
  else if !p.leadsUp then ⟨p.anchor, p.components.dropLast⟩
  else if p.anchor = .relative then ⟨p.anchor, p.components ++ [component]⟩
  else p

/-- The path without its detours. -/
def collapse (p : Path) : Path := p.components.foldl descend ⟨p.anchor, []⟩

/-- The paths that a path passes on the way to its end. -/
def passed (p : Path) : List Path :=
  (List.range p.components.length).map fun n => ⟨p.anchor, p.components.take n⟩

end Path

/-- Entries by their paths; the current folder and all above it are there without an entry. -/
structure Folder where
  entries : List (Path × Entry)
  deriving DecidableEq

namespace Folder

def empty : Folder := ⟨[]⟩

/-- What stands at a path without detours. -/
def entryAt (f : Folder) (p : Path) : Option Entry :=
  if p.leadsUp then some .folder else f.entries.lookup p

/-- Follow one more component, which is possible from a folder only. -/
def follow (f : Folder) (p : Path) (component : String) : Option Path :=
  if f.entryAt p = some .folder then some (p.descend component) else none

/-- Where a path leads; nothing need stand there. -/
def locate (f : Folder) (p : Path) : Option Path := p.components.foldlM f.follow ⟨p.anchor, []⟩

def find? (f : Folder) (p : Path) : Option Entry := (f.locate p).bind f.entryAt

/-- What is in the file that a path leads to. -/
def file? (f : Folder) (p : Path) : Option Content :=
  match f.find? p with
  | some (.file content) => some content
  | _ => none

/-- Put an entry at a path without detours, in place of any entry there. -/
def put (f : Folder) (p : Path) (e : Entry) : Folder :=
  ⟨(p, e) :: f.entries.filter (·.1 != p)⟩

def makeFolder (f : Folder) (p : Path) : Folder :=
  if (f.entryAt p).isSome then f else f.put p .folder

/-- Put an entry at a path, and make the folders on the way. -/
def add (f : Folder) (p : Path) (e : Entry) : Folder :=
  ((p.passed.map Path.collapse).foldl makeFolder f).put p.collapse e

end Folder

end Reckoner
