import Reckoner.Path

/-!
# Archives

An archive holds members; the script among them is found by name. A member named
like the archive, in whatever folder, comes first, and else the least of the text
members; of several that qualify the least one is taken, names being compared by
code points.

Main definitions:
* `Archive.Format`: the formats, told by the last suffixes of a path.
* `Archive.choose`: the name of the script among the member names.
* `Archive.dataOf`: the data of a member.
-/
namespace Reckoner.Archive

/-- The formats of archives. -/
inductive Format where
  | zip
  | tarXz
  | sevenZip
  deriving Repr, DecidableEq

namespace Format

def extension : Format → String
  | zip => ".zip"
  | tarXz => ".tar.xz"
  | sevenZip => ".7z"

/-- The format of the archive at a path. No character beyond ASCII has one of the letters of these
extensions as its lower case, so ASCII letters are all that is compared in either case. -/
def ofPath? (p : Path) : Option Format :=
  [zip, tarXz, sevenZip].find? fun f => Path.endsWithExtension f.extension p.suffixes

end Format

/-- Data is compared byte by byte, whatever other instances are imported. -/
instance decidableEqByteArray : DecidableEq ByteArray := ByteArray.decEq

/-- A member; a folder has no data. -/
structure Member where
  name : String
  data : Option ByteArray
  deriving DecidableEq

/-- Whether a member is a folder. In a zip archive the name alone decides. -/
def Member.isFolder (format : Format) (m : Member) : Bool :=
  match format with
  | .zip => m.name.toList.getLast? = some '/'
  | .tarXz | .sevenZip => m.data.isNone

def files (format : Format) (members : List Member) : List Member :=
  members.filter (!·.isFolder format)

/-- The data of the last file of a name. -/
def dataOf (format : Format) (members : List Member) (name : String) : ByteArray :=
  match (files format members).reverse.find? (·.name == name) with
  | some m => m.data.getD .empty
  | none => .empty

/-- What the names of scripts end with. -/
def scriptExtension : String := ".txt"

def isScript (name : String) : Bool := scriptExtension.toList.isSuffixOf name.toList

def least? (names : List String) : Option String :=
  names.foldl (fun best name =>
    match best with
    | some b => if name < b then some name else some b
    | none => some name) none

structure NoScript where
  archive : String
  deriving Repr, DecidableEq

def NoScript.message (n : NoScript) : String :=
  "📄❌ No " ++ scriptExtension ++ " script in " ++ n.archive

/-- The last component of a member that is named like the archive. -/
def preferredName (archive : Path) : String := archive.stem ++ scriptExtension

/-- The name of the script among the member names. -/
def choose (names : List String) (archive : Path) : Except NoScript String :=
  let scripts := names.filter isScript
  let preferred := scripts.filter fun name => (Path.ofText name).name == preferredName archive
  match least? preferred, least? scripts with
  | some name, _ => .ok name
  | none, some name => .ok name
  | none, none => .error ⟨archive.name⟩

end Reckoner.Archive
