import Reckoner.Folder
import Reckoner.Log
import Reckoner.Text.LineBreak
import Reckoner.Violation

/-!
# Script files

A script is read from a text file or from a member of an archive; the suffixes of
the path tell which. Both are UTF-8 text. Only in a text file are `\r\n` and `\r`
read as `\n`.

Main definitions:
* `ScriptFile.locate`: the bytes of the script at a path.
* `ScriptFile.load`: its text.
-/
namespace Reckoner.ScriptFile

/-- Why a script cannot be read. -/
inductive Failure where
  /-- the path leads to no file -/
  | noFile
  /-- the suffixes, or the name for want of any, tell no format -/
  | unsupported (label : String)
  /-- the file is no archive of the format that its suffixes tell -/
  | broken (format : Archive.Format)
  | noScript (cause : Archive.NoScript)
  /-- the bytes are not UTF-8 text -/
  | encoding
  deriving Repr, DecidableEq

structure Located where
  source : Path
  /-- the member of the archive -/
  member : Option String
  data : ByteArray
  deriving DecidableEq

structure Loaded where
  source : Path
  /-- the member of the archive -/
  member : Option String
  content : String
  deriving Repr, DecidableEq

/-- Whether the path is that of a text file. -/
def isTextFile (p : Path) : Bool := p.lastSuffix.toList.map Char.toLower == ".txt".toList

/-- What an unsupported file is called. -/
def label (p : Path) : String := if p.suffixes.isEmpty then p.name else p.suffixes

def fromArchive (p : Path) (format : Archive.Format) : Content → Except Failure Located
  | .bytes _ => .error (.broken format)
  | .archive actual members =>
    if actual ≠ format then .error (.broken format)
    else
      match Archive.choose ((Archive.files format members).map (·.name)) p with
      | .ok name => .ok ⟨p, some name, Archive.dataOf format members name⟩
      | .error cause => .error (.noScript cause)

/-- The bytes of the script at a path. -/
def locate (folder : Folder) (p : Path) : Except Failure Located :=
  match folder.file? p with
  | none => .error .noFile
  | some content =>
    if isTextFile p then
      match content with
      | .bytes data => .ok ⟨p, none, data⟩
      | .archive .. => .error .encoding
    else
      match Archive.Format.ofPath? p with
      | some format => fromArchive p format content
      | none => .error (.unsupported (label p))

/-- What the log is told when bytes have been found in an archive. -/
def Located.records (l : Located) : List Log.Record :=
  match l.member with
  | some name =>
    [⟨.info, "📦 Reading statements from " ++ Text.quoted name ++ " in " ++ l.source.name⟩]
  | none => []

/-- The text in the bytes. -/
def Located.decode (l : Located) : Except Failure Loaded :=
  match String.fromUTF8? l.data with
  | none => .error .encoding
  | some text =>
    .ok ⟨l.source, l.member, if l.member.isNone then Text.unifyLines text else text⟩

def load (folder : Folder) (p : Path) : Except Failure Loaded := do
  (← locate folder p).decode

/-- The field that holds the path of a script. -/
def noFileViolation : Violation := ⟨"0", .regularFile⟩

/-- What is said of a failure; a broken archive and a wrong encoding have no words of their own. -/
def Failure.message? : Failure → Option String
  | noFile => some noFileViolation.message
  | unsupported label => some ("📄❌ Unsupported script format: " ++ label)
  | noScript cause => some cause.message
  | broken _ => none
  | encoding => none

end Reckoner.ScriptFile
