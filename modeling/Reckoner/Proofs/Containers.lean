import Reckoner.Proofs.Paths
import Reckoner.Proofs.UnifiedLines
import Reckoner.Script
import Reckoner.ScriptFile

/-!
# Scripts in text files and in archives

The same bytes are a script in a text file or as a member of an archive. The texts that are read
from them may differ, for only in a text file line breaks are unified; their lines do not, so the
script runs the same.

Results:
* `not_isTextFile_of_format`: no path is both that of a text file and that of an archive.
* `load_text`, `load_archive`: what is read from a text file, and from an archive.
* `Script.run_unifyLines`: a script with unified breaks runs the same.
* `load_text_archive`: a script in a text file and in an archive runs the same.
-/
namespace Reckoner

theorem getLast?_of_isSuffix {α : Type} {ending whole : List α} {a : α}
    (h : ending <:+ whole) (last : ending.getLast? = some a) : whole.getLast? = some a := by
  obtain ⟨before, rfl⟩ := h
  rw [List.getLast?_append, last]
  rfl

namespace ScriptFile

variable {p : Path} {format : Archive.Format}

/-- The last character of an extension, in lower case. -/
def lastOf : Archive.Format → Char
  | .zip => 'p'
  | .tarXz | .sevenZip => 'z'

theorem getLast?_of_format (h : Archive.Format.ofPath? p = some format) :
    (p.name.toList.map Char.toLower).getLast? = some (lastOf format) := by
  have ends := List.find?_some h
  have ofSuffixes : format.extension.toList <:+ p.suffixes.toList.map Char.toLower :=
    List.isSuffixOf_iff_suffix.1 ends
  refine getLast?_of_isSuffix (ofSuffixes.trans (p.suffixes_isSuffix.map _)) ?_
  cases format <;> rfl

theorem getLast?_of_isTextFile (h : isTextFile p = true) :
    (p.name.toList.map Char.toLower).getLast? = some 't' := by
  have ofName := p.lastSuffix_isSuffix.map Char.toLower
  rw [beq_iff_eq.1 h] at ofName
  exact getLast?_of_isSuffix ofName rfl

theorem not_isTextFile_of_format (h : Archive.Format.ofPath? p = some format) :
    isTextFile p = false := by
  rw [Bool.eq_false_iff]
  intro isText
  have last := getLast?_of_isTextFile isText
  rw [getLast?_of_format h] at last
  cases format <;> cases last

/-! ## Loading -/

variable {folder : Folder} {data : ByteArray}

theorem fromUTF8?_of_valid (h : data.IsValidUTF8) :
    String.fromUTF8? data = some (String.fromUTF8 data h) :=
  dif_pos h

theorem load_text (isText : isTextFile p = true) (stands : folder.file? p = some (.bytes data))
    (valid : data.IsValidUTF8) :
    load folder p = .ok ⟨p, none, Text.unifyLines (String.fromUTF8 data valid)⟩ := by
  have located : locate folder p = .ok ⟨p, none, data⟩ := by
    simp only [locate, stands, isText, if_true]
  rw [load, located]
  show Located.decode ⟨p, none, data⟩ = _
  simp only [Located.decode, fromUTF8?_of_valid valid]
  rfl

theorem load_archive {members : List Archive.Member} {name : String}
    (isArchive : Archive.Format.ofPath? p = some format)
    (stands : folder.file? p = some (.archive format members))
    (chosen : Archive.choose ((Archive.files format members).map (·.name)) p = .ok name)
    (valid : (Archive.dataOf format members name).IsValidUTF8) :
    load folder p =
      .ok ⟨p, some name, String.fromUTF8 (Archive.dataOf format members name) valid⟩ := by
  have located : locate folder p = .ok ⟨p, some name, Archive.dataOf format members name⟩ := by
    simp [locate, stands, not_isTextFile_of_format isArchive, isArchive, fromArchive, chosen]
  rw [load, located]
  show Located.decode ⟨p, some name, Archive.dataOf format members name⟩ = _
  simp only [Located.decode, fromUTF8?_of_valid valid]
  rfl

end ScriptFile

/-! ## Running -/

theorem Script.run_unifyLines (limits : Limits) (store : Store) (content : String) :
    run limits store (Text.unifyLines content) = run limits store content := by
  have same : statements (Text.unifyLines content) = statements content := by
    rw [statements, Text.lines_unifyLines]
    rfl
  rw [run, same]
  rfl

/-- Bytes that are text in UTF-8 are the same script in a text file and as the script of an
archive, of whatever format and wherever the two stand. Both can be read, the one with unified
line breaks and the other as it is; and under any limits and in any store they run the same: with
the same outcomes, the same results, and the same store afterwards. -/
theorem ScriptFile.load_text_archive {folder folder' : Folder} {plain packed : Path}
    {data : ByteArray} {format : Archive.Format} {members : List Archive.Member} {name : String}
    (valid : data.IsValidUTF8)
    (isText : isTextFile plain = true) (stands : folder.file? plain = some (.bytes data))
    (isArchive : Archive.Format.ofPath? packed = some format)
    (stands' : folder'.file? packed = some (.archive format members))
    (chosen : Archive.choose ((Archive.files format members).map (·.name)) packed = .ok name)
    (held : Archive.dataOf format members name = data) :
    ∃ script script', load folder plain = .ok script ∧ load folder' packed = .ok script' ∧
      script.member = none ∧ script'.member = some name ∧
      script'.content.toUTF8 = data ∧ script.content = Text.unifyLines script'.content ∧
      ∀ (limits : Limits) (store : Store),
        Script.run limits store script.content = Script.run limits store script'.content := by
  subst held
  refine ⟨_, _, load_text isText stands valid, load_archive isArchive stands' chosen valid, rfl,
    rfl, rfl, rfl, fun limits store => ?_⟩
  exact Script.run_unifyLines limits store _

/-- The member that is named like the archive is chosen, though another comes first; its breaks are
of five kinds. -/
theorem ScriptFile.load_text_archive_zip :
    let data := "a = 2\r\n\rb = a / 0\x0b\x0b\n\ra * 3\u2028\r".toUTF8
    let members : List Archive.Member :=
      [⟨"a.txt", some "1".toUTF8⟩, ⟨"in/", none⟩, ⟨"in/ops.txt", some data⟩]
    let folder := (Folder.empty.add (.ofText "ops.Txt") (.file (.bytes data))).add
      (.ofText "packs/ops.ZIP") (.file (.archive .zip members))
    data.IsValidUTF8 ∧
      isTextFile (.ofText "ops.Txt") = true ∧
      folder.file? (.ofText "ops.Txt") = some (.bytes data) ∧
      Archive.Format.ofPath? (.ofText "packs/ops.ZIP") = some .zip ∧
      folder.file? (.ofText "packs/ops.ZIP") = some (.archive .zip members) ∧
      Archive.choose ((Archive.files .zip members).map (·.name)) (.ofText "packs/ops.ZIP") =
        .ok "in/ops.txt" ∧
      Archive.dataOf .zip members "in/ops.txt" = data ∧
      ∃ script script', load folder (.ofText "ops.Txt") = .ok script ∧
        load folder (.ofText "packs/ops.ZIP") = .ok script' ∧
        ∀ (limits : Limits) (store : Store),
          Script.run limits store script.content = Script.run limits store script'.content := by
  intro data members folder
  have valid : data.IsValidUTF8 := String.isValidUTF8 _
  have isText : isTextFile (.ofText "ops.Txt") = true := by decide +kernel
  have stands : folder.file? (.ofText "ops.Txt") = some (.bytes data) := by rfl
  have isArchive : Archive.Format.ofPath? (.ofText "packs/ops.ZIP") = some .zip := by
    decide +kernel
  have stands' : folder.file? (.ofText "packs/ops.ZIP") = some (.archive .zip members) := by
    rfl
  have chosen : Archive.choose ((Archive.files .zip members).map (·.name))
      (.ofText "packs/ops.ZIP") = .ok "in/ops.txt" := by decide +kernel
  have held : Archive.dataOf .zip members "in/ops.txt" = data := by decide +kernel
  obtain ⟨script, script', loaded, loaded', -, -, -, -, same⟩ :=
    load_text_archive valid isText stands isArchive stands' chosen held
  exact ⟨valid, isText, stands, isArchive, stands', chosen, held, script, script', loaded, loaded',
    same⟩

end Reckoner
