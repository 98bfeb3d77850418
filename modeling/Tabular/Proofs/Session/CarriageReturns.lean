import Tabular.Proofs.Script.CarriageReturns
import Tabular.Proofs.Session.Composed
import Tabular.Proofs.Table.Format

/-!
# Line ends in scripts and in tables' files

A carriage return before a line feed belongs to the line's end. So a script means the same with a
carriage return before every line feed, whatever else it holds, and so does a table's file, unless
there are carriage returns before its line feeds already (`Session.run_and_load_crLf`).

For a table's file this is because its lines are the same. For a script they need not be: a line
that ends in a carriage return keeps it when one more comes before the line feed. But there it is
blank, and stands before a line feed in the statement that it gets into.

The two halves of `Session.run_and_load_crLf` have different conditions for this reason. A script
needs none. A file needs to have no carriage return before a line feed, since one of them belongs to
the line's end already and a second one would belong to the last field of the line.
-/

namespace Tabular

open Disk (FileTree)
open Text (Bytes crLf)

/-- The same table is read from a content, and the same error comes of it. -/
theorem Table.decode_crLf {content : Bytes} (name : String)
    (h : ¬ [Text.cr, Text.lf] <:+: content) : decode name (crLf content) = decode name content := by
  rw [decode, decode, Text.textLines, Text.textLines, Text.lines_crLf h]

namespace Session

/-- A script with carriage returns before all line feeds comes to the same as without. -/
theorem run_crLf (prompt : Option String) (passes : Nat → Passes) (script : Bytes) (s : State) :
    run prompt passes (crLf script) s = run prompt passes script s := by
  rw [run, run, play_eq_of_readAlike (readAlike_scriptEvents_crLf script)]

/-- **Line feeds with carriage returns before them are line ends as line feeds alone are.** A script
writes the same with them, ends the same, and leaves the same tables and files behind, whatever its
bytes are. A file that has none before comes to the same table or to the same error. -/
theorem run_and_load_crLf :
    (∀ prompt passes script s,
      run prompt passes (crLf script) s = run prompt passes script s) ∧
    ∀ {dir name : String} {content : Bytes} {files files' : FileTree},
      ¬ [Text.cr, Text.lf] <:+: content →
      files.contentAt (Disk.tablePath dir name) = .ok content →
      files'.contentAt (Disk.tablePath dir name) = .ok (crLf content) →
      (files'.perform (Table.load dir name)).1 = (files.perform (Table.load dir name)).1 := by
  refine ⟨run_crLf, fun hcr hfile hfile' ↦ ?_⟩
  rw [Table.perform_load hfile, Table.perform_load hfile', Table.decode_crLf _ hcr]

/-- A script with a literal that is not closed on its line, a line that has its carriage return
already, and a line that is not text; and a file whose last line is a field short. -/
theorem run_and_load_crLf_faulty :
    let passes : Nat → Passes := fun _ ↦ .arrival
    let s : State := ⟨.empty "", .empty, 0⟩
    let script := Text.utf8 "create table t (a);\r\ninsert into t values 'x\nt; 'y;\n" ++ [255]
    let content := Text.utf8 "a,b\nx,y\nz\n"
    let files : FileTree := ⟨[(⟨.above 0, ["t.db"]⟩, .file content)]⟩
    let files' : FileTree := ⟨[(⟨.above 0, ["t.db"]⟩, .file (crLf content))]⟩
    ¬ [Text.cr, Text.lf] <:+: content ∧
      files.contentAt (Disk.tablePath "" "t") = .ok content ∧
      files'.contentAt (Disk.tablePath "" "t") = .ok (crLf content) ∧
      run none passes (crLf script) s = run none passes script s ∧
      (run none passes (crLf script) s).messages = [.error (.malformed .unterminatedLiteral)] ∧
      (files'.perform (Table.load "" "t")).1 = .error (.rowWidth 2 1) := by
  intro passes s script content files files'
  have hcr : ¬ [Text.cr, Text.lf] <:+: content := by decide +kernel
  have hfile : files.contentAt (Disk.tablePath "" "t") = .ok content := by decide +kernel
  have hfile' : files'.contentAt (Disk.tablePath "" "t") = .ok (crLf content) := by decide +kernel
  have hload : (files.perform (Table.load "" "t")).1 = .error (.rowWidth 2 1) := by decide +kernel
  have hmessages : (run none passes script s).messages =
      [.error (.malformed .unterminatedLiteral)] := by
    decide +kernel
  have hrun := run_and_load_crLf.1 none passes script s
  have hsame := run_and_load_crLf.2 hcr hfile hfile'
  exact ⟨hcr, hfile, hfile', hrun, by rw [hrun, hmessages], by rw [hsame, hload]⟩

end Session

end Tabular
