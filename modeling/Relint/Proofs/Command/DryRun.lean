import Relint.Proofs.Command.Options
import Relint.Proofs.Command.Steps

/-!
A dry run leaves the tree alone. None of its steps writes anything, and a run does nothing to
a tree but its writes, whether it gets to its end or is ended early at any point.
-/

namespace Relint

namespace Run

open FileAction

variable {o : Options}

theorem written_of_dryRun (h : o.dryRun = true) (path text : String) : written o path text = [] :=
  if_pos h

theorem conversionWrites_of_dryRun (h : o.dryRun = true)
    (conversions : List (String × CommentConversion)) : conversionWrites o conversions = [] := by
  rw [conversionWrites, List.flatMap_eq_nil_iff]
  rintro ⟨path, c⟩ _
  simp [written_of_dryRun h]

/-- None of the steps of a dry run writes anything. -/
theorem writes_of_dryRun (h : o.dryRun = true) (t : FileTree) : writes o t = [] := by
  have hconfiguration : ∀ t, configurationWrites o t = [] := by
    intro t
    rw [configurationWrites]
    split
    · exact written_of_dryRun h _ _
    · rfl
  have heditor : ∀ t, editorWrites o t = [] := by
    intro t
    rw [editorWrites]
    split
    · split
      · exact written_of_dryRun h _ _
      · rfl
    · rfl
  have hsources : ∀ exclude t, sourceWrites o exclude t = [] := by
    intro exclude t
    rw [sourceWrites]
    split
    · split
      · exact conversionWrites_of_dryRun h _
      · rfl
    · rfl
  simp [writes, hconfiguration, heditor, hsources]

theorem tree_of_dryRun (h : o.dryRun = true) (t : FileTree) : (runOptions o t).tree = t := by
  rw [tree_runOptions_writes, writes_of_dryRun h]
  rfl

end Run

/-- A command line with `--dry-run` changes nothing in the tree: no file is written and no
directory is made, whatever else is asked for and however the run ends. -/
theorem tree_runArguments_dryRun {arguments : List String} (h : "--dry-run" ∈ arguments)
    (t : FileTree) : (runArguments arguments t).tree = t := by
  rw [runArguments]
  cases hread : Options.read arguments with
  | run o =>
      have hdry : o.dryRun = true := Options.dryRun_of_mem h hread
      exact Run.tree_of_dryRun hdry t
  | version | help | refused => rfl

/-- A project with a configuration for one rule, and with a source that names this rule. -/
def sampleProject : FileTree :=
  FileTree.ofEntries
    [(["work", "tslint.json"], .file (.text "\x7b\"rules\": \x7b\"no-any\": true\x7d\x7d")),
      (["work", "settings.json"], .file (.text "\x7b\"tslint.enable\": true\x7d")),
      (["work", "main.ts"], .file (.text "// tslint:disable:no-any\n"))]
    ["work"] "/work"

def sampleArguments : List String :=
  ["--config", "out/lint.json", "--editor", "settings.json", "--comments"]

theorem sampleProject_dryRun :
    "--dry-run" ∈ sampleArguments ++ ["--dry-run"] ∧
      (runArguments (sampleArguments ++ ["--dry-run"]) sampleProject).tree = sampleProject := by
  have hmem : "--dry-run" ∈ sampleArguments ++ ["--dry-run"] := by decide
  exact ⟨hmem, tree_runArguments_dryRun hmem sampleProject⟩

/-- Without the flag the same command line does write. -/
example : (runArguments sampleArguments sampleProject).tree.entries ≠ sampleProject.entries := by
  decide +kernel

end Relint
