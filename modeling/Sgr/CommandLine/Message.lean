import Sgr.Styling

/-!
# Messages

The program's own messages are styled by its own brushes, so that making one is a styling call like
any other and may fail with the settings.

## Main definitions

* `errorMessage`, `warningMessage`, `successMessage`, `hintMessage` — the messages.
-/

namespace Sgr.CommandLine

/-- A text in a basic colour. -/
def inColor (base : Fin 8) (s : String) : Action String := do
  match ← callTool (.brush (.ofBasic base false .foreground)) [.text s] [] with
  | .text styled => return styled
  | v => return v.str

/-- A message about an error. -/
def errorMessage (s : String) : Action String := do
  return (← inColor 1 "Error:") ++ " " ++ s

/-- A warning. -/
def warningMessage (s : String) : Action String := do
  return (← inColor 3 "Warning:") ++ " " ++ s

/-- A message about a success. -/
def successMessage (s : String) : Action String :=
  inColor 2 s

/-- A point of a list. -/
def hintMessage (s : String) : Action String := do
  return "  " ++ (← inColor 4 "•") ++ " " ++ s

end Sgr.CommandLine
