import Sgr.Config.Load
import Sgr.Styling

/-!
# The palette

A show of the basic colours, the colours of the palette and a gradient of 24-bit colours, under a
configuration of its own. Whether it ends with a constant text is up to an environment variable,
which stands for true unless it is set.

## Main definitions

* `Palette.display` — the text of the show.
-/

namespace Sgr.Palette

/-- The environment variable that decides about constant text. -/
def variableName : String := "PALETTE_CONST_FORMAT"

/-- The configuration of the show. -/
def configText : String :=
  "version: \"1\"\nfeatures:\n  const_format: \"$\x7b\x7b env." ++ variableName
    ++ " \x7d\x7d\"\noutput:\n  color: auto\nlog_level: none\n"

/-- The settings of the show, which are installed. -/
def settings : Action Settings := do
  modify fun w =>
    if (w.env.get? variableName).isSome then w
    else { w with env := w.env.set variableName "true" }
  Action.record .info configLogger "Loading configuration from sgrfmt.yaml"
  let config ← resolvePlaceholders (← Action.lift .config (configOf configText))
  let settings ← settingsOf config
  Action.record .debug configLogger ("Loaded settings: " ++ settings.text)
  useSettings settings
  return settings

/-- The text of a call that is not deferred. -/
def textOf (t : Tool) (tokens : List Value) : Action String := do
  return (← callTool t tokens []).str

/-- A heading. -/
def heading (s : String) : Action String :=
  textOf (.brush (.ofStyle .bold)) [.text ("\n" ++ s)]

/-- The line of a basic colour, normal and bright. -/
def basicLine (base : Fin 8) : Action String := do
  let name := baseColorName base
  let normal ← textOf (.brush (.ofBasic base false .foreground))
    [.text (name ++ "".pushn ' ' (10 - name.length))]
  let bright ← textOf (.brush (.ofBasic base true .foreground)) [.text (name ++ " (bright)")]
  return "  " ++ normal ++ bright

/-- A row of background colours. -/
def cubeLine (first : Nat) : Action String := do
  let cells ← (List.range 36).mapM fun i => do
    let b ← indexTool (.family ⟨"bg_256", .background, false⟩) (.int (first + i : Nat))
    textOf (.brush b) [.text "  "]
  return String.join cells

/-- The gradient. -/
def gradientLine : Action String := do
  let cells ← (List.range 32).mapM fun (i : Nat) => do
    let b ← indexTool (.family ⟨"fg_rgb", .foreground, true⟩)
      (.tuple [.int (i * 8 : Nat), .int 64, .int (255 - i * 8 : Nat)])
    textOf (.brush b) [.text "#"]
  return String.join cells

/-- The last lines: text in two colours, and constant text if it may be made. -/
def samples (constFormat : Bool) : Action (List String) := do
  let painted ← indexTool (.brush (← paint [.text "white in blue"])) (.text "@")
  let first ← textOf (.brush painted)
    [.text "\x7b\x7d is \x7b\x7d", .text "paint", .text "done"]
  if constFormat then
    let b ← indexTool (.brush (.ofStyle .bold)) (.text "#")
    return [first, ← textOf (.brush b) [.text "\x7b\x7d constant", .int 1]]
  else return [first]

/-- The text of the show. -/
def display : Action String := do
  let settings ← settings
  let basics ← heading "Basic colors"
  let basicLines ← (List.finRange 8).mapM basicLine
  let cube ← heading "256-color cube"
  let cubeLines ← (List.range 6).mapM fun row => cubeLine (16 + 36 * row)
  let gradient ← heading "RGB gradient"
  let gradientLine ← gradientLine
  let samples ← samples settings.constFormat
  let lines := ["Constant formatting enabled: " ++ Text.truth settings.constFormat, basics]
    ++ basicLines ++ [cube] ++ cubeLines ++ [gradient, gradientLine, ""] ++ samples
  return String.join (lines.map (· ++ "\n"))

end Sgr.Palette
