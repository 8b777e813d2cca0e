import Sgr.Context
import Sgr.Sigil.Grammar

/-!
# A text of sigils

A brush takes the modes of a text of sigils. Whether the sigil for constant text may be used is
asked of the active settings, unless it is said already; they are only asked about a text that holds
nothing but sigils. Every text that is accepted is put on record.

## Main definitions

* `PrefixError` — why a text gives no modes.
* `readPrefix` — the modes of a text of sigils.
-/

namespace Sgr

/-- Why a text gives no modes. -/
inductive PrefixError where
  | sigil (e : SigilError)
  | settings (e : SettingsError)
  deriving Inhabited

namespace PrefixError

/-- The text of an error. -/
def message : PrefixError → String
  | sigil e => e.message
  | settings e => e.message

/-- The class of an error. -/
def errorClass : PrefixError → ErrorClass
  | sigil e => e.errorClass
  | settings e => e.errorClass

/-- The character or sigil that an error is about. -/
def subject? : PrefixError → Option Value
  | sigil e => e.subject?
  | settings _ => none

end PrefixError

/-- The modes of a text of sigils, which messages and records show as given. -/
def readPrefix (shown text : String) (constFormat : Option Bool) : InContext PrefixError Modes := do
  let _ ← InContext.ofExcept .sigil (Sigil.tokenize text)
  let enabled ← (mayBeConstant constFormat).mapError .settings
  let modes ← InContext.ofExcept .sigil (Modes.ofPrefix enabled shown text)
  logRecord .debug "sgrfmt.sigils"
    ("Sigil prefix " ++ shown ++ " -> " ++ modes.output.name ++ ", " ++ modes.revert.name)
  return modes

end Sgr
