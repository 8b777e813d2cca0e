import Sgr.Brush
import Sgr.Failure
import Sgr.Text.Case

/-!
# The named brushes and families

Every style and every basic colour has a brush of its own, and the indexed and the 24-bit colours of
each plane have a family. They are found by name, in any case and with hyphens for underscores.

## Main definitions

* `Tool.all` — the brushes and families with a name, in order.
* `Tool.lookup` — the one of a name.
-/

namespace Sgr

/-- The brush of a style. -/
def Brush.ofStyle (s : Style) : Brush :=
  { name := s.name, kinds := [.style s] }

/-- The name of a basic colour. -/
def basicName (base : Fin 8) (bright : Bool) (p : Plane) : String :=
  (match p with
    | .foreground => ""
    | .background => "bg_")
    ++ baseColorName base ++ (if bright then "_bright" else "")

/-- The brush of a basic colour. -/
def Brush.ofBasic (base : Fin 8) (bright : Bool) (p : Plane) : Brush :=
  { name := basicName base bright p, kinds := [.color (.basic base bright p)] }

namespace Tool

/-- The brushes of the basic colours of a plane, normal or bright. -/
def basics (bright : Bool) (p : Plane) : List Tool :=
  (List.finRange 8).map fun base => .brush (.ofBasic base bright p)

/-- The families: indexed colours, and then colours of 24 bits. -/
def families : List ColorFamily :=
  [⟨"fg_256", .foreground, false⟩, ⟨"bg_256", .background, false⟩,
   ⟨"fg_rgb", .foreground, true⟩, ⟨"bg_rgb", .background, true⟩]

/-- All brushes and families with a name, in order. -/
def all : List Tool :=
  Style.all.map (fun s => .brush (.ofStyle s))
    ++ basics false .foreground ++ basics true .foreground
    ++ basics false .background ++ basics true .background
    ++ families.map .family

/-- The key that a name stands for. -/
def key (name : String) : String :=
  String.ofList ((Text.lower (Text.strip name)).toList.map fun c => if c = '-' then '_' else c)

/-- The brush or family of a name. -/
def lookup (name : String) : Except CallError Tool :=
  match all.find? (·.name = key name) with
  | some t => .ok t
  | none => .error (.unknownName name)

/-- A brush or family as a value. -/
def value : Tool → Value
  | brush b => .brush b
  | family f => .family f

end Tool

end Sgr
