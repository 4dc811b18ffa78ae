import LevelPrep.Json.Coercion
import LevelPrep.Registry

/-!
# Passes and their order

Static nodes go through passes.  A pass may require others: where both are listed, the required one has
to come first, and no pass may be listed twice.  `build` checks a list of names against a registry,
from front to back.  Names are texts as a rule, but any value that can be a key will do.
-/

namespace LevelPrep

/-- The passes that static nodes can go through. -/
inductive PassKind where
  | collision
  | renderRemoval
  | lightmap
  | shadow
  | renderLayer
  | material
deriving DecidableEq, Repr

/-- What is registered about a pass. -/
structure PassClass where
  /-- The title in reports. -/
  title : String
  name : Json := .str ""
  /-- The names of the passes that have to come before, where they are listed. -/
  requires : Json := .arr []

namespace PassKind

/-- All passes, in their usual order. -/
def all : List PassKind :=
  [collision, renderRemoval, lightmap, shadow, renderLayer, material]

/-- The name that a pass is listed under. -/
def word : PassKind → String
  | collision => "collision"
  | renderRemoval => "render_removal"
  | lightmap => "lightmap"
  | shadow => "shadow"
  | renderLayer => "render_layer"
  | material => "material"

def ofWord? (word : String) : Option PassKind :=
  all.find? (·.word = word)

/-- The pass listed under a name. -/
def ofName? : Json → Option PassKind
  | .str word => ofWord? word
  | _ => none

def title : PassKind → String
  | collision => "CollisionPass"
  | renderRemoval => "RenderRemovalPass"
  | lightmap => "LightmapPass"
  | shadow => "ShadowPass"
  | renderLayer => "RenderLayerPass"
  | material => "MaterialPass"

/-- Bodies are made from the meshes as imported, and lightmaps only for the meshes that stay; the last
three passes work on the meshes that the lightmap pass has rebuilt. -/
def requires : PassKind → List PassKind
  | collision => []
  | renderRemoval => [collision]
  | lightmap => [collision, renderRemoval]
  | shadow => [lightmap]
  | renderLayer => [lightmap]
  | material => [lightmap]

/-- What is registered about the pass. -/
def toClass (kind : PassKind) : PassClass where
  title := kind.title
  name := .str kind.word
  requires := .arr (kind.requires.map fun other => .str other.word)

end PassKind

/-- A registry of passes. -/
abbrev PassRegistry := Registry PassClass

namespace PassRegistry

/-- Registers a pass under its name, which it has to have. -/
def add (r : PassRegistry) (pass : PassClass) : Except Fault PassRegistry := do
  if !pass.name.isSet then throw (.namelessPass pass.title)
  pass.name.checkKey
  return r.register pass.name pass

/-- The registry of the passes of this library. -/
def builtin : PassRegistry :=
  PassKind.all.foldl (fun r kind => r.register (.str kind.word) kind.toClass) {}

/-- The pass under a name. -/
def find (r : PassRegistry) (name : Json) : Except Fault PassClass := do
  name.checkKey
  match r.get? name with
  | some pass => return pass
  | none => throw (.unknownPass name.display r.shownNames)

/-- The passes among `required` that are listed in `request` but are not in `seen`. -/
def missing (request : Json) (seen required : List Json) : Except Fault (List Json) :=
  required.filterM fun name => do
    if ← name.standsIn request then
      name.checkKey
      return !seen.contains name
    else return false

/-- Checks the names that are left of a request, after those in `seen`. -/
def buildFrom (r : PassRegistry) (request : Json) :
    (seen : List Json) → List Json → Except Fault (List PassClass)
  | _, [] => .ok []
  | seen, name :: rest => do
    name.checkKey
    if seen.contains name then throw (.repeatedPass name.display)
    let pass ← r.find name
    let missing ← missing request seen (← pass.requires.members)
    if !missing.isEmpty then
      throw (.passTooEarly name.display (Json.arr missing).quoted request.display)
    return pass :: (← r.buildFrom request (name :: seen) rest)

/-- The passes that a value lists, if they are listed in an order that all requirements allow.  The
value need not be a list: a text lists its characters, and an object its keys. -/
def build (r : PassRegistry) (request : Json) : Except Fault (List PassClass) := do
  r.buildFrom request [] (← request.members)

end PassRegistry

end LevelPrep
