/-!
# Kinds of attributes

The name of a node can ask for a treatment of the node.  What can be asked for is an attribute kind;
a kind is a flag, or it carries a number in brackets.
-/

namespace LevelPrep

inductive AttributeKind where
  | noCollision
  | convexCollision
  | collisionLayer
  | collisionMask
  | noRender
  | collisionOnly
  | noBake
  | texelMultiplier
  | noShadow
  | renderLayer
deriving DecidableEq, Repr

/-- A number that an attribute carries: a mask of 32 bits or a positive factor. -/
inductive AttributeValue where
  | mask (n : Nat)
  | factor (x : Float)
deriving Repr

namespace AttributeKind

/-- All kinds, in the order they are listed in. -/
def all : List AttributeKind :=
  [noCollision, convexCollision, collisionLayer, collisionMask, noRender, collisionOnly, noBake,
    texelMultiplier, noShadow, renderLayer]

/-- The word for the kind in settings. -/
def word : AttributeKind → String
  | noCollision => "no_collision"
  | convexCollision => "convex_collision"
  | collisionLayer => "collision_layer"
  | collisionMask => "collision_mask"
  | noRender => "no_render"
  | collisionOnly => "collision_only"
  | noBake => "no_bake"
  | texelMultiplier => "texel_multiplier"
  | noShadow => "no_shadow"
  | renderLayer => "render_layer"

def ofWord? (word : String) : Option AttributeKind :=
  all.find? (·.word = word)

/-- The keyword that names use unless the grammar says otherwise. -/
def defaultKeyword : AttributeKind → String
  | noCollision => "NoCol"
  | convexCollision => "ConvexCol"
  | collisionLayer => "Col"
  | collisionMask => "ColMask"
  | noRender => "NoRender"
  | collisionOnly => "OnlyCol"
  | noBake => "NoBake"
  | texelMultiplier => "Texel"
  | noShadow => "NoShadow"
  | renderLayer => "Layer"

/-- The number that stands for one that cannot be read; a flag carries none. -/
def defaultValue? : AttributeKind → Option AttributeValue
  | collisionLayer | collisionMask => some (.mask 0)
  | renderLayer => some (.mask 1)
  | texelMultiplier => some (.factor 1.0)
  | _ => none

/-- Whether the kind carries a number. -/
def hasValue (kind : AttributeKind) : Bool :=
  kind.defaultValue?.isSome

end AttributeKind

end LevelPrep
