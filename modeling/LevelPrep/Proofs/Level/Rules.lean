import LevelPrep.Proofs.Level.Replacement
import LevelPrep.Proofs.Pass.Rules

/-!
# A conversion as a function of trees

What a conversion makes of a scene, told without live nodes.  It goes by `LevelRules`: those of the passes, and
what is in the packaged scene that a name is matched with.  Each child of the scene is dealt with on its own
(`LevelRules.childImage`): it is worked on if its name has no match, and refitted if it has one.  Then the marked
trees are left out (`LevelRules.image`).
-/

namespace LevelPrep

variable {R : Type}

/-- The tree with its content replaced: the node itself stays, without its mesh; what was below it is marked, and
behind it stands the new content, which belongs to the level. -/
def Snapshot.refit (level : Json) (content : Branch R) (d : Snapshot Geometry R) : Snapshot Geometry R :=
  Snapshot.Head.node
    { d.head with payload := d.head.payload.mapInstance fun i => { i with mesh := none } }
    (d.children.map Snapshot.queue ++
      [(content.rename (.str (d.head.name.display ++ " (replaced)"))).ownedBy level])

/-- What a conversion goes by. -/
structure LevelRules (R : Type) extends Rules R where
  passes : List PassKind
  /-- What is in the packaged scene that a name is matched with.  There is an answer if the name can be looked
  up and, where it has a match, the packaged scene can be loaded. -/
  content : Json → Option (Option (Branch R))

namespace LevelRules

variable [Zero R] [One R] [Add R] [Mul R]

/-- What a conversion makes of a child of the scene of the given name, before marked trees are left out. -/
def childImage (rules : LevelRules R) (level : Json) (d : Snapshot Geometry R) : Option (Snapshot Geometry R) :=
  (rules.content d.head.name).bind fun found =>
    match found with
    | none => rules.work level rules.passes d
    | some content => some (d.refit level content)

/-- What a conversion makes of a scene. -/
def image (rules : LevelRules R) (d : Snapshot Geometry R) : Option (Snapshot Geometry R) :=
  (d.children.mapM (rules.childImage d.head.name)).map fun children => (d.head.node children).flushed

/-- A conversion leaves everything at the root of a child alone but the payload. -/
theorem head_of_childImage {rules : LevelRules R} {level : Json} {d d' : Snapshot Geometry R}
    (h : rules.childImage level d = some d') : ∃ payload, d'.head = { d.head with payload := payload } := by
  rcases Option.bind_eq_some_iff.1 h with ⟨_ | content, -, hd'⟩
  · exact Rules.head_of_work hd'
  · cases hd'
    exact ⟨_, rfl⟩

end LevelRules

end LevelPrep
