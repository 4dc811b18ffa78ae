import LevelPrep.Main
import LevelPrep.Proofs.Attribute.Bracketed
import LevelPrep.Proofs.Attribute.Overlaps
import LevelPrep.Proofs.Attribute.Refusals
import LevelPrep.Proofs.Attribute.Written
import LevelPrep.Proofs.Batch.Failures
import LevelPrep.Proofs.Batch.Nesting
import LevelPrep.Proofs.Batch.Results
import LevelPrep.Proofs.Catalog.Histories
import LevelPrep.Proofs.Catalog.Listing
import LevelPrep.Proofs.Catalog.Ranking
import LevelPrep.Proofs.Level.Belonging
import LevelPrep.Proofs.Level.Failing
import LevelPrep.Proofs.Level.Ordering
import LevelPrep.Proofs.Level.Reimporting
import LevelPrep.Proofs.Level.Rendering
import LevelPrep.Proofs.Level.Saving
import LevelPrep.Proofs.Level.Standing
import LevelPrep.Proofs.Mesh.Charting
import LevelPrep.Proofs.Mesh.Parting
import LevelPrep.Proofs.Pass.Accepting
import LevelPrep.Proofs.Pass.Layouts
import LevelPrep.Proofs.Pass.Rematching
import LevelPrep.Proofs.Pass.Solids
import LevelPrep.Proofs.Scene.Climbing
import LevelPrep.Proofs.Scene.Editing
import LevelPrep.Proofs.Scene.Felling
import LevelPrep.Proofs.Scene.Framing
import LevelPrep.Proofs.Scene.Naming
import LevelPrep.Proofs.Scene.Walking
