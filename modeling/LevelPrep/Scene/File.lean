import LevelPrep.Disk.Basic
import LevelPrep.Scene.Document
import LevelPrep.Scene.ObjFile
import LevelPrep.Scene.OffFile
import LevelPrep.Text.Lowering

/-!
# Scene files

A scene file is a scene document, or plain geometry, which is read as a scene of meshes: the root is
named after the file without its ending, and a mesh after the file if it has no name of its own.
-/

namespace LevelPrep.SceneFile

/-- The node that shows plain geometry. -/
def meshBranch (name : String) (geometry : Geometry) : Branch Float :=
  .node (.str name) Matrix.identity
    (.meshInstance { mesh := some { name := .str name, surfaces := [{ geometry }] } }) []

/-- The tree of a file with the given content. -/
def fileBranch (path : Path) (content : List (Branch Float)) : Branch Float :=
  .node (.str path.stem) Matrix.identity .plain content

/-- The nodes that show what an OBJ file has in it; points are shown by nothing but their node. -/
def objBranches (path : Path) : ObjFile.Contents → List (Branch Float)
  | .nothing => []
  | .points => [.node (.str path.name) Matrix.identity .plain []]
  | .meshes named => named.map fun (name, geometry) => meshBranch name geometry

/-- The format that a file is read in unless it is a document: what follows the last point of its path,
without regard to case; two endings count as one where archives are concerned. -/
def formatOf (path : Path) : String :=
  let text := Text.lower path.text
  if text.endsWith "tar.gz" then "tar.gz"
  else if text.endsWith "tar.bz2" then "tar.bz2"
  else String.ofList ((Text.splitAt '.' text.toList).getLastD [])

/-- Reads the document in a file. -/
def readDocument (disk : Disk) (path : Path) : List String × Except Fault Document.Contents :=
  match (disk.readText path).bind Json.read with
  | .ok value => Document.decode value
  | .error fault => ([], .error fault)

/-- Reads a file by its format. -/
def readAs (disk : Disk) (path : Path) (format : String) :
    List String × Except Fault (Branch Float) :=
  if Text.lower path.suffix = ".json" then
    let (warnings, contents) := readDocument disk path
    (warnings, contents.map (·.root))
  else if format = "off" then
    ([], do return fileBranch path [meshBranch path.name (← OffFile.read (← disk.readPlain path))])
  else if format = "obj" then
    ([], do
      return fileBranch path (objBranches path (← ObjFile.read path.name (← disk.readPlain path))))
  else ([], .error (.unsupportedFormat format))

/-- Loads a scene file: the warnings that come with it, and the tree in it. -/
def load (disk : Disk) (path : Path) : List String × Except Fault (Branch Float) :=
  match disk.isFile path with
  | .ok true => readAs disk path (formatOf (disk.absolute path))
  | .ok false => ([], .error (.missingScene path.text))
  | .error fault => ([], .error fault)

end LevelPrep.SceneFile
