import LevelPrep.Json.Basic

/-!
# What can go wrong

Every operation that can fail says so with a `Fault`, which names the cause and carries what the
report needs; `Fault.message` words the report.  A `kind` is the word for the kind of the value at
fault, see `Json.kindWord`.
-/

namespace LevelPrep

inductive Fault where
  -- Faults of a value
  /-- A value is of a kind that the operation is not made for. -/
  | unsuitable
  /-- A value is of the right kind but cannot be read. -/
  | malformed
  /-- A value that has no members is gone through. -/
  | noMembers (kind : String)
  /-- Something is looked for in a value that has no members. -/
  | noContainer (kind : String)
  /-- A value other than a text is looked for in a text. -/
  | noPartOfText (kind : String)
  /-- A list or an object is to be a key. -/
  | noKey (kind : String)
  /-- A value is to be read as an integer that is none and cannot be made one. -/
  | noInteger (kind : String)
  /-- A value is to be read as a number that is none and cannot be made one. -/
  | noNumber (kind : String)
  /-- A value that has no size is asked for its size. -/
  | noSize (kind : String)
  /-- Fewer values come than are needed. -/
  | tooFew (needed found : Nat)
  /-- A value other than an object is asked for a field. -/
  | noFields (kind : String)
  /-- A value other than a text is to be a path. -/
  | noPath (kind : String)
  /-- A value other than a text is to be the rest of a path. -/
  | noPathEnd (kind : String)
  /-- A value other than a text is to be read as a name with attributes. -/
  | noName (kind : String)
  /-- A text is no number. -/
  | notNumber (shown : String)
  /-- A text is no integer. -/
  | notInteger (shown : String)
  /-- An integer has too many digits. -/
  | longInteger (digits : Nat)
  /-- An infinite number is to be an integer. -/
  | infiniteInteger
  /-- Something that is no number is to be an integer. -/
  | undefinedInteger
  /-- An integer is too large for a double. -/
  | tooLargeForDouble
  /-- An integer does not fit into 64 bits. -/
  | tooLargeForWord
  /-- Rows differ in size: the sizes that all of them agree on. -/
  | uneven (sizes : List Nat)
  /-- Lists are nested too deep. -/
  | deepNesting
  /-- Numbers cannot be put into rows: how many there are, and what they are to fill. -/
  | wrongCount (count : Nat) (rows : String)
  /-- A value is not among the words that a setting has. -/
  | unknownWord (shown setting : String)
  /-- A value of the given kind is asked for something that it does not have. -/
  | noSuchMember (kind member : String)
  /-- An index lies outside of its list. -/
  | outOfRange
  /-- A required field is missing. -/
  | missingField (name : String)
  -- Faults of attribute grammars
  /-- A delimiter of a grammar is not a single character. -/
  | longDelimiter (role shown : String)
  /-- A keyword is given to a kind of attribute that does not exist. -/
  | unknownAttribute (shown : String) (available : List String)
  /-- An attribute is given the empty keyword. -/
  | emptyKeyword (kind : String)
  -- Faults of files
  /-- A text file is not valid UTF-8: the bytes that are wrong, where they begin, and why. -/
  | notText (bytes : List Nat) (place : Nat) (reason : String)
  /-- A document is not JSON: what is wrong and before which character. -/
  | notJson (reason : String) (line column offset : Nat)
  /-- Lists or objects, as `shown` says, are nested too deep in a document. -/
  | deepDocument (shown : String)
  /-- A file is in a format that no reader knows. -/
  | unsupportedFormat (ending : String)
  /-- A file is to be written in a format that no writer knows. -/
  | unsupportedExport (ending : String)
  /-- A path has the character of number zero in it. -/
  | zeroInPath
  /-- A path, or a part of it, is too long. -/
  | longPath (path : String)
  /-- A file that is to be opened, or the directory it is to be created in, does not exist. -/
  | noSuchFile (path : String)
  /-- A directory stands where a file is to be written. -/
  | isDirectory (path : String)
  /-- Something stands where a directory is to be made. -/
  | fileExists (path : String)
  /-- A file stands where a directory is to be passed through. -/
  | notDirectory (path : String)
  /-- The home directory of an unknown user is asked for. -/
  | unknownHome
  /-- A scene file does not exist. -/
  | missingScene (path : String)
  /-- A material file does not exist. -/
  | missingMaterial (path : String)
  /-- The directory of a catalog does not exist. -/
  | missingCatalogDirectory (path : String)
  /-- The directory of the scenes to import does not exist. -/
  | missingInputDirectory (path : String)
  /-- A file pattern is absolute. -/
  | absolutePattern
  -- Faults of scene documents
  /-- Something other than an object is to be read as a scene document. -/
  | notDocument (shown : String)
  /-- A document is not marked as a scene tree. -/
  | wrongFormat (expected : String)
  /-- A scene document has no root. -/
  | missingRoot
  /-- A node is of a type that does not exist. -/
  | unknownNodeType (shown : String) (available : List String)
  /-- A collision shape is of a type that does not exist. -/
  | unknownShape (shown : String)
  -- Faults of scene graphs
  /-- A node that has a parent is to be added to another. -/
  | alreadyHasParent (child parent : String)
  /-- A node is to be added to itself. -/
  | ownChild (node : String)
  /-- A node is not among the children it is to be removed from. -/
  | notChild
  /-- A node does not lie below the node that its place is asked relative to. -/
  | notAncestor (ancestor node : String)
  -- Faults of geometry
  /-- A mesh node without a mesh is to get a collision shape. -/
  | noMesh (node : String)
  /-- A mesh without surfaces is to get a convex shape. -/
  | noSurfaces (mesh : String)
  /-- A corner of a triangle is not among the vertices. -/
  | noVertex (index : Int) (count : Nat)
  /-- A convex shape is to be made around no points at all. -/
  | noPoints
  /-- A point of a convex shape has a coordinate that is no number. -/
  | undefinedPoint
  /-- The points of a convex shape are too few. -/
  | fewPoints (count : Nat)
  /-- The points of a convex shape take no room. -/
  | flatHull
  /-- A texel is not larger than zero. -/
  | texelSize (shown : String)
  /-- A scene without any geometry is to be exported. -/
  | emptyExport
  /-- A scene without any node below its base is to be turned upright. -/
  | nothingBelowBase (base : String)
  /-- A matrix that is nearly a rigid motion is not near the rigid motion it is taken for. -/
  | notRigid
  -- Faults of settings
  /-- A section and something else stand in the same place of two configurations. -/
  | unlikeSections
  /-- A reference in a configuration cannot be read. -/
  | unreadableReference
  /-- A reference leads to nothing. -/
  | danglingReference
  /-- A reference leads to a value that is still to be given. -/
  | referenceToMissing
  /-- A reference cannot be resolved. -/
  | unresolvedReference
  /-- A reference asks for a source of values that does not exist. -/
  | unknownSource
  /-- A value is asked for that is still to be given. -/
  | missingValue
  /-- A section is asked for a field that it does not have. -/
  | noSectionField
  /-- A part of a configuration is asked for something that it does not have. -/
  | noSectionMember
  /-- The base texel is not larger than zero. -/
  | baseTexelSize (shown : String)
  /-- A catalog of an unknown kind is configured. -/
  | unknownCatalog (shown available : String)
  /-- A catalog is needed that is not configured. -/
  | catalogNotConfigured (name : String)
  /-- A pass is asked for that does not exist. -/
  | unknownPass (shown available : String)
  /-- A pass is listed twice. -/
  | repeatedPass (name : String)
  /-- A pass is listed before passes that it requires. -/
  | passTooEarly (name missing order : String)
  /-- A pass without a name is registered. -/
  | namelessPass (title : String)
  /-- A level is asked for that does not exist. -/
  | unknownLevel (shown : String)
deriving Repr, DecidableEq

namespace Fault

/-- Sizes between parentheses; a single one is followed by a comma. -/
def sizesText : List Nat → String
  | [size] => "(" ++ toString size ++ ",)"
  | sizes => "(" ++ ", ".intercalate (sizes.map toString) ++ ")"

/-- The report of a fault. -/
def message : Fault → String
  | unsuitable => "a value is of the wrong kind"
  | malformed => "a value cannot be read"
  | noMembers kind => "'" ++ kind ++ "' object is not iterable"
  | noContainer kind => "argument of type '" ++ kind ++ "' is not iterable"
  | noPartOfText kind => "'in <string>' requires string as left operand, not " ++ kind
  | noKey kind => "unhashable type: '" ++ kind ++ "'"
  | noInteger kind =>
    "int() argument must be a string, a bytes-like object or a real number, not '" ++ kind ++ "'"
  | noNumber kind => "float() argument must be a string or a real number, not '" ++ kind ++ "'"
  | noSize kind => "object of type '" ++ kind ++ "' has no len()"
  | tooFew needed found =>
    "not enough values to unpack (expected " ++ toString needed ++ ", got " ++ toString found ++ ")"
  | noFields kind =>
    if kind = "str" then "string indices must be integers, not 'str'"
    else if kind = "list" then "list indices must be integers or slices, not str"
    else "'" ++ kind ++ "' object is not subscriptable"
  | noPath kind => "expected str, bytes or os.PathLike object, not " ++ kind
  | noPathEnd kind => "unsupported operand type(s) for /: 'PosixPath' and '" ++ kind ++ "'"
  | noName kind => "expected string or bytes-like object, got '" ++ kind ++ "'"
  | notNumber shown => "could not convert string to float: " ++ shown
  | notInteger shown =>
    "invalid literal for int() with base 10: " ++ String.ofList (shown.toList.take 200)
  | longInteger digits =>
    "Exceeds the limit (4300 digits) for integer string conversion: value has " ++ toString digits ++
      " digits; use sys.set_int_max_str_digits() to increase the limit"
  | infiniteInteger => "cannot convert float infinity to integer"
  | undefinedInteger => "cannot convert float NaN to integer"
  | tooLargeForDouble => "int too large to convert to float"
  | tooLargeForWord => "Python int too large to convert to C long"
  | uneven sizes =>
    "setting an array element with a sequence. The requested array has an inhomogeneous shape after " ++
      toString sizes.length ++ " dimensions. The detected shape was " ++ sizesText sizes ++
      " + inhomogeneous part."
  | deepNesting =>
    "setting an array element with a sequence. The requested array would exceed the maximum number " ++
      "of dimension of 64."
  | wrongCount count rows =>
    "cannot reshape array of size " ++ toString count ++ " into shape " ++ rows
  | unknownWord shown setting => shown ++ " is not a valid " ++ setting
  | noSuchMember kind member => "'" ++ kind ++ "' object has no attribute '" ++ member ++ "'"
  | outOfRange => "list index out of range"
  | missingField name => Text.quoted name
  | longDelimiter role shown =>
    "Grammar " ++ role ++ " must be a single character, got '" ++ shown ++ "'."
  | unknownAttribute shown available =>
    "Unknown attribute kind: " ++ shown ++ ". Available kinds: " ++ Json.displayWords available
  | emptyKeyword kind => "Attribute kind '" ++ kind ++ "' has an empty keyword."
  | notText bytes place reason =>
    "'utf-8' codec can't decode " ++
      (match bytes with
      | [byte] => "byte 0x" ++ String.ofList (Text.hexDigits 2 byte) ++ " in position " ++ toString place
      | _ => "bytes in position " ++ toString place ++ "-" ++ toString (place + bytes.length - 1)) ++
      ": " ++ reason
  | notJson reason line column offset =>
    reason ++ ": line " ++ toString line ++ " column " ++ toString column ++ " (char " ++
      toString offset ++ ")"
  | deepDocument shown =>
    "maximum recursion depth exceeded while decoding a JSON " ++ shown ++ " from a unicode string"
  | unsupportedFormat ending => "file_type '" ++ ending ++ "' not supported"
  | unsupportedExport ending => "unsupported export format: " ++ ending
  | zeroInPath => "embedded null byte"
  | longPath path => "[Errno 36] File name too long: " ++ Text.quoted path
  | noSuchFile path => "[Errno 2] No such file or directory: " ++ Text.quoted path
  | isDirectory path => "[Errno 21] Is a directory: " ++ Text.quoted path
  | fileExists path => "[Errno 17] File exists: " ++ Text.quoted path
  | notDirectory path => "[Errno 20] Not a directory: " ++ Text.quoted path
  | unknownHome => "Could not determine home directory."
  | missingScene path => "Scene file '" ++ path ++ "' is missing."
  | missingMaterial path => "Material file '" ++ path ++ "' is missing."
  | missingCatalogDirectory path => "Catalog directory '" ++ path ++ "' is missing."
  | missingInputDirectory path => "Input directory '" ++ path ++ "' is missing."
  | absolutePattern => "Non-relative patterns are unsupported"
  | notDocument shown => "Cannot load a scene tree from " ++ shown ++ "."
  | wrongFormat expected => "The format of the dictionary is not '" ++ expected ++ "'."
  | missingRoot => "The dictionary does not contain a 'root' key."
  | unknownNodeType shown available =>
    "Unknown node type: " ++ shown ++ ". Available types: " ++ Json.displayWords available
  | unknownShape shown => "Unknown collision shape type: " ++ shown
  | alreadyHasParent child parent =>
    "Node '" ++ child ++ "' already has parent '" ++ parent ++ "'."
  | ownChild node => "Node '" ++ node ++ "' cannot be its own child."
  | notChild => "the node is not among the children"
  | notAncestor ancestor node =>
    "Node '" ++ ancestor ++ "' is not an ancestor of '" ++ node ++ "'."
  | noMesh node => "Cannot create collision for '" ++ node ++ "': it has no mesh."
  | noSurfaces mesh =>
    "Cannot create a convex shape for mesh '" ++ mesh ++ "' without surfaces."
  | noVertex index count =>
    "index " ++ toString index ++ " is out of bounds for axis 0 with size " ++ toString count
  | noPoints => "No points given"
  | undefinedPoint => "Points cannot contain NaN"
  | fewPoints count =>
    "QH6214 qhull input error: not enough points(" ++ toString count ++
      ") to construct initial simplex (need 4)"
  | flatHull => "the points of a hull take no room"
  | texelSize shown => "Texel size must be positive, got " ++ shown ++ "."
  | emptyExport => "Can't export empty scenes!"
  | nothingBelowBase base => Text.quoted base
  | notRigid => ""
  | unlikeSections => "a section and something else stand in one place"
  | unreadableReference => "a reference cannot be read"
  | danglingReference => "a reference leads to nothing"
  | referenceToMissing => "a reference leads to a value that is still to be given"
  | unresolvedReference => "a reference cannot be resolved"
  | unknownSource => "a reference asks for a source that does not exist"
  | missingValue => "a value is still to be given"
  | noSectionField => "a section does not have a field"
  | noSectionMember => "a part of a configuration does not have a member"
  | baseTexelSize shown => "Base texel size must be positive, got " ++ shown ++ "."
  | unknownCatalog shown available =>
    "Unknown catalog: " ++ shown ++ ". Available catalogs: " ++ available
  | catalogNotConfigured name => "Catalog '" ++ name ++ "' not configured."
  | unknownPass shown available =>
    "Unknown pass: " ++ shown ++ ". Available passes: " ++ available
  | repeatedPass name => "Pass '" ++ name ++ "' is listed more than once."
  | passTooEarly name missing order =>
    "Pass '" ++ name ++ "' must run after " ++ missing ++ ", got order " ++ order ++ "."
  | namelessPass title => "Pass class " ++ title ++ " has no name."
  | unknownLevel shown => "there is no level " ++ shown

/-- The report of a fault in a log line, where the report of a failed look-up by name is quoted. -/
def logText (fault : Fault) : String :=
  match fault with
  | unknownCatalog .. | unknownPass .. => Text.quoted fault.message
  | _ => fault.message

end Fault

end LevelPrep
