import Tickscript.Load.Files
import Tickscript.Service
import Tickscript.Token.Cursor

/-!
# What can go wrong with a load

The errors of the task loader in section 10.8 of the specification, and their wording. All but the
first two are about one file or one listing.
-/

namespace Tickscript

/-- Why a file, or a whole load, fails. -/
inductive LoadError where
  | relativeDir (dir : String)
  | missingSubdirectory (dir sub : String)
  | unreadable (path : String) (fault : ReadFault)
  | malformedScript (path : String) (cause : SyntaxError)
  | malformedJson (path : String)
  | malformedYaml (path : String)
  | unsupportedExtension (path : String)
  | invalidTaskType (id : String)
  | varTypeMismatch (id name : String) (expected found : VarType)
  | invalidVarValue (id name : String) (type : VarType)
  | service (cause : ServiceError)
deriving Repr, DecidableEq

/-- The wording of an error. -/
def LoadError.message : LoadError → String
  | relativeDir dir => "dir must be an absolute path, got " ++ dir
  | missingSubdirectory dir sub => "directory " ++ dir ++ " must contain subdirectory " ++ sub
  | unreadable path fault => "failed to read " ++ path ++ ": " ++ fault.message
  | malformedScript path cause => "failed to parse " ++ path ++ ": " ++ cause.message
  | malformedJson path => "failed to unmarshal json file " ++ path ++ ": malformed document"
  | malformedYaml path => "failed to unmarshal yaml file " ++ path ++ ": malformed document"
  | unsupportedExtension path => "bad file extension for " ++ path ++ ": must be YAML or JSON"
  | invalidTaskType id => id ++ ": script must read from either stream or batch"
  | varTypeMismatch id name expected found =>
    id ++ ": var " ++ name ++ " is declared as " ++ expected.name ++ " but given as " ++ found.name
  | invalidVarValue id name type =>
    id ++ ": value of var " ++ name ++ " is not a valid " ++ type.name
  | service cause => cause.message

end Tickscript
