import Assay.Command.FileTree
import Assay.Schema.Text

/-!
# Schema files

The schema in a file.
-/

namespace Assay.Command

/-- Why a file gives no schema. -/
inductive SchemaFault where
  | unreadable (path : String) (fault : ReadFault)
  | malformed (fault : Json.Fault)

namespace SchemaFault

/-- The wording of a fault. -/
def message : SchemaFault → String
  | unreadable path fault => "failed to read schema file " ++ path ++ ": " ++ fault.message
  | malformed fault => Schema.Document.malformed fault

/-- The wording of a fault, followed by its cause if it has one. -/
def chain (f : SchemaFault) : String :=
  match f with
  | unreadable _ fault => f.message ++ ": " ++ fault.message
  | malformed _ => f.message

end SchemaFault

/-- The schema in the file at a path. -/
def readSchema {m : Type → Type} [Monad m] (files : Files m) (path : String) :
    ExceptT SchemaFault m Schema := do
  match ← files.read path with
  | .error fault => throw (.unreadable path fault)
  | .ok bytes =>
    match Schema.Document.read bytes with
    | .error fault => throw (.malformed fault)
    | .ok s => return s

end Assay.Command
