import Assay.Text.Basic

/-!
# File trees

A directory with all that is in it, and how a path is followed from it.  Paths are
relative to the tree; what lies outside the tree does not exist.
-/

namespace Assay

/-- A file or a directory. -/
inductive FileTree where
  | file (bytes : List UInt8)
  | directory (entries : List (String × FileTree))
deriving Inhabited

/-- Why a file cannot be read. -/
inductive ReadFault where
  | notFound
  | notPermitted
  | notDirectory
  | isDirectory
  | nameTooLong
  | other (message : String)
deriving DecidableEq

/-- The wording of a read fault. -/
def ReadFault.message : ReadFault → String
  | notFound => "No such file or directory (os error 2)"
  | notPermitted => "Permission denied (os error 13)"
  | notDirectory => "Not a directory (os error 20)"
  | isDirectory => "Is a directory (os error 21)"
  | nameTooLong => "File name too long (os error 36)"
  | other message => message

/-- The file system as a program sees it. -/
structure Files (m : Type → Type) where
  /-- The bytes of the file at a path. -/
  read : String → m (Except ReadFault (List UInt8))
  /-- The names in the directory at a path, or why they cannot be read; nothing if there is no
  directory. -/
  names : String → m (Option (Except ReadFault (List String)))
  /-- Whether there is something at a path. -/
  present : String → m Bool

namespace FileTree

/-- Follows the components of a path from the top of a stack of nested directories. -/
def follow : List FileTree → List String → Except ReadFault FileTree
  | [], _ => .error .notFound
  | t :: _, [] => .ok t
  | t :: outer, name :: rest =>
    match t with
    | file _ => .error .notDirectory
    | directory entries =>
      if name = "" ∨ name = "." then follow (t :: outer) rest
      else if name = ".." then follow outer rest
      else if 255 < name.utf8ByteSize then .error .nameTooLong
      else match entries.lookup name with
        | none => .error .notFound
        | some u => follow (u :: t :: outer) rest

/-- What is at a path. -/
def at? (tree : FileTree) (path : String) : Except ReadFault FileTree :=
  match path.toList with
  | [] => .error .notFound
  | '/' :: rest => if rest.all (· = '/') then .ok (directory []) else .error .notFound
  | cs => follow [tree] ((cs.splitOn '/').map String.ofList)

/-- The bytes of the file at a path. -/
def read (tree : FileTree) (path : String) : Except ReadFault (List UInt8) :=
  match tree.at? path with
  | .ok (file bytes) => .ok bytes
  | .ok (directory _) => .error .isDirectory
  | .error fault => .error fault

/-- The names in the directory at a path, which can always be read. -/
def names (tree : FileTree) (path : String) : Option (Except ReadFault (List String)) :=
  match tree.at? path with
  | .ok (directory entries) => some (.ok (entries.map Prod.fst))
  | _ => none

/-- A tree as a file system. -/
def files (tree : FileTree) : Files Id where
  read := tree.read
  names := tree.names
  present path := (tree.at? path).isOk

/-- Puts a file into a tree, with the directories on its way. -/
def insert (tree : FileTree) (bytes : List UInt8) : List String → FileTree
  | [] => tree
  | [name] =>
    match tree with
    | file b => file b
    | directory entries =>
      if name = "" then tree
      else directory (entries.filter (·.1 ≠ name) ++ [(name, file bytes)])
  | name :: rest =>
    match tree with
    | file b => file b
    | directory entries =>
      if name = "" ∨ name = "." then insert tree bytes rest
      else
        let inner := (entries.lookup name).getD (directory [])
        directory (entries.filter (·.1 ≠ name) ++ [(name, insert inner bytes rest)])

/-- Puts a file into a tree at a path.  A path that ends with a slash makes directories
only. -/
def put (tree : FileTree) (path : String) (bytes : List UInt8) : FileTree :=
  tree.insert bytes ((path.toList.splitOn '/').map String.ofList)

end FileTree

end Assay
