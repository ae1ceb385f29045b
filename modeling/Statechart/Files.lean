import Statechart.Text.Lines

/-! What a path leads to, and a tree of files as a source of such answers. -/
namespace Statechart

inductive Entry where
  | missing
  | directory
  | file (bytes : List UInt8)
deriving DecidableEq

abbrev Files := String → Entry

namespace Files

def isFile (files : Files) (path : String) : Bool :=
  match files path with
  | .file _ => true
  | .missing | .directory => false

inductive ReadFault where
  | missing | directory | notText
deriving DecidableEq, Repr

def readText (files : Files) (path : String) : Except ReadFault String :=
  match files path with
  | .missing => .error .missing
  | .directory => .error .directory
  | .file bytes =>
    match Text.ofBytes? bytes with
    | some text => .ok text
    | none => .error .notText

end Files

/-- A path below a directory. An empty directory is the working directory. -/
def joinPath (directory path : String) : String :=
  if directory = "" || directory.toList.getLast? = some '/' then directory ++ path
  else directory ++ "/" ++ path

def isRelative (path : String) : Bool := path.toList.head? != some '/'

def pathParts (path : String) : List String := (path.toList.splitOn '/').map String.ofList

structure FileTree where
  files : List (List String × List UInt8) := []

namespace FileTree

def ofList (files : List (String × List UInt8)) : FileTree where
  files := files.map fun (path, bytes) =>
    ((pathParts path).filter fun part => part != "" && part != ".", bytes)

def holds (t : FileTree) (directory : List String) : Bool :=
  t.files.any fun f => directory.isPrefixOf f.1 && directory.length < f.1.length

/-- Follows names from a directory. Only a directory can be gone through, and what lies outside the
working directory is not known. -/
def follow (t : FileTree) (directory : List String) : List String → Entry
  | [] => .directory
  | part :: parts =>
    if part = "" || part = "." then t.follow directory parts
    else if part = ".." then
      if directory = [] then .missing else t.follow directory.dropLast parts
    else
      let path := directory ++ [part]
      match t.files.lookup path with
      | some bytes => if parts = [] then .file bytes else .missing
      | none => if t.holds path then t.follow path parts else .missing

def view (t : FileTree) : Files := fun path =>
  if path = "" || !isRelative path then .missing else t.follow [] (pathParts path)

end FileTree
end Statechart
