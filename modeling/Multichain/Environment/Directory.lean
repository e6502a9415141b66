import Multichain.Environment.Basic

/-!
A working directory held in memory, and how a path finds a file in it.
-/

set_option autoImplicit false

namespace Multichain

structure Directory where
  files : List (List String × Bytes)

namespace Directory

def names (path : String) : List String :=
  (path.toList.splitOn '/').map String.ofList

def ofFiles (files : List (String × Bytes)) : Directory :=
  ⟨files.map fun (path, bytes) => (names path, bytes)⟩

def file? (directory : Directory) (path : List String) : Option Bytes :=
  (directory.files.find? (·.1 == path)).map (·.2)

def isFolder (directory : Directory) (path : List String) : Bool :=
  directory.files.any fun (file, _) => path.isPrefixOf file

def walkOutside : List String → ReadFault
  | [] => .isDirectory
  | name :: rest =>
    if name = "" ∨ name = "." ∨ name = ".." then walkOutside rest
    else if 255 < name.utf8ByteSize then .nameTooLong
    else .missing

/-- Follows names from a folder of the working directory. A path may not go through a file. -/
def walk (directory : Directory) (folder : List String) : List String → Except ReadFault Bytes
  | [] => .error .isDirectory
  | name :: rest =>
    if name = "" ∨ name = "." then walk directory folder rest
    else if name = ".." then
      if folder = [] then .error (walkOutside rest)
      else walk directory folder.dropLast rest
    else if 255 < name.utf8ByteSize then .error .nameTooLong
    else
      let path := folder ++ [name]
      match directory.file? path with
      | some bytes => if rest = [] then .ok bytes else .error .notDirectory
      | none => if directory.isFolder path then walk directory path rest else .error .missing

def read (directory : Directory) (path : String) : Except ReadFault Bytes :=
  if path.toList.contains '\x00' then .error .invalidName
  else if path = "" then .error .missing
  else if 4096 ≤ path.utf8ByteSize then .error .nameTooLong
  else if path.toList.head? = some '/' then .error (walkOutside (names path))
  else directory.walk [] (names path)

end Directory

end Multichain
