import Multichain.CommandLine

/-!
The program: fetches its surroundings, runs the command on them, and writes what the command says.
-/

set_option autoImplicit false

namespace Multichain.Main

open Multichain

def readFault : IO.Error → ReadFault
  | .noFileOrDirectory _ _ _ => .missing
  | .inappropriateType _ code _ => if code = 21 then .isDirectory else .notDirectory
  | .invalidArgument _ code _ => if code = 22 then .invalidName else .nameTooLong
  | .permissionDenied _ _ _ => .other "Permission denied (os error 13)"
  | failure => .other (toString failure)

def readFile (path : String) : IO (String × Except ReadFault Bytes) := do
  try
    let bytes ← IO.FS.readBinFile path
    return (path, .ok bytes.toList)
  catch failure =>
    return (path, .error (readFault failure))

def splitEntries (current : Bytes) : Bytes → List Bytes
  | [] => []
  | byte :: rest =>
    if byte = 0 then current :: splitEntries [] rest else splitEntries (current ++ [byte]) rest

def readVariable (entry : Bytes) : Option (String × String) := do
  let name ← Bytes.text? (entry.takeWhile (· ≠ 61))
  let value ← Bytes.text? ((entry.dropWhile (· ≠ 61)).drop 1)
  return (name, value)

def withFiles (entries : List (String × String))
    (files : List (String × Except ReadFault Bytes)) : Environment where
  entries := entries
  read path := ((files.find? (·.1 == path)).map (·.2)).getD (.error .missing)

def readAll (paths : List String) : IO (List (String × Except ReadFault Bytes)) :=
  paths.mapM readFile

def surroundings : IO Environment := do
  let block ← IO.FS.readBinFile "/proc/self/environ"
  let entries := (splitEntries [] block.toList).filterMap readVariable
  let files ← readAll (CommandLine.settingsFiles (withFiles entries []))
  let secrets ← readAll (CommandLine.secretFiles (withFiles entries files))
  return withFiles entries (files ++ secrets)

end Multichain.Main

def main (arguments : List String) : IO UInt32 := do
  let outcome := Multichain.CommandLine.run (← Multichain.Main.surroundings) arguments
  IO.print outcome.output
  IO.eprint outcome.diagnostics
  return outcome.status
