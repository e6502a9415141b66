import Multichain.Bytes
import Multichain.Text.Basic

/-!
What the program sees of its surroundings: named variables and readable files.
-/

set_option autoImplicit false

namespace Multichain

inductive ReadFault where
  | missing
  | notDirectory
  | isDirectory
  | nameTooLong
  | invalidName
  | notText
  | other (message : String)
  deriving DecidableEq

def ReadFault.message : ReadFault → String
  | .missing => "No such file or directory (os error 2)"
  | .notDirectory => "Not a directory (os error 20)"
  | .isDirectory => "Is a directory (os error 21)"
  | .nameTooLong => "File name too long (os error 36)"
  | .invalidName => "file name contained an unexpected NUL byte"
  | .notText => "stream did not contain valid UTF-8"
  | .other message => message

structure Environment where
  entries : List (String × String)
  read : String → Except ReadFault Bytes

namespace Environment

-- Variables are held as texts `name=value`, of which the first that begins with the name and an
-- equals sign counts.
def value? (environment : Environment) (name : String) : Option String :=
  environment.entries.findSome? fun (entry, value) =>
    (Text.afterStart? (name.toList ++ ['=']) (entry.toList ++ '=' :: value.toList)).map
      String.ofList

def provide (environment : Environment) (name value : String) : Environment :=
  if (environment.value? name).isSome then environment
  else { environment with entries := environment.entries ++ [(name, value)] }

def readText (environment : Environment) (path : String) : Except ReadFault String := do
  match (← environment.read path).text? with
  | some text => return text
  | none => throw .notText

def pathExists (environment : Environment) (path : String) : Bool :=
  match environment.read path with
  | .error .missing | .error .notDirectory | .error .nameTooLong | .error .invalidName => false
  | _ => true

end Environment

end Multichain
