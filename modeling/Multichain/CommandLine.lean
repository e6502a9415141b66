import Multichain.Address.Builder
import Multichain.Json.Value
import Multichain.Settings.Config
import Multichain.Settings.LogFilter

/-!
The command: from an asset and a public key to the addresses of the key on the asset's chain.
-/

set_option autoImplicit false

namespace Multichain.CommandLine

open Multichain

inductive Failure where
  | settings (fault : SettingsFault)
  | usage
  | asset (fault : Fault)
  | key (fault : Hex.Fault)
  | derivation (failure : PartialDerivation)
  deriving DecidableEq

namespace Failure

def message : Failure → String
  | .settings fault => fault.message
  | .usage => "usage: ironchain <asset> <public-key-hex>"
  | .asset fault => fault.text
  | .key _ => "public key must be hex encoded"
  | .derivation failure => failure.text

def cause? : Failure → Option String
  | .settings (.unreadable _ fault) => some fault.message
  | .settings (.invalidToml text fault) => some (fault.report text)
  | .settings (.assets fault) => some fault.text
  | .key fault => some fault.message
  | .derivation failure => some failure.cause.text
  | _ => none

def indented (text : String) : String :=
  String.ofList (indent ++ text.toList.flatMap fun char =>
    if char = '\n' then '\n' :: indent else [char])
where
  indent : List Char := [' ', ' ', ' ', ' ']

def report (failure : Failure) : String :=
  let cause :=
    match failure.cause? with
    | some cause => "\n\nCaused by:\n" ++ indented cause
    | none => ""
  "Error: " ++ failure.message ++ cause ++ "\n"

end Failure

structure Outcome where
  status : UInt32
  output : String
  diagnostics : String
  deriving DecidableEq

def checkFilter (environment : Environment) (logging : LogSettings) : Except LogFilter.Fault Unit :=
  let named := (environment.value? "RUST_LOG").filter fun text =>
    match LogFilter.check text with
    | .ok () => true
    | .error _ => false
  match named with
  | some _ => .ok ()
  | none => LogFilter.check logging.level

def logDiagnostics (environment : Environment) (logging : LogSettings) : String :=
  let line (result : Except LogFilter.Fault Unit) : String :=
    match result with
    | .ok () => ""
    | .error fault => "Failed to initialize logging: " ++ fault.message ++ "\n"
  match checkFilter environment logging with
  | .ok () => ""
  | failed => line failed ++ line (checkFilter environment (Settings.defaultLogging environment))

def dropMarks : List Char → List Char
  | '0' :: 'x' :: rest => dropMarks rest
  | chars => chars

def findAsset (environment : Environment) (registry : AssetRegistry) (asset : String) :
    Except Fault AssetConfig :=
  match registry.find? asset "" with
  | some config => .ok config
  | none => AssetConfig.resolved environment { asset := asset }

def derive (environment : Environment) (registry : AssetRegistry) (asset key : String) :
    Except Failure (List PossibleAddress) := do
  let config ← (findAsset environment registry asset).mapError .asset
  let key ← (Hex.decode (String.ofList (dropMarks key.toList))).mapError .key
  let builder ← (AddressBuilder.ofConfig config).mapError .asset
  (builder.deriveAll key).mapError .derivation

def runWith (environment : Environment) (settings : Settings) (arguments : List String) :
    Except Failure (List PossibleAddress) := do
  (settings.validate environment).mapError .settings
  match arguments with
  | [asset, key] =>
    let registry ← (settings.registry environment).mapError .settings
    derive environment registry asset key
  | _ => throw .usage

def addressText (addresses : List PossibleAddress) : String :=
  ((Bytes.text? (PossibleAddress.codec.list.write addresses).pretty).getD "") ++ "\n"

-- The path of the settings is looked up before the file of variables is read.
def run (environment : Environment) (arguments : List String) : Outcome :=
  let path := environment.value? "CONFIG_PATH"
  let environment := DotEnv.load environment
  match Settings.ofEnvironmentAndFile environment path with
  | .error fault => ⟨1, "", Failure.report (.settings fault)⟩
  | .ok settings =>
    let diagnostics := logDiagnostics environment settings.logging
    match runWith environment settings arguments with
    | .ok addresses => ⟨0, addressText addresses, diagnostics⟩
    | .error failure => ⟨1, "", diagnostics ++ failure.report⟩

def settingsFiles (environment : Environment) : List String :=
  DotEnv.fileName :: (environment.value? "CONFIG_PATH").toList

def secretFiles (environment : Environment) : List String :=
  let path := environment.value? "CONFIG_PATH"
  match Settings.ofEnvironmentAndFile (DotEnv.load environment) path with
  | .error _ => []
  | .ok settings => settings.chains.filterMap fun config => AssetSettings.secretFile? config.auth

end Multichain.CommandLine
