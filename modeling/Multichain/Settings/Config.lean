import Multichain.Asset.Config
import Multichain.Settings.DotEnv
import Multichain.Toml.Decode

/-!
The settings of the program: how it logs, and the assets it knows. They come from variables, from a
file of variables, or from a TOML file.
-/

set_option autoImplicit false

namespace Multichain

structure LogSettings where
  level : String
  format : String
  deriving DecidableEq

structure Settings where
  logging : LogSettings
  chains : List AssetConfig

inductive SettingsFault where
  | unreadable (path : String) (fault : ReadFault)
  | invalidToml (text : String) (fault : Toml.Fault)
  | level
  | format
  | assets (fault : Fault)
  deriving DecidableEq

namespace SettingsFault

def message : SettingsFault → String
  | .unreadable path _ => "Failed to read config file: " ++ Text.quoted path
  | .invalidToml _ _ => "Failed to parse config file as TOML"
  | .level =>
    "LOG_LEVEL must be one of: [\"trace\", \"debug\", \"info\", \"warn\", \"error\"]"
  | .format => "LOG_FORMAT must be 'json' or 'text'"
  | .assets _ => "Failed to resolve chain/asset configuration"

def assetFault? : SettingsFault → Option Fault
  | .assets fault => some fault
  | _ => none

end SettingsFault

open Toml.Decoder in
def AssetSettings.decoder : Toml.Decoder AssetSettings := fun span value => do
  let known := fieldNames.map fun name =>
    (name,
      if name = "chain_id" then int64.check
      else if name = "decimals" then uint32.check
      else text.check)
  let fields ← record "struct AssetConfig" known span value
  gather (fun name => fields.withDefault name "" text) (fields.withDefault "chain_id" 0 int64)
    (fields.read? "decimals" uint32)

open Toml.Decoder in
def LogSettings.decoder : Toml.Decoder LogSettings := fun span value => do
  let known := [("level", text.check), ("format", text.check)]
  let fields ← record "struct LoggingConfig" known span value
  return ⟨← fields.required "level" text, ← fields.required "format" text⟩

def AssetConfig.decoder : Toml.Decoder AssetConfig := fun span value =>
  AssetConfig.ofSettings <$> AssetSettings.decoder span value

namespace Settings

def defaultLogging (environment : Environment) : LogSettings where
  level := (environment.value? "LOG_LEVEL").getD "info"
  format := (environment.value? "LOG_FORMAT").getD "text"

def default (environment : Environment) : Settings :=
  ⟨defaultLogging environment, []⟩

open Toml.Decoder in
def decoder (environment : Environment) : Toml.Decoder Settings := fun span value => do
  let logging := LogSettings.decoder
  let chains := AssetConfig.decoder.list
  let known := [("logging", logging.check), ("chains", chains.check)]
  let fields ← record "a table" known span value
  return {
    logging := ← fields.withDefault "logging" (defaultLogging environment) logging
    chains := ← fields.withDefault "chains" [] chains }

def ofFile (environment : Environment) (path : String) : Except SettingsFault Settings := do
  let text ← (environment.readText path).mapError (.unreadable path)
  (Toml.decode (decoder environment) text).mapError (.invalidToml text)

def ofEnvironmentAndFile (environment : Environment) (path : Option String) :
    Except SettingsFault Settings :=
  match path.filter environment.pathExists with
  | some path => ofFile environment path
  | none => .ok (default environment)

def registry (environment : Environment) (settings : Settings) :
    Except SettingsFault AssetRegistry :=
  match AssetRegistry.ofConfigs environment settings.chains with
  | .ok registry => .ok registry
  | .error fault => .error (.assets fault)

def levels : List String :=
  ["trace", "debug", "info", "warn", "error"]

def formats : List String :=
  ["json", "text"]

def validate (environment : Environment) (settings : Settings) : Except SettingsFault Unit := do
  if ¬ levels.any fun level => Text.sameWord level settings.logging.level then throw .level
  if settings.logging.format ∉ formats then throw .format
  let _ ← settings.registry environment

end Settings

end Multichain
