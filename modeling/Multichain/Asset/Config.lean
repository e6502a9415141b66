import Multichain.Amount
import Multichain.Asset.Id

/-!
The configuration of an asset, and the configured assets by id. Users write the settings; resolving
them names the asset, finds its chain and fetches the secret that the settings refer to. A registry
takes each id once and lists its assets in ascending order of their ids.
-/

set_option autoImplicit false

namespace Multichain

open Json

structure AssetSettings where
  asset : String := ""
  net : String := ""
  url : String := ""
  -- A reference to a secret: `env:NAME`, `file:PATH`, or the secret itself.
  auth : String := ""
  provider : String := ""
  chainId : Int64 := 0
  chainIdText : String := ""
  chainName : String := ""
  chainPrefix : String := ""
  chainCoin : String := ""
  explorerUrl : String := ""
  chain : String := ""
  contract : String := ""
  decimals : Option UInt32 := none
  name : String := ""
  deriving DecidableEq

structure AssetConfig extends AssetSettings where
  id : AssetId := ⟨""⟩
  authSecret : String := ""
  native : Option NativeAsset := none
  kind : Option AssetKind := none
  deriving DecidableEq

namespace AssetSettings

def fieldNames : List String :=
  ["asset", "net", "url", "auth", "provider", "chain_id", "chain_id_str", "chain_name",
   "chain_prefix", "chain_coin", "explorer_url", "chain", "contract", "decimals", "name"]

def gather {m : Type → Type} [Monad m] (text : String → m String) (chainId : m Int64)
    (decimals : m (Option UInt32)) : m AssetSettings := do
  return {
    asset := ← text "asset"
    net := ← text "net"
    url := ← text "url"
    auth := ← text "auth"
    provider := ← text "provider"
    chainId := ← chainId
    chainIdText := ← text "chain_id_str"
    chainName := ← text "chain_name"
    chainPrefix := ← text "chain_prefix"
    chainCoin := ← text "chain_coin"
    explorerUrl := ← text "explorer_url"
    chain := ← text "chain"
    contract := ← text "contract"
    decimals := ← decimals
    name := ← text "name" }

def codec : Codec AssetSettings where
  write settings :=
    .object
      [("asset", .text settings.asset), ("net", .text settings.net), ("url", .text settings.url),
       ("auth", .text settings.auth), ("provider", .text settings.provider),
       ("chain_id", Codec.int64.write settings.chainId),
       ("chain_id_str", .text settings.chainIdText), ("chain_name", .text settings.chainName),
       ("chain_prefix", .text settings.chainPrefix), ("chain_coin", .text settings.chainCoin),
       ("explorer_url", .text settings.explorerUrl), ("chain", .text settings.chain),
       ("contract", .text settings.contract),
       ("decimals", Codec.uint32.optional.write settings.decimals), ("name", .text settings.name)]
  read depth tree := do
    let fields ← Fields.read fieldNames depth tree
    gather (fun name => fields.withDefault name "" Codec.text)
      (fields.withDefault "chain_id" 0 Codec.int64)
      (fields.withDefault "decimals" none Codec.uint32.optional)

def chainHint (settings : AssetSettings) : String :=
  match NativeAsset.lookup settings.asset with
  | some native => if settings.chain = "" then native.symbol else settings.chain
  | none => settings.chain

def secretFile? (auth : String) : Option String :=
  (Text.afterStart? "file:".toList auth.toList).map String.ofList

def secretVariable? (auth : String) : Option String :=
  (Text.afterStart? "env:".toList auth.toList).map String.ofList

def fetchSecret (environment : Environment) (auth : String) : Except Fault String :=
  match secretVariable? auth, secretFile? auth with
  | some name, _ =>
    match environment.value? name with
    | some secret => .ok secret
    | none => .error (.unsetVariable name)
  | none, some path =>
    match environment.readText path with
    | .ok text => .ok (Text.trim text)
    | .error fault => .error (.unreadableSecret path fault)
  | none, none => .ok auth

def classify (settings : AssetSettings) : Except Fault (NativeAsset × AssetKind) :=
  match AssetId.symbolAndChain settings.asset settings.chainHint with
  | none => .error .unspecifiedAsset
  | some (symbol, chain) =>
    match NativeAsset.lookup chain with
    | none => .error (.unsupportedChain settings.asset chain)
    | some native =>
      if NativeAsset.lookup symbol = some native then .ok (native, .native)
      else if settings.decimals = none then .error (.missingDecimals settings.asset)
      else .ok (native, .token)

end AssetSettings

namespace AssetConfig

def ofSettings (settings : AssetSettings) : AssetConfig :=
  { settings with }

def codec : Codec AssetConfig :=
  AssetSettings.codec.via toAssetSettings fun settings => some (ofSettings settings)

-- The secret comes last: if it cannot be fetched, the id and the chain are known nevertheless.
def resolve (environment : Environment) (config : AssetConfig) :
    AssetConfig × Except Fault Unit :=
  match config.classify with
  | .error fault => (config, .error fault)
  | .ok (native, kind) =>
    let named := { config with
      id := AssetId.canonicalize config.asset config.chainHint
      native := some native
      kind := some kind }
    match AssetSettings.fetchSecret environment config.auth with
    | .error fault => (named, .error fault)
    | .ok secret => ({ named with authSecret := secret }, .ok ())

def resolved (environment : Environment) (config : AssetConfig) : Except Fault AssetConfig :=
  match config.resolve environment with
  | (config, .ok ()) => .ok config
  | (_, .error fault) => .error fault

def nativeAsset (config : AssetConfig) : Except Fault NativeAsset :=
  match config.native with
  | some native => .ok native
  | none => .error (.unresolved config.asset)

def chainType (config : AssetConfig) : ChainType :=
  match config.native with
  | some native => native.chainType
  | none => .unknown

def isToken (config : AssetConfig) : Bool :=
  config.kind = some .token

def testnets : List String :=
  ["testnet", "devnet", "regtest", "signet"]

def isTestnet (config : AssetConfig) : Bool :=
  testnets.any fun word => Text.sameWord word config.net

def places (config : AssetConfig) : UInt32 :=
  match config.decimals, config.kind, config.native with
  | some decimals, _, _ => decimals
  | none, some .native, some native => native.defaultDecimals
  | none, _, _ => 0

def line (config : AssetConfig) : String :=
  "net: " ++ config.net ++ ", url: " ++ config.url ++ ", auth: " ++ config.auth ++
    ", provider: " ++ config.provider

def optionText (value : Option String) : String :=
  match value with
  | some text => "Some(" ++ text ++ ")"
  | none => "None"

def redacted : String := "<redacted>"

def shownMembers (config : AssetConfig) : List (String × String) :=
  [("id", "AssetId(" ++ Text.quoted config.id.text ++ ")"),
   ("asset", Text.quoted config.asset), ("chain", Text.quoted config.chain),
   ("net", Text.quoted config.net), ("url", Text.quoted config.url),
   ("auth", Text.quoted config.auth), ("auth_secret", Text.quoted redacted),
   ("provider", Text.quoted config.provider), ("chain_id", Text.integer config.chainId.toInt),
   ("chain_prefix", Text.quoted config.chainPrefix),
   ("chain_coin", Text.quoted config.chainCoin), ("contract", Text.quoted config.contract),
   ("decimals", optionText (config.decimals.map fun count => Text.natural count.toNat)),
   ("native_asset", optionText (config.native.map NativeAsset.label)),
   ("asset_type", optionText (config.kind.map AssetKind.label))]

def dump (config : AssetConfig) : String :=
  "AssetConfig \x7b " ++
    ", ".intercalate (config.shownMembers.map fun (name, text) => name ++ ": " ++ text) ++ " \x7d"

end AssetConfig

structure AssetRegistry where
  assets : List AssetConfig

namespace AssetRegistry

def empty : AssetRegistry := ⟨[]⟩

def size (registry : AssetRegistry) : Nat :=
  registry.assets.length

def isEmpty (registry : AssetRegistry) : Bool :=
  registry.assets.isEmpty

def get? (registry : AssetRegistry) (id : AssetId) : Option AssetConfig :=
  registry.assets.find? fun config => config.id = id

def find? (registry : AssetRegistry) (asset hint : String) : Option AssetConfig :=
  registry.get? (AssetId.canonicalize asset hint)

def insertInOrder (config : AssetConfig) : List AssetConfig → List AssetConfig
  | [] => [config]
  | other :: rest =>
    if config.id.text < other.id.text then config :: other :: rest
    else other :: insertInOrder config rest

def insert (registry : AssetRegistry) (config : AssetConfig) : AssetRegistry :=
  ⟨insertInOrder config registry.assets⟩

def register (environment : Environment) (registry : AssetRegistry) (config : AssetConfig) :
    Except Fault AssetRegistry := do
  let config ← config.resolved environment
  if (registry.get? config.id).isSome then throw (.duplicateId config.id.text)
  return registry.insert config

def ofConfigs (environment : Environment) (configs : List AssetConfig) :
    Except Fault AssetRegistry :=
  configs.foldlM (register environment) empty

end AssetRegistry

end Multichain
