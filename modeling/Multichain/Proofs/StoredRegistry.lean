import Mathlib
import Multichain.Proofs.RegistryRun
import Multichain.Proofs.StoredForms

/-!
Registries that are written out and read back. Only settings are written, but an entry is what its
own settings are resolved to, so that nothing is lost. Main statement: `registry_restored`.
-/

set_option autoImplicit false

namespace Multichain

namespace AssetConfig

def Recoverable (environment : Environment) (entry : AssetConfig) : Prop :=
  entry.stripped.resolved environment = .ok entry

theorem recoverable_of_resolved (environment : Environment) (config entry : AssetConfig)
    (resolved : config.resolved environment = .ok entry) : entry.Recoverable environment := by
  rw [resolved_eq_ok_iff, resolve_eq_ok_iff] at resolved
  obtain ⟨native, kind, secret, classified, fetched, rfl⟩ := resolved
  rw [Recoverable, resolved_eq_ok_iff, resolve_eq_ok_iff]
  exact ⟨native, kind, secret, classified, fetched, rfl⟩

end AssetConfig

namespace AssetRegistry

theorem recoverable_run (environment : Environment) (configs : List AssetConfig) :
    ∀ entry ∈ (empty.run (configs.map (Registration.mk environment))).1.assets,
      entry.Recoverable environment := by
  intro entry member
  cases mem_run empty _ entry member with
  | inl held => cases held
  | inr brought =>
    obtain ⟨call, listed, resolved⟩ := brought
    obtain ⟨config, -, rfl⟩ := List.mem_map.mp listed
    exact AssetConfig.recoverable_of_resolved environment config entry resolved

theorem exists_foldlM_register (environment : Environment) (registry : AssetRegistry)
    (configs entries : List AssetConfig) (ascending : Ascending registry.assets)
    (each : List.Forall₂ (fun config entry => config.resolved environment = .ok entry)
      configs entries)
    (distinct : ((registry.assets ++ entries).map AssetConfig.id).Nodup) :
    ∃ last, configs.foldlM (register environment) registry = .ok last ∧ Ascending last.assets ∧
      last.assets.Perm (registry.assets ++ entries) := by
  induction each generalizing registry with
  | nil =>
    refine ⟨registry, rfl, ascending, ?_⟩
    rw [List.append_nil]
  | @cons config entry rest others resolved _ ih =>
    have free : ∀ other ∈ registry.assets, other.id ≠ entry.id := by
      intro other member
      rw [List.map_append, List.nodup_append] at distinct
      exact distinct.2.2 other.id (List.mem_map_of_mem member) entry.id (by simp)
    have moved : ((registry.insert entry).assets ++ others).Perm
        (registry.assets ++ entry :: others) :=
      ((insertInOrder_perm entry registry.assets).append_right others).trans List.perm_middle.symm
    have accepted : register environment registry config = .ok (registry.insert entry) :=
      (register_eq_ok_iff ..).mpr ⟨entry, resolved, (get?_eq_none_iff ..).mpr free, rfl⟩
    obtain ⟨last, folded, ordered, same⟩ := ih (registry.insert entry)
      (insertInOrder_ascending entry registry.assets ascending free)
      ((moved.map AssetConfig.id).nodup_iff.mpr distinct)
    refine ⟨last, ?_, ordered, same.trans moved⟩
    rw [List.foldlM_cons, accepted]
    exact folded

theorem ofConfigs_restored (environment : Environment) (registry : AssetRegistry)
    (order : List AssetConfig) (ascending : Ascending registry.assets)
    (held : ∀ entry ∈ registry.assets, entry.Recoverable environment)
    (same : order.Perm (registry.assets.map AssetConfig.stripped)) :
    ofConfigs environment order = .ok registry := by
  have own : List.Forall₂ (fun config entry => config.resolved environment = .ok entry)
      (registry.assets.map AssetConfig.stripped) registry.assets := by
    rw [List.forall₂_map_left_iff, List.forall₂_same]
    exact held
  obtain ⟨entries, each, shuffled⟩ := List.perm_comp_forall₂ same own
  have distinct : (entries.map AssetConfig.id).Nodup :=
    (shuffled.map AssetConfig.id).nodup_iff.mpr (distinct_ids _ ascending)
  obtain ⟨last, folded, ordered, kept⟩ :=
    exists_foldlM_register environment empty order entries tidy_empty.ascending each distinct
  -- what is listed by id can be listed in one order only
  have listed : last.assets = registry.assets := by
    have kept : last.assets.Perm entries := kept
    calc
      last.assets = sortById entries := (sortById_of_perm _ _ ordered kept.symm).symm
      _ = registry.assets := sortById_of_perm _ _ ascending shuffled
  rw [ofConfigs, folded]
  exact congrArg Except.ok (congrArg AssetRegistry.mk listed)

theorem registry_restored (environment : Environment) (configs : List AssetConfig) :
    let registry := (empty.run (configs.map (Registration.mk environment))).1
    ∃ read,
      (registry.assets.mapM fun config =>
        AssetConfig.codec.decode (AssetConfig.codec.encode config)) = some read ∧
      AssetConfig.codec.list.decode (AssetConfig.codec.list.encode registry.assets) = some read ∧
      ∀ order, order.Perm read → ∃ again, ofConfigs environment order = .ok again ∧
        again.size = registry.size ∧ ∀ id, again.get? id = registry.get? id := by
  intro registry
  have tidy : registry.Tidy := tidy_run empty _ tidy_empty
  have held : ∀ entry ∈ registry.assets, entry.Recoverable environment :=
    recoverable_run environment configs
  refine ⟨registry.assets.map AssetConfig.stripped, ?_,
    AssetConfig.decode_encode_configs registry.assets, ?_⟩
  · rw [Outcome.mapM_eq_some_iff, List.map_map]
    exact List.map_congr_left fun config _ => AssetConfig.decode_encode_config config
  · intro order same
    have restored := ofConfigs_restored environment registry order tidy.ascending held same
    exact ⟨registry, restored, rfl, fun id => rfl⟩

def keyed : Environment :=
  ⟨[("KEY", "s3cret")], fun _ => .error .missing⟩

def keyedUsdc : AssetConfig :=
  { asset := "usdc", chain := "Sol", decimals := some 6, auth := "env:KEY" }

theorem secret_restored :
    let registry := (empty.run ([{ asset := "ETH" }, keyedUsdc].map (Registration.mk keyed))).1
    ∃ read again,
      AssetConfig.codec.list.decode (AssetConfig.codec.list.encode registry.assets) = some read ∧
      ofConfigs keyed read.reverse = .ok again ∧
      (again.get? ⟨"USDC.SOL"⟩).map AssetConfig.authSecret = some "s3cret" := by
  intro registry
  obtain ⟨read, -, decoded, restored⟩ := registry_restored keyed [{ asset := "ETH" }, keyedUsdc]
  obtain ⟨again, made, -, found⟩ := restored read.reverse read.reverse_perm
  refine ⟨read, again, decoded, made, ?_⟩
  rw [found]
  decide

end AssetRegistry

end Multichain
