import Mathlib
import Multichain.Proofs.ResolvedConfig

/-!
Resolving that fails. A configuration that cannot be classified stays as it was. One whose secret
cannot be fetched gets its id and its chain nevertheless, so that it stays as it was only if it had
them already. Main statements: `resolve_eq_error_iff` and `failed_resolve_kept_iff`.
-/

set_option autoImplicit false

namespace Multichain.AssetConfig

def classified (config : AssetConfig) (native : NativeAsset) (kind : AssetKind) : AssetConfig :=
  { config with
    id := AssetId.canonicalize config.asset config.chainHint
    native := some native
    kind := some kind }

theorem resolve_eq_error_iff (environment : Environment) (config after : AssetConfig)
    (fault : Fault) :
    config.resolve environment = (after, .error fault) ↔
      config.classify = .error fault ∧ after = config ∨
      ∃ native kind, config.classify = .ok (native, kind) ∧
        AssetSettings.fetchSecret environment config.auth = .error fault ∧
        after = config.classified native kind := by
  rw [resolve]
  cases outcome : config.classify with
  | error other => simp [and_comm, eq_comm]
  | ok pair =>
    obtain ⟨native, kind⟩ := pair
    cases fetched : AssetSettings.fetchSecret environment config.auth with
    | error other => simp [classified, and_comm, eq_comm]
    | ok secret => simp

theorem classified_eq_self_iff (config : AssetConfig) (native : NativeAsset) (kind : AssetKind) :
    config.classified native kind = config ↔
      config.id = AssetId.canonicalize config.asset config.chainHint ∧
        config.native = some native ∧ config.kind = some kind := by
  obtain ⟨settings, id, secret, ownNative, ownKind⟩ := config
  simp [classified, eq_comm]

def Settled (config : AssetConfig) : Prop :=
  ∃ native kind, config.classify = .ok (native, kind) ∧
    config.id = AssetId.canonicalize config.asset config.chainHint ∧
    config.native = some native ∧ config.kind = some kind

-- Only asset, chain and decimals lead to them, so that a configuration that was resolved is settled
-- under any other credential too.
theorem settled_of_resolve (environment : Environment) (config after : AssetConfig)
    (credential : String) (resolved : config.resolve environment = (after, .ok ())) :
    Settled { after with auth := credential } := by
  obtain ⟨native, kind, secret, classified, -, rfl⟩ := (resolve_eq_ok_iff ..).mp resolved
  exact ⟨native, kind, classified, rfl, rfl, rfl⟩

theorem nativeAsset_eq_error_iff (config : AssetConfig) :
    config.nativeAsset = .error (.unresolved config.asset) ↔ config.native = none := by
  cases known : config.native <;> simp [nativeAsset, known]

/-- A failure changes neither the settings nor the secret. All is kept exactly if the configuration
cannot be classified or was settled already, as it is once it was resolved, under whatever
credential. One that was never resolved is still reported as such exactly in the first case. -/
theorem failed_resolve_kept_iff (environment : Environment) (config after : AssetConfig)
    (fault : Fault) (failed : config.resolve environment = (after, .error fault)) :
    after.toAssetSettings = config.toAssetSettings ∧ after.authSecret = config.authSecret ∧
    (after = config ↔ config.classify = .error fault ∨ config.Settled) ∧
    (config.native = none →
      (after.nativeAsset = .error (.unresolved config.asset) ↔ config.classify = .error fault)) ∧
    ∀ (first : Environment) (before : AssetConfig),
      before.resolve first = ({ config with auth := before.auth }, .ok ()) → after = config := by
  have again (first : Environment) (before : AssetConfig)
      (resolved : before.resolve first = ({ config with auth := before.auth }, .ok ())) :
      config.Settled :=
    settled_of_resolve first before { config with auth := before.auth } config.auth resolved
  cases (resolve_eq_error_iff ..).mp failed with
  | inl unclassified =>
    obtain ⟨refused, rfl⟩ := unclassified
    refine ⟨rfl, rfl, ?_, ?_, fun _ _ _ => rfl⟩
    · simp [refused]
    · intro unresolved
      rw [nativeAsset_eq_error_iff]
      exact iff_of_true unresolved refused
  | inr unfetched =>
    obtain ⟨native, kind, known, -, rfl⟩ := unfetched
    have kept : config.classified native kind = config ↔ config.Settled := by
      rw [classified_eq_self_iff]
      constructor
      · exact fun same => ⟨native, kind, known, same⟩
      · rintro ⟨own, sort, same, settled⟩
        obtain ⟨rfl, rfl⟩ : native = own ∧ kind = sort := by
          simpa using known.symm.trans same
        exact settled
    refine ⟨rfl, rfl, ?_, ?_, fun first before resolved => kept.mpr (again first before resolved)⟩
    · simp [kept, known]
    · intro _
      refine iff_of_false ?_ (by simp [known])
      simp [nativeAsset, classified]

def keyedEth : AssetConfig :=
  { asset := "eth", auth := "env:KEY" }

theorem rotated_credential_kept :
    ∃ resolved after, { keyedEth with auth := "s3cret" }.resolve bare = (resolved, .ok ()) ∧
      { resolved with auth := "env:KEY" }.resolve bare = (after, .error (.unsetVariable "KEY")) ∧
      after = { resolved with auth := "env:KEY" } := by
  let resolved := { keyedEth with auth := "s3cret" }.completed .eth .native "s3cret"
  have first : { keyedEth with auth := "s3cret" }.resolve bare = (resolved, .ok ()) := by decide
  have failed : { resolved with auth := "env:KEY" }.resolve bare =
      ({ resolved with auth := "env:KEY" }, .error (.unsetVariable "KEY")) := by decide
  obtain ⟨-, -, -, -, again⟩ := failed_resolve_kept_iff bare _ _ _ failed
  exact ⟨resolved, _, first, failed, again bare { keyedEth with auth := "s3cret" } first⟩

theorem missing_key_leaves_chain :
    (¬ ∀ (environment : Environment) (config after : AssetConfig) (fault : Fault),
      config.resolve environment = (after, .error fault) → after = config) ∧
    keyedEth.native = none ∧ (keyedEth.resolve bare).2 = .error (.unsetVariable "KEY") ∧
    (keyedEth.resolve bare).1.nativeAsset = .ok .eth := by
  have failed : keyedEth.resolve bare =
      (keyedEth.classified .eth .native, .error (.unsetVariable "KEY")) := by decide
  refine ⟨?_, rfl, by rw [failed], by rw [failed]; rfl⟩
  intro kept
  have same := congrArg AssetConfig.native (kept bare keyedEth _ _ failed)
  cases same

end Multichain.AssetConfig
