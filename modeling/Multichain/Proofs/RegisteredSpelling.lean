import Mathlib
import Multichain.Proofs.Fallback

/-!
Whether an asset is found as its configuration spells it. Registering takes the symbol of a chain in
whatever case for that chain's own asset; looking up takes it for a token of the default chain unless
it is spelled exactly. Main statement: `found_as_spelled_iff`.
-/

set_option autoImplicit false

namespace Multichain

open Text AssetId

namespace AssetRegistry

theorem run_append (registry : AssetRegistry) (before after : List Registration) :
    (registry.run (before ++ after)).1 = ((registry.run before).1.run after).1 := by
  induction before generalizing registry with
  | nil => rfl
  | cons call rest ih =>
    rw [List.cons_append, run_cons, run_cons]
    exact ih _

theorem get?_accepted (registry : AssetRegistry) (call : Registration) (after : List Registration)
    (entry : AssetConfig) (resolved : call.resolved = .ok entry)
    (free : registry.get? entry.id = none) :
    (registry.run (call :: after)).1.get? entry.id = some entry := by
  rw [get?_run, free, List.findSome?_cons, call.offered?_ok entry entry.id resolved, if_pos rfl]
  rfl

theorem found_as_spelled_iff (before after : List Registration) (call : Registration)
    (accepted : ((empty.run before).1.step call).2 = .ok ()) :
    ∃ entry, call.resolved = .ok entry ∧
      let registry := (empty.run (before ++ call :: after)).1
      registry.get? entry.id = some entry ∧
        (registry.find? call.config.asset call.config.chain = some entry ↔
          ¬ call.config.LooselySpelled) := by
  obtain ⟨entry, resolved, free⟩ := (step_ok_iff ..).mp accepted
  refine ⟨entry, resolved, ?_⟩
  intro registry
  have stored : registry.get? entry.id = some entry := by
    have kept := get?_accepted _ call after entry resolved free
    rwa [← run_append] at kept
  refine ⟨stored, ?_⟩
  rw [← AssetSettings.canonicalize_chainHint_iff, ← AssetConfig.id_resolved _ _ entry resolved, find?]
  constructor
  · intro found
    exact (id_of_get? registry _ entry found).symm
  · intro same
    rw [same, stored]

def plainCall (config : AssetConfig) : Registration :=
  ⟨AssetConfig.bare, config⟩

def solUsdc : Registration :=
  plainCall { asset := "usdc", chain := "Sol", decimals := some 6 }

theorem solUsdc_found :
    let registry := (empty.run ([plainCall { asset := "ETH" }] ++
      solUsdc :: [plainCall { asset := "USDC.SOL", decimals := some 9 }])).1
    ∃ entry, registry.find? "usdc" "Sol" = some entry ∧ entry.id = ⟨"USDC.SOL"⟩ ∧
      entry.decimals = some 6 := by
  intro registry
  have accepted : ((empty.run [plainCall { asset := "ETH" }]).1.step solUsdc).2 = .ok () := by
    decide
  obtain ⟨entry, resolved, -, found⟩ :=
    found_as_spelled_iff _ [plainCall { asset := "USDC.SOL", decimals := some 9 }] solUsdc accepted
  have own : solUsdc.resolved = .ok (solUsdc.config.completed .sol .token "") := by decide
  rw [own] at resolved
  obtain rfl := Except.ok.inj resolved
  exact ⟨_, found.mpr (by decide), by decide, rfl⟩

def atom : Registration :=
  plainCall { asset := "atom" }

theorem atom_not_found :
    ¬ ∀ (before after : List Registration) (call : Registration) (entry : AssetConfig),
      ((empty.run before).1.step call).2 = .ok () → call.resolved = .ok entry →
        (empty.run (before ++ call :: after)).1.find? call.config.asset call.config.chain =
          some entry := by
  intro findable
  have accepted : ((empty.run []).1.step atom).2 = .ok () := by decide
  have resolved : atom.resolved = .ok (atom.config.completed .atom .native "") := by decide
  have found := findable [] [] atom _ accepted resolved
  have missing : (empty.run [atom]).1.find? "atom" "" = none := by decide
  cases missing.symm.trans found

end AssetRegistry

end Multichain
