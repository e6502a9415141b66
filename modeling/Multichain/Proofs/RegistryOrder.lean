import Mathlib
import Multichain.Proofs.StoredRegistry

/-!
Registries made of lists. Whether a list is taken, and what is then found, is decided by what each of
its configurations is resolved to, in whatever order they come; only the fault tells which of them
came first. Main statements: `ofConfigs_eq_ok_iff`, `ofConfigs_eq_error_iff` and
`order_of_configs_immaterial`.
-/

set_option autoImplicit false

namespace Multichain.AssetRegistry

structure Admits (environment : Environment) (configs entries : List AssetConfig) : Prop where
  each : List.Forall₂ (fun config entry => config.resolved environment = .ok entry) configs entries
  distinct : (entries.map AssetConfig.id).Nodup

def Refuses (environment : Environment) (entries : List AssetConfig) (config : AssetConfig)
    (fault : Fault) : Prop :=
  config.resolved environment = .error fault ∨
    ∃ entry, config.resolved environment = .ok entry ∧ entry.id ∈ entries.map AssetConfig.id ∧
      fault = .duplicateId entry.id.text

theorem Admits.perm {environment : Environment} {configs entries order : List AssetConfig}
    (admits : Admits environment configs entries) (same : order.Perm configs) :
    ∃ shuffled, Admits environment order shuffled ∧ shuffled.Perm entries := by
  obtain ⟨shuffled, each, kept⟩ := List.perm_comp_forall₂ same admits.each
  exact ⟨shuffled, ⟨each, (kept.map AssetConfig.id).nodup_iff.mpr admits.distinct⟩, kept⟩

theorem refuses_congr (environment : Environment) (first second : List AssetConfig)
    (config : AssetConfig) (fault : Fault) (same : first.Perm second) :
    Refuses environment first config fault ↔ Refuses environment second config fault := by
  simp only [Refuses, (same.map AssetConfig.id).mem_iff]

theorem register_eq_error_iff (environment : Environment) (registry : AssetRegistry)
    (config : AssetConfig) (fault : Fault) :
    register environment registry config = .error fault ↔
      Refuses environment registry.assets config fault := by
  rw [register, Outcome.bind_eq_error_iff, Refuses]
  refine or_congr_right (exists_congr fun entry => and_congr_right fun _ => ?_)
  have taken : (registry.get? entry.id).isSome = true ↔
      entry.id ∈ registry.assets.map AssetConfig.id := by
    rw [Option.isSome_iff_ne_none, ne_eq, get?_eq_none_iff, List.mem_map]
    push Not
    rfl
  rw [← taken]
  split_ifs with present
  · simp [present, throw, throwThe, MonadExceptOf.throw, bind, Except.bind, eq_comm]
  · simp [present, pure, Except.pure]

theorem foldlM_register_cases (environment : Environment) (registry last : AssetRegistry)
    (configs : List AssetConfig) (ascending : Ascending registry.assets)
    (folded : configs.foldlM (register environment) registry = .ok last) :
    ∃ entries,
      List.Forall₂ (fun config entry => config.resolved environment = .ok entry) configs entries ∧
      Ascending last.assets ∧ last.assets.Perm (registry.assets ++ entries) := by
  induction configs generalizing registry with
  | nil =>
    obtain rfl : registry = last := Except.ok.inj folded
    exact ⟨[], .nil, ascending, by rw [List.append_nil]⟩
  | cons config rest ih =>
    rw [List.foldlM_cons, Outcome.bind_eq_ok_iff] at folded
    obtain ⟨next, accepted, folded⟩ := folded
    obtain ⟨entry, resolved, free, rfl⟩ := (register_eq_ok_iff ..).mp accepted
    have ordered := insertInOrder_ascending entry registry.assets ascending
      ((get?_eq_none_iff ..).mp free)
    obtain ⟨entries, each, sorted, kept⟩ := ih (registry.insert entry) ordered folded
    refine ⟨entry :: entries, .cons resolved each, sorted, kept.trans ?_⟩
    exact ((insertInOrder_perm entry registry.assets).append_right entries).trans
      List.perm_middle.symm

theorem exists_ofConfigs (environment : Environment) (configs entries : List AssetConfig)
    (admits : Admits environment configs entries) :
    ∃ registry, ofConfigs environment configs = .ok registry ∧ Ascending registry.assets ∧
      registry.assets.Perm entries :=
  exists_foldlM_register environment empty configs entries tidy_empty.ascending admits.each
    admits.distinct

theorem ofConfigs_eq_ok_iff (environment : Environment) (configs : List AssetConfig)
    (registry : AssetRegistry) :
    ofConfigs environment configs = .ok registry ↔
      ∃ entries, Admits environment configs entries ∧ Ascending registry.assets ∧
        registry.assets.Perm entries := by
  constructor
  · intro made
    obtain ⟨entries, each, ascending, kept⟩ :=
      foldlM_register_cases environment empty registry configs tidy_empty.ascending made
    have distinct : (entries.map AssetConfig.id).Nodup :=
      (kept.map AssetConfig.id).nodup_iff.mp (distinct_ids _ ascending)
    exact ⟨entries, ⟨each, distinct⟩, ascending, kept⟩
  · rintro ⟨entries, admits, ascending, kept⟩
    obtain ⟨last, made, ordered, same⟩ := exists_ofConfigs environment configs entries admits
    have listed : last.assets = registry.assets := by
      rw [← sortById_of_perm _ entries ordered same.symm, sortById_of_perm _ _ ascending kept.symm]
    rw [made]
    exact congrArg Except.ok (congrArg AssetRegistry.mk listed)

theorem exists_ofConfigs_iff (environment : Environment) (configs : List AssetConfig) :
    (∃ registry, ofConfigs environment configs = .ok registry) ↔
      ∃ entries, Admits environment configs entries := by
  constructor
  · rintro ⟨registry, made⟩
    obtain ⟨entries, admits, -⟩ := (ofConfigs_eq_ok_iff ..).mp made
    exact ⟨entries, admits⟩
  · rintro ⟨entries, admits⟩
    obtain ⟨registry, made, -⟩ := exists_ofConfigs environment configs entries admits
    exact ⟨registry, made⟩

theorem ofConfigs_perm (environment : Environment) (configs order : List AssetConfig)
    (registry : AssetRegistry) (same : order.Perm configs)
    (made : ofConfigs environment configs = .ok registry) :
    ofConfigs environment order = .ok registry := by
  obtain ⟨entries, admits, ascending, kept⟩ := (ofConfigs_eq_ok_iff ..).mp made
  obtain ⟨shuffled, again, moved⟩ := admits.perm same
  exact (ofConfigs_eq_ok_iff ..).mpr ⟨shuffled, again, ascending, kept.trans moved.symm⟩

theorem ofConfigs_eq_error_iff (environment : Environment) (configs : List AssetConfig)
    (fault : Fault) :
    ofConfigs environment configs = .error fault ↔
      ∃ before config after entries, configs = before ++ config :: after ∧
        Admits environment before entries ∧ Refuses environment entries config fault := by
  rw [ofConfigs, Outcome.foldlM_eq_error_iff]
  constructor
  · rintro ⟨before, config, after, middle, split, folded, failed⟩
    obtain ⟨entries, admits, -, kept⟩ := (ofConfigs_eq_ok_iff environment before middle).mp folded
    rw [register_eq_error_iff, refuses_congr _ _ _ _ _ kept] at failed
    exact ⟨before, config, after, entries, split, admits, failed⟩
  · rintro ⟨before, config, after, entries, split, admits, refused⟩
    obtain ⟨middle, made, -, kept⟩ := exists_ofConfigs environment before entries admits
    rw [← refuses_congr _ _ _ _ _ kept, ← register_eq_error_iff] at refused
    exact ⟨before, config, after, middle, split, made, refused⟩

/-- A list of configurations is taken exactly if each is resolved on its own and no two to the same
id; otherwise the fault is that of the first that is not resolved or repeats an id. Of a list in any
other order the same registry is made, so that the same is found and listed, however the entries are
held. -/
theorem order_of_configs_immaterial (environment : Environment) (configs : List AssetConfig) :
    ((∃ registry, ofConfigs environment configs = .ok registry) ↔
      ∃ entries, Admits environment configs entries) ∧
    (∀ fault, ofConfigs environment configs = .error fault ↔
      ∃ before config after entries, configs = before ++ config :: after ∧
        Admits environment before entries ∧ Refuses environment entries config fault) ∧
    ∀ order, order.Perm configs →
      ((∃ again, ofConfigs environment order = .ok again) ↔
        ∃ registry, ofConfigs environment configs = .ok registry) ∧
      ∀ registry again, ofConfigs environment configs = .ok registry →
        ofConfigs environment order = .ok again →
        (∀ id, again.get? id = registry.get? id) ∧ again.assets = registry.assets ∧
        ∀ held, held.Perm again.assets → sortById held = registry.assets := by
  refine ⟨exists_ofConfigs_iff environment configs, ofConfigs_eq_error_iff environment configs, ?_⟩
  intro order same
  constructor
  · constructor
    · rintro ⟨again, made⟩
      exact ⟨again, ofConfigs_perm environment order configs again same.symm made⟩
    · rintro ⟨registry, made⟩
      exact ⟨registry, ofConfigs_perm environment configs order registry same made⟩
  · intro registry again made remade
    have moved := ofConfigs_perm environment configs order registry same made
    obtain rfl : again = registry := Except.ok.inj (remade.symm.trans moved)
    obtain ⟨entries, -, ascending, -⟩ := (ofConfigs_eq_ok_iff ..).mp made
    exact ⟨fun id => rfl, rfl, fun held shuffled => sortById_of_perm _ held ascending shuffled⟩

def etherOnly : AssetConfig :=
  { asset := "ETH" }

def lowerUsdc : AssetConfig :=
  { asset := "usdc", decimals := some 6 }

def usdcOnEth : AssetConfig :=
  { asset := "USDC", chain := "eth", decimals := some 6 }

theorem second_spelling_refused :
    ofConfigs keyed [etherOnly, lowerUsdc, usdcOnEth, { asset := "DAI" }] =
      .error (.duplicateId "USDC") ∧
    ∃ registry again, ofConfigs keyed [etherOnly, lowerUsdc] = .ok registry ∧
      ofConfigs keyed [lowerUsdc, etherOnly] = .ok again ∧
      again.get? ⟨"USDC"⟩ = registry.get? ⟨"USDC"⟩ := by
  let eth := etherOnly.completed .eth .native ""
  let usdc := lowerUsdc.completed .eth .token ""
  have ethResolved : etherOnly.resolved keyed = .ok eth := by decide
  have usdcResolved : lowerUsdc.resolved keyed = .ok usdc := by decide
  have againResolved : usdcOnEth.resolved keyed = .ok (usdcOnEth.completed .eth .token "") := by
    decide
  have admits : Admits keyed [etherOnly, lowerUsdc] [eth, usdc] :=
    ⟨.cons ethResolved (.cons usdcResolved .nil), by decide⟩
  constructor
  · refine ((order_of_configs_immaterial keyed _).2.1 _).mpr
      ⟨[etherOnly, lowerUsdc], usdcOnEth, _, [eth, usdc], rfl, admits, .inr ?_⟩
    exact ⟨_, againResolved, by decide, by decide⟩
  · obtain ⟨taken, -, orders⟩ := order_of_configs_immaterial keyed [etherOnly, lowerUsdc]
    obtain ⟨registry, made⟩ := taken.mpr ⟨_, admits⟩
    obtain ⟨both, same⟩ := orders [lowerUsdc, etherOnly] (List.Perm.swap _ _ _)
    obtain ⟨again, remade⟩ := both.mpr ⟨registry, made⟩
    exact ⟨registry, again, made, remade, (same registry again made remade).1 ⟨"USDC"⟩⟩

end Multichain.AssetRegistry
