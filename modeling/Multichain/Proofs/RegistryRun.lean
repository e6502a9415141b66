import Mathlib
import Multichain.Asset.Config
import Multichain.Proofs.Outcome
import Multichain.Proofs.ResolvedConfig

/-!
Runs of registrations. A call either adds an asset under an id that is free or changes nothing, so
that the first asset of an id stays for good. Main statement: `registry_run`.
-/

set_option autoImplicit false

namespace Multichain

namespace AssetConfig

structure Complete (config : AssetConfig) : Prop where
  native : config.native ≠ none
  kind : config.kind ≠ none
  decimals : config.isToken = true → config.decimals ≠ none

theorem complete_of_resolved (environment : Environment) (config entry : AssetConfig)
    (resolved : config.resolved environment = .ok entry) : entry.Complete := by
  rw [resolved_eq_ok_iff, resolve_eq_ok_iff] at resolved
  obtain ⟨native, kind, secret, classified, -, rfl⟩ := resolved
  rw [AssetSettings.classify_eq_ok_iff] at classified
  obtain ⟨symbol, chain, -, -, sort⟩ := classified
  constructor
  · simp [completed]
  · simp [completed]
  · intro token
    cases sort with
    | inl own => simp [completed, isToken, own.2] at token
    | inr other => exact other.2.1

end AssetConfig

structure Registration where
  environment : Environment
  config : AssetConfig

namespace Registration

def resolved (call : Registration) : Except Fault AssetConfig :=
  call.config.resolved call.environment

def offered? (id : AssetId) (call : Registration) : Option AssetConfig :=
  match call.resolved with
  | .ok entry => if entry.id = id then some entry else none
  | .error _ => none

theorem offered?_ok (call : Registration) (entry : AssetConfig) (id : AssetId)
    (resolved : call.resolved = .ok entry) :
    call.offered? id = if entry.id = id then some entry else none := by
  rw [offered?, resolved]

theorem offered?_error (call : Registration) (fault : Fault) (id : AssetId)
    (failed : call.resolved = .error fault) : call.offered? id = none := by
  rw [offered?, failed]

end Registration

namespace AssetRegistry

def Ascending (assets : List AssetConfig) : Prop :=
  assets.Pairwise fun first second => first.id.text < second.id.text

theorem insertInOrder_perm (config : AssetConfig) (assets : List AssetConfig) :
    (insertInOrder config assets).Perm (config :: assets) := by
  induction assets with
  | nil => exact List.Perm.refl _
  | cons other rest ih =>
    rw [insertInOrder]
    split_ifs with before
    · exact List.Perm.refl _
    · exact (ih.cons other).trans (List.Perm.swap config other rest)

theorem insertInOrder_ascending (config : AssetConfig) (assets : List AssetConfig)
    (ascending : Ascending assets) (free : ∀ other ∈ assets, other.id ≠ config.id) :
    Ascending (insertInOrder config assets) := by
  induction assets with
  | nil => exact List.pairwise_singleton _ _
  | cons other rest ih =>
    obtain ⟨above, tail⟩ := List.pairwise_cons.mp ascending
    rw [insertInOrder]
    split_ifs with before
    · apply List.Pairwise.cons _ ascending
      intro later member
      cases member with
      | head => exact before
      | tail _ found => exact before.trans (above later found)
    · have apart : other.id.text ≠ config.id.text := by
        intro same
        exact free other (by simp) (congrArg AssetId.mk same)
      have first : other.id.text < config.id.text := lt_of_le_of_ne (not_lt.mp before) apart
      apply List.Pairwise.cons
      · intro later member
        rw [(insertInOrder_perm config rest).mem_iff] at member
        cases member with
        | head => exact first
        | tail _ found => exact above later found
      · exact ih tail fun later found => free later (by simp [found])

theorem distinct_ids (assets : List AssetConfig) (ascending : Ascending assets) :
    (assets.map AssetConfig.id).Nodup := by
  apply List.pairwise_map.mpr
  apply List.Pairwise.imp _ ascending
  intro first second before same
  exact before.ne (congrArg AssetId.text same)

def sortById (held : List AssetConfig) : List AssetConfig :=
  held.mergeSort fun first second => first.id.text ≤ second.id.text

theorem sortById_of_perm (assets held : List AssetConfig) (ascending : Ascending assets)
    (same : held.Perm assets) : sortById held = assets := by
  have sorted : (sortById held).Pairwise fun first second =>
      decide (first.id.text ≤ second.id.text) = true := by
    apply List.pairwise_mergeSort
    · intro first second third before after
      simp only [decide_eq_true_eq] at before after ⊢
      exact before.trans after
    · intro first second
      simpa using le_total first.id.text second.id.text
  simp only [decide_eq_true_eq] at sorted
  have kept : (sortById held).Perm assets := (List.mergeSort_perm _ _).trans same
  apply List.Perm.eq_of_pairwise _ sorted (ascending.imp le_of_lt) kept
  intro first second member listed before after
  have ids : first.id = second.id := congrArg AssetId.mk (le_antisymm before after)
  exact List.inj_on_of_nodup_map (distinct_ids _ ascending) (kept.mem_iff.mp member) listed ids

theorem find?_insertInOrder (config : AssetConfig) (assets : List AssetConfig) (id : AssetId)
    (free : ∀ other ∈ assets, other.id ≠ config.id) :
    (insertInOrder config assets).find? (fun other => other.id = id) =
      (assets.find? fun other => other.id = id).or (if config.id = id then some config else none) := by
  have own (rest : List AssetConfig) (others : ∀ other ∈ rest, other.id ≠ config.id) :
      (config :: rest).find? (fun other => other.id = id) =
        (rest.find? fun other => other.id = id).or (if config.id = id then some config else none) := by
    by_cases same : config.id = id
    · have missing : rest.find? (fun other => other.id = id) = none := by
        rw [List.find?_eq_none]
        intro other found
        simpa [← same] using others other found
      simp [same, missing]
    · simp [same]
  induction assets with
  | nil => exact own [] free
  | cons other rest ih =>
    by_cases before : config.id.text < other.id.text
    · rw [insertInOrder, if_pos before]
      exact own (other :: rest) free
    · rw [insertInOrder, if_neg before]
      have after := ih fun later found => free later (by simp [found])
      by_cases same : other.id = id
      · simp [same]
      · simp [same, after]

theorem mem_of_get? (registry : AssetRegistry) (id : AssetId) (entry : AssetConfig)
    (found : registry.get? id = some entry) : entry ∈ registry.assets :=
  List.mem_of_find?_eq_some found

theorem id_of_get? (registry : AssetRegistry) (id : AssetId) (config : AssetConfig)
    (found : registry.get? id = some config) : config.id = id := by
  simpa using List.find?_some found

theorem get?_eq_none_iff (registry : AssetRegistry) (id : AssetId) :
    registry.get? id = none ↔ ∀ other ∈ registry.assets, other.id ≠ id := by
  simp [get?]

theorem get?_insert (registry : AssetRegistry) (config : AssetConfig) (id : AssetId)
    (free : registry.get? config.id = none) :
    (registry.insert config).get? id =
      (registry.get? id).or (if config.id = id then some config else none) :=
  find?_insertInOrder config registry.assets id ((get?_eq_none_iff ..).mp free)

theorem register_eq_ok_iff (environment : Environment) (registry next : AssetRegistry)
    (config : AssetConfig) :
    register environment registry config = .ok next ↔
      ∃ entry, config.resolved environment = .ok entry ∧ registry.get? entry.id = none ∧
        next = registry.insert entry := by
  rw [register, Outcome.bind_eq_ok_iff]
  apply exists_congr
  intro entry
  rw [Outcome.check_eq_ok_iff, Outcome.pure_eq_ok_iff, Option.not_isSome_iff_eq_none,
    eq_comm (a := registry.insert entry)]

def step (registry : AssetRegistry) (call : Registration) : AssetRegistry × Except Fault Unit :=
  match register call.environment registry call.config with
  | .ok next => (next, .ok ())
  | .error fault => (registry, .error fault)

theorem step_cases (registry : AssetRegistry) (call : Registration) :
    (∃ entry, call.resolved = .ok entry ∧ registry.get? entry.id = none ∧
      registry.step call = (registry.insert entry, .ok ())) ∨
    (∀ entry, call.resolved = .ok entry → registry.get? entry.id ≠ none) ∧
      ∃ fault, registry.step call = (registry, .error fault) := by
  cases outcome : register call.environment registry call.config with
  | ok next =>
    obtain ⟨entry, resolved, free, rfl⟩ := (register_eq_ok_iff ..).mp outcome
    exact .inl ⟨entry, resolved, free, by rw [step, outcome]⟩
  | error fault =>
    right
    constructor
    · intro entry resolved free
      have accepted := (register_eq_ok_iff ..).mpr ⟨entry, resolved, free, rfl⟩
      rw [outcome] at accepted
      cases accepted
    · exact ⟨fault, by rw [step, outcome]⟩

theorem step_ok_iff (registry : AssetRegistry) (call : Registration) :
    (registry.step call).2 = .ok () ↔
      ∃ entry, call.resolved = .ok entry ∧ registry.get? entry.id = none := by
  cases step_cases registry call with
  | inl accepted =>
    obtain ⟨entry, resolved, free, done⟩ := accepted
    rw [done]
    exact iff_of_true rfl ⟨entry, resolved, free⟩
  | inr refused =>
    obtain ⟨taken, fault, kept⟩ := refused
    rw [kept]
    apply iff_of_false
    · simp
    · intro ⟨entry, resolved, free⟩
      exact taken entry resolved free

theorem step_refused (registry : AssetRegistry) (call : Registration) (fault : Fault)
    (refused : (registry.step call).2 = .error fault) : (registry.step call).1 = registry := by
  cases step_cases registry call with
  | inl accepted =>
    obtain ⟨entry, -, -, done⟩ := accepted
    rw [done] at refused
    cases refused
  | inr kept =>
    obtain ⟨-, _, kept⟩ := kept
    rw [kept]

theorem get?_step (registry : AssetRegistry) (call : Registration) (id : AssetId) :
    (registry.step call).1.get? id = (registry.get? id).or (call.offered? id) := by
  cases step_cases registry call with
  | inl accepted =>
    obtain ⟨entry, resolved, free, done⟩ := accepted
    rw [done, get?_insert registry entry id free, call.offered?_ok entry id resolved]
  | inr refused =>
    obtain ⟨taken, fault, kept⟩ := refused
    rw [kept]
    cases brought : call.resolved with
    | error other => rw [call.offered?_error other id brought, Option.or_none]
    | ok entry =>
      rw [call.offered?_ok entry id brought]
      split_ifs with same
      · subst same
        obtain ⟨own, found⟩ := Option.ne_none_iff_exists'.mp (taken entry brought)
        rw [found, Option.some_or]
      · rw [Option.or_none]

theorem size_insert (registry : AssetRegistry) (config : AssetConfig) :
    (registry.insert config).size = registry.size + 1 := by
  simpa [size, insert] using (insertInOrder_perm config registry.assets).length_eq

theorem size_step (registry : AssetRegistry) (call : Registration) :
    (registry.step call).1.size =
      registry.size + if (registry.step call).2.isOk then 1 else 0 := by
  cases step_cases registry call with
  | inl accepted =>
    obtain ⟨entry, -, -, done⟩ := accepted
    rw [done, size_insert]
    rfl
  | inr refused =>
    obtain ⟨-, fault, kept⟩ := refused
    rw [kept]
    rfl

theorem mem_step (registry : AssetRegistry) (call : Registration) (entry : AssetConfig)
    (member : entry ∈ (registry.step call).1.assets) :
    entry ∈ registry.assets ∨ call.resolved = .ok entry := by
  cases step_cases registry call with
  | inl accepted =>
    obtain ⟨added, resolved, -, done⟩ := accepted
    rw [done] at member
    have among := (insertInOrder_perm added registry.assets).mem_iff.mp member
    cases among with
    | head => exact .inr resolved
    | tail _ found => exact .inl found
  | inr refused =>
    obtain ⟨-, fault, kept⟩ := refused
    rw [kept] at member
    exact .inl member

structure Tidy (registry : AssetRegistry) : Prop where
  ascending : Ascending registry.assets
  complete : ∀ entry ∈ registry.assets, entry.Complete

theorem tidy_empty : Tidy empty :=
  ⟨List.Pairwise.nil, by simp [empty]⟩

theorem tidy_step (registry : AssetRegistry) (call : Registration) (tidy : registry.Tidy) :
    (registry.step call).1.Tidy := by
  constructor
  · cases step_cases registry call with
    | inl accepted =>
      obtain ⟨entry, -, free, done⟩ := accepted
      rw [done]
      exact insertInOrder_ascending entry registry.assets tidy.ascending
        ((get?_eq_none_iff ..).mp free)
    | inr refused =>
      obtain ⟨-, fault, kept⟩ := refused
      rw [kept]
      exact tidy.ascending
  · intro entry member
    cases mem_step registry call entry member with
    | inl found => exact tidy.complete entry found
    | inr resolved => exact AssetConfig.complete_of_resolved _ _ _ resolved

theorem Tidy.get?_of_mem (registry : AssetRegistry) (tidy : registry.Tidy) (entry : AssetConfig)
    (member : entry ∈ registry.assets) : registry.get? entry.id = some entry := by
  cases found : registry.get? entry.id with
  | none => exact absurd rfl ((get?_eq_none_iff ..).mp found entry member)
  | some other =>
    have id := id_of_get? registry entry.id other found
    have listed := mem_of_get? registry entry.id other found
    rw [List.inj_on_of_nodup_map (distinct_ids _ tidy.ascending) listed member id]

def run (registry : AssetRegistry) : List Registration → AssetRegistry × List (Except Fault Unit)
  | [] => (registry, [])
  | call :: rest =>
    let (next, answer) := registry.step call
    let (last, answers) := run next rest
    (last, answer :: answers)

theorem run_cons (registry : AssetRegistry) (call : Registration) (rest : List Registration) :
    registry.run (call :: rest) =
      (((registry.step call).1.run rest).1,
        (registry.step call).2 :: ((registry.step call).1.run rest).2) :=
  rfl

theorem get?_run (registry : AssetRegistry) (calls : List Registration) (id : AssetId) :
    (registry.run calls).1.get? id =
      (registry.get? id).or (calls.findSome? (Registration.offered? id)) := by
  induction calls generalizing registry with
  | nil => simp [run]
  | cons call rest ih =>
    rw [run_cons, ih, get?_step, Option.or_assoc]
    congr 1
    cases brought : call.offered? id <;> simp [brought]

theorem size_run (registry : AssetRegistry) (calls : List Registration) :
    (registry.run calls).1.size = registry.size + (registry.run calls).2.countP Except.isOk := by
  induction calls generalizing registry with
  | nil => rfl
  | cons call rest ih =>
    rw [run_cons, ih, size_step, List.countP_cons]
    omega

theorem mem_run (registry : AssetRegistry) (calls : List Registration) (entry : AssetConfig)
    (member : entry ∈ (registry.run calls).1.assets) :
    entry ∈ registry.assets ∨ ∃ call ∈ calls, call.resolved = .ok entry := by
  induction calls generalizing registry with
  | nil => exact .inl member
  | cons call rest ih =>
    cases ih _ member with
    | inl held => exact (mem_step registry call entry held).imp_right fun brought =>
        ⟨call, by simp, brought⟩
    | inr later =>
      obtain ⟨other, listed, brought⟩ := later
      exact .inr ⟨other, by simp [listed], brought⟩

theorem tidy_run (registry : AssetRegistry) (calls : List Registration) (tidy : registry.Tidy) :
    (registry.run calls).1.Tidy := by
  induction calls generalizing registry with
  | nil => exact tidy
  | cons call rest ih => exact ih _ (tidy_step registry call tidy)

theorem registry_run (calls : List Registration) :
    let last := (empty.run calls).1
    let answers := (empty.run calls).2
    (∀ id, last.get? id = calls.findSome? (Registration.offered? id)) ∧
    (∀ call, (last.step call).2 = .ok () ↔
      ∃ entry, call.resolved = .ok entry ∧ last.get? entry.id = none) ∧
    (∀ call fault, (last.step call).2 = .error fault → (last.step call).1 = last) ∧
    (∀ id entry, last.get? id = some entry → entry.id = id ∧ entry.Complete) ∧
    Ascending last.assets ∧
    (∀ held, held.Perm last.assets → sortById held = last.assets) ∧
    (∀ entry, entry ∈ last.assets ↔ last.get? entry.id = some entry) ∧
    (∀ id entry, last.get? id = some entry → last.assets.count entry = 1) ∧
    last.size = answers.countP Except.isOk := by
  intro last answers
  have tidy : last.Tidy := tidy_run empty calls tidy_empty
  have listed (id : AssetId) (entry : AssetConfig) (found : last.get? id = some entry) :
      entry ∈ last.assets := mem_of_get? last id entry found
  refine ⟨?_, step_ok_iff last, step_refused last, ?_, tidy.ascending, ?_, ?_, ?_, ?_⟩
  · intro id
    rw [get?_run]
    rfl
  · intro id entry found
    exact ⟨id_of_get? last id entry found, tidy.complete entry (listed id entry found)⟩
  · intro held same
    exact sortById_of_perm last.assets held tidy.ascending same
  · intro entry
    exact ⟨tidy.get?_of_mem last entry, listed entry.id entry⟩
  · intro id entry found
    have once : last.assets.Nodup := (distinct_ids _ tidy.ascending).of_map
    exact List.count_eq_one_of_mem once (listed id entry found)
  · rw [size_run]
    exact Nat.zero_add _

end AssetRegistry

end Multichain
