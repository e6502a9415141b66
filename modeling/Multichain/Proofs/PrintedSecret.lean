import Mathlib
import Multichain.Proofs.QuotedText
import Multichain.Proofs.ResolvedConfig

/-!
What the printed forms of a configuration tell of its secret. They show the reference to the secret
and not what is fetched by it; but a secret that stands in the settings themselves is its own
reference. Main statement: `printed_alike_iff`.
-/

set_option autoImplicit false

namespace Multichain

open Text

namespace AssetSettings

def PlainSecret (auth : String) : Prop :=
  secretVariable? auth = none ∧ secretFile? auth = none

instance (auth : String) : Decidable (PlainSecret auth) :=
  inferInstanceAs (Decidable (_ ∧ _))

theorem fetchSecret_plain (environment : Environment) (auth : String) (plain : PlainSecret auth) :
    fetchSecret environment auth = .ok auth := by
  rw [fetchSecret, plain.1, plain.2]

end AssetSettings

namespace AssetConfig

open AssetSettings

def withSecret (config : AssetConfig) (auth secret : String) : AssetConfig :=
  { config with auth := auth, authSecret := secret }

theorem line_withSecret_iff (config : AssetConfig) (auth secret : String) :
    config.line = (config.withSecret auth secret).line ↔ config.auth = auth := by
  simp [line, withSecret]

def shown (member : String × String) : String :=
  member.1 ++ ": " ++ member.2

-- The reference to the secret is the sixth member, and the others do not depend on it.
theorem shownMembers_withSecret (config : AssetConfig) (auth secret : String) :
    (config.withSecret auth secret).shownMembers =
      config.shownMembers.take 5 ++ ("auth", quoted auth) :: config.shownMembers.drop 6 :=
  rfl

theorem dump_withSecret (config : AssetConfig) : ∃ front back, ∀ auth secret,
    (config.withSecret auth secret).dump = front ++ quoted auth ++ back := by
  let before := (config.shownMembers.take 5).map shown
  let after := (config.shownMembers.drop 6).map shown
  refine ⟨"AssetConfig \x7b " ++ ", ".intercalate before ++ ", " ++ "auth: ",
    ", " ++ ", ".intercalate after ++ " \x7d", ?_⟩
  intro auth secret
  have members : (config.withSecret auth secret).shownMembers.map shown =
      before ++ ("auth: " ++ quoted auth) :: after := by
    rw [shownMembers_withSecret, List.map_append, List.map_cons]
    rfl
  have first : before ≠ [] := by simp [before, shownMembers]
  have last : after ≠ [] := by simp [after, shownMembers]
  change "AssetConfig \x7b " ++
    ", ".intercalate ((config.withSecret auth secret).shownMembers.map shown) ++ " \x7d" = _
  rw [members, String.intercalate_append_of_ne_nil first (List.cons_ne_nil _ _),
    String.intercalate_cons_of_ne_nil last]
  simp only [String.append_assoc]

theorem dump_withSecret_iff (config : AssetConfig) (auth secret : String) :
    config.dump = (config.withSecret auth secret).dump ↔ config.auth = auth := by
  obtain ⟨front, back, printed⟩ := dump_withSecret config
  have own : config.dump = front ++ quoted config.auth ++ back := printed config.auth config.authSecret
  rw [own, printed, String.append_left_inj, String.append_right_inj]
  constructor
  · exact quoted_injective _ _
  · intro same
    rw [same]

/-- Two runs that differ in the secret. One that is referred to may differ with anything that the
surroundings hold; a plain one differs in the settings, in the same surroundings. -/
inductive SecretVaries (environment : Environment) (config : AssetConfig) :
    Environment → AssetConfig → Prop
  | referred (other : Environment) (reference : ¬ PlainSecret config.auth) :
      SecretVaries environment config other config
  | plain (auth : String) (own : PlainSecret config.auth) (new : PlainSecret auth) :
      SecretVaries environment config environment { config with auth := auth }

theorem after_of_varies (environment other : Environment) (config varied after after' : AssetConfig)
    (varies : SecretVaries environment config other varied)
    (resolved : config.resolve environment = (after, .ok ()))
    (resolved' : varied.resolve other = (after', .ok ())) :
    after' = after.withSecret varied.auth after'.authSecret := by
  obtain ⟨native, kind, secret, classified, -, rfl⟩ := (resolve_eq_ok_iff ..).mp resolved
  obtain ⟨native', kind', secret', classified', -, rfl⟩ := (resolve_eq_ok_iff ..).mp resolved'
  have same : varied.classify = config.classify := by
    cases varies with
    | referred => rfl
    | plain => rfl
  rw [same, classified] at classified'
  cases classified'
  cases varies with
  | referred => rfl
  | plain => rfl

theorem auth_of_resolve (environment : Environment) (config after : AssetConfig)
    (resolved : config.resolve environment = (after, .ok ())) : after.auth = config.auth := by
  obtain ⟨native, kind, secret, -, -, rfl⟩ := (resolve_eq_ok_iff ..).mp resolved
  rfl

theorem authSecret_of_plain (environment : Environment) (config after : AssetConfig)
    (resolved : config.resolve environment = (after, .ok ())) (plain : PlainSecret config.auth) :
    after.authSecret = config.auth := by
  obtain ⟨native, kind, secret, -, fetched, rfl⟩ := (resolve_eq_ok_iff ..).mp resolved
  rw [fetchSecret_plain environment config.auth plain] at fetched
  exact (Except.ok.inj fetched).symm

theorem printed_alike_iff (environment other : Environment)
    (config varied after after' : AssetConfig)
    (varies : SecretVaries environment config other varied)
    (resolved : config.resolve environment = (after, .ok ()))
    (resolved' : varied.resolve other = (after', .ok ())) :
    (after.line = after'.line ↔
      ¬ PlainSecret config.auth ∨ after.authSecret = after'.authSecret) ∧
    (after.dump = after'.dump ↔
      ¬ PlainSecret config.auth ∨ after.authSecret = after'.authSecret) := by
  have told : after.auth = varied.auth ↔
      ¬ PlainSecret config.auth ∨ after.authSecret = after'.authSecret := by
    rw [auth_of_resolve environment config after resolved]
    cases varies with
    | referred other reference => exact iff_of_true rfl (.inl reference)
    | plain auth own new =>
      rw [authSecret_of_plain environment config after resolved own,
        authSecret_of_plain environment _ after' resolved' new]
      simp [own]
  have lines := line_withSecret_iff after varied.auth after'.authSecret
  have dumps := dump_withSecret_iff after varied.auth after'.authSecret
  rw [← after_of_varies environment other config varied after after' varies resolved resolved']
    at lines dumps
  exact ⟨lines.trans told, dumps.trans told⟩

def holding (secret : String) : Environment :=
  ⟨[("TOKEN", secret)], fun _ => .error .missing⟩

def referringEther : AssetConfig :=
  { asset := "ETH", auth := "env:TOKEN" }

theorem token_not_printed :
    let after := referringEther.completed .eth .native "first"
    let after' := referringEther.completed .eth .native "second"
    referringEther.resolve (holding "first") = (after, .ok ()) ∧
      referringEther.resolve (holding "second") = (after', .ok ()) ∧
      after.authSecret ≠ after'.authSecret ∧ after.line = after'.line ∧ after.dump = after'.dump := by
  intro after after'
  have reference : ¬ PlainSecret referringEther.auth := by decide
  have resolved : referringEther.resolve (holding "first") = (after, .ok ()) := by decide
  have resolved' : referringEther.resolve (holding "second") = (after', .ok ()) := by decide
  obtain ⟨lines, dumps⟩ := printed_alike_iff _ _ _ _ after after' (.referred _ reference) resolved
    resolved'
  exact ⟨resolved, resolved', by decide, lines.mpr (.inl reference), dumps.mpr (.inl reference)⟩

def plainEther : AssetConfig :=
  { asset := "ETH", auth := "hunter2" }

theorem plain_secret_printed :
    ¬ ∀ (environment : Environment) (config after after' : AssetConfig) (auth : String),
      PlainSecret config.auth → PlainSecret auth →
      config.resolve environment = (after, .ok ()) →
      resolve environment { config with auth := auth } = (after', .ok ()) →
        after.line = after'.line ∧ after.dump = after'.dump := by
  intro hidden
  let after := plainEther.completed .eth .native "hunter2"
  have resolved : plainEther.resolve bare = (after, .ok ()) := by decide
  have resolved' : resolve bare { plainEther with auth := "" } =
      (after.withSecret "" "", .ok ()) := by decide
  have lines := (hidden bare plainEther after _ "" (by decide) (by decide) resolved resolved').1
  revert lines
  decide

end AssetConfig

end Multichain
