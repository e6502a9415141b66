import Mathlib

/-!
Chains of steps of which each may fail.
-/

set_option autoImplicit false

namespace Multichain.Outcome

variable {ε α β : Type}

theorem bind_eq_ok_iff (first : Except ε α) (next : α → Except ε β) (value : β) :
    (first >>= next) = .ok value ↔ ∃ middle, first = .ok middle ∧ next middle = .ok value := by
  cases first <;> simp [bind, Except.bind]

theorem bind_eq_error_iff (first : Except ε α) (next : α → Except ε β) (fault : ε) :
    (first >>= next) = .error fault ↔
      first = .error fault ∨ ∃ middle, first = .ok middle ∧ next middle = .error fault := by
  cases first <;> simp [bind, Except.bind]

theorem pure_eq_ok_iff (result value : α) :
    (pure result : Except ε α) = .ok value ↔ result = value := by
  simp [pure, Except.pure]

theorem check_eq_ok_iff (condition : Prop) [Decidable condition] (fault : ε) (after : α → Except ε β)
    (rest : Except ε β) (value : β) :
    (if condition then throw fault >>= after else rest) = .ok value ↔
      ¬ condition ∧ rest = .ok value := by
  split_ifs with failed <;> simp [failed, throw, throwThe, MonadExceptOf.throw, bind, Except.bind]

theorem exists_results_iff (wrap : α → β) (outcome : β) (outcomes : List β) (results : List α) :
    (∃ result, outcome = wrap result ∧ ∃ others, outcomes = others.map wrap ∧
      result :: others = results) ↔ outcome :: outcomes = results.map wrap := by
  cases results with
  | nil => simp
  | cons result others =>
    simp only [List.map_cons, List.cons.injEq]
    constructor
    · rintro ⟨_, first, _, tail, rfl, rfl⟩
      exact ⟨first, tail⟩
    · rintro ⟨first, tail⟩
      exact ⟨result, first, others, tail, rfl, rfl⟩

theorem mapM_eq_ok_iff (f : α → Except ε β) (values : List α) (results : List β) :
    values.mapM f = .ok results ↔ values.map f = results.map .ok := by
  induction values generalizing results with
  | nil => cases results <;> simp [pure_eq_ok_iff]
  | cons value rest ih =>
    simp only [List.mapM_cons, bind_eq_ok_iff, pure_eq_ok_iff, List.map_cons, ih]
    exact exists_results_iff _ _ _ results

theorem mem_mapM_iff (f : α → Except ε β) (values : List α) (results : List β)
    (all : values.mapM f = .ok results) (result : β) :
    result ∈ results ↔ ∃ value ∈ values, f value = .ok result := by
  have listed : values.map f = results.map .ok := (mapM_eq_ok_iff ..).mp all
  calc
    result ∈ results ↔ Except.ok result ∈ results.map (Except.ok (ε := ε)) := by simp
    _ ↔ ∃ value ∈ values, f value = .ok result := by rw [← listed, List.mem_map]

theorem mapM_mapM {γ : Type} (f : α → Except ε β) (g : β → Except ε γ) (h : α → γ)
    (values : List α) (results : List β)
    (each : ∀ value ∈ values, ∀ result, f value = .ok result → g result = .ok (h value))
    (all : values.mapM f = .ok results) : results.mapM g = .ok (values.map h) := by
  induction values generalizing results with
  | nil =>
    obtain rfl : [] = results := by simpa [pure_eq_ok_iff] using all
    rfl
  | cons value rest ih =>
    simp only [List.mapM_cons, bind_eq_ok_iff, pure_eq_ok_iff] at all
    obtain ⟨result, first, others, tail, rfl⟩ := all
    have after := ih others (fun other member => each other (by simp [member])) tail
    rw [List.mapM_cons, each value (by simp) result first, after]
    rfl

theorem exists_mapM_iff (f : α → Except ε β) (values : List α) :
    (∃ results, values.mapM f = .ok results) ↔ ∀ value ∈ values, ∃ result, f value = .ok result := by
  induction values with
  | nil => simp [pure_eq_ok_iff]
  | cons value rest ih =>
    simp only [List.mapM_cons, bind_eq_ok_iff, pure_eq_ok_iff, List.forall_mem_cons, ← ih]
    constructor
    · rintro ⟨_, result, first, others, tail, rfl⟩
      exact ⟨⟨result, first⟩, others, tail⟩
    · rintro ⟨⟨result, first⟩, others, tail⟩
      exact ⟨_, result, first, others, tail, rfl⟩

theorem mapM_again_iff (f : α → Except ε β) (g : β → Except ε α) (values : List α) :
    (∃ results, values.mapM f = .ok results ∧ results.mapM g = .ok values) ↔
      ∀ value ∈ values, ∃ result, f value = .ok result ∧ g result = .ok value := by
  induction values with
  | nil => simp [pure_eq_ok_iff]
  | cons value rest ih =>
    rw [List.forall_mem_cons, ← ih]
    simp only [List.mapM_cons, bind_eq_ok_iff, pure_eq_ok_iff]
    constructor
    · rintro ⟨_, ⟨result, there, others, each, rfl⟩, back⟩
      simp only [List.mapM_cons, bind_eq_ok_iff, pure_eq_ok_iff, List.cons.injEq] at back
      obtain ⟨_, first, _, tail, rfl, rfl⟩ := back
      exact ⟨⟨result, there, first⟩, others, each, tail⟩
    · rintro ⟨⟨result, there, back⟩, others, each, tail⟩
      refine ⟨_, ⟨result, there, others, each, rfl⟩, ?_⟩
      rw [List.mapM_cons, back, tail]
      rfl

theorem exists_map_iff (f : α → β) (first : Except ε α) :
    (∃ result, first.map f = .ok result) ↔ ∃ value, first = .ok value := by
  cases first <;> simp [Except.map]

theorem mapM_eq_some_iff (f : α → Option β) (values : List α) (results : List β) :
    values.mapM f = some results ↔ values.map f = results.map some := by
  induction values generalizing results with
  | nil => cases results <;> simp
  | cons value rest ih =>
    simp only [List.mapM_cons, Option.bind_eq_bind, Option.bind_eq_some_iff, Option.pure_def,
      Option.some_inj, List.map_cons, ih]
    exact exists_results_iff _ _ _ results

theorem exists_error_iff (outcome : Except ε α) :
    (∃ fault, outcome = .error fault) ↔ ¬ ∃ value, outcome = .ok value := by
  cases outcome <;> simp

theorem foldlM_eq_error_iff (step : β → α → Except ε β) (start : β) (values : List α) (fault : ε) :
    values.foldlM step start = .error fault ↔
      ∃ before value after middle, values = before ++ value :: after ∧
        before.foldlM step start = .ok middle ∧ step middle value = .error fault := by
  induction values generalizing start with
  | nil => simp [pure, Except.pure]
  | cons value rest ih =>
    rw [List.foldlM_cons]
    cases first : step start value with
    | error other =>
      constructor
      · rintro ⟨⟩
        exact ⟨[], value, rest, start, rfl, rfl, first⟩
      · rintro ⟨_ | ⟨head, before⟩, other, after, middle, split, folded, failed⟩
        · obtain ⟨rfl, rfl⟩ := List.cons.inj split
          obtain rfl : start = middle := Except.ok.inj folded
          exact first.symm.trans failed
        · obtain ⟨rfl, -⟩ := List.cons.inj split
          simp [first, bind_eq_ok_iff] at folded
    | ok next =>
      refine (ih next).trans ?_
      constructor
      · rintro ⟨before, other, after, middle, rfl, folded, failed⟩
        refine ⟨value :: before, other, after, middle, rfl, ?_, failed⟩
        exact (bind_eq_ok_iff ..).mpr ⟨next, first, folded⟩
      · rintro ⟨_ | ⟨head, before⟩, other, after, middle, split, folded, failed⟩
        · obtain ⟨rfl, rfl⟩ := List.cons.inj split
          obtain rfl : start = middle := Except.ok.inj folded
          rw [first] at failed
          cases failed
        · obtain ⟨rfl, rfl⟩ := List.cons.inj split
          rw [List.foldlM_cons, first] at folded
          exact ⟨before, other, after, middle, rfl, folded, failed⟩

theorem toOption_eq_iff (first second : Except ε α) :
    first.toOption = second.toOption ↔ ∀ value, first = .ok value ↔ second = .ok value := by
  cases first with
  | error fault => cases second <;> simp [Except.toOption]
  | ok value =>
    cases second with
    | error fault => simp [Except.toOption]
    | ok other =>
      constructor
      · intro same
        obtain rfl : value = other := by simpa [Except.toOption] using same
        exact fun _ => Iff.rfl
      · intro alike
        rw [(alike value).mp rfl]

def FailsOnly (expected : ε → Prop) (outcome : Except ε α) : Prop :=
  ∀ fault, outcome = .error fault → expected fault

theorem FailsOnly.exists_fault {expected : ε → Prop} {outcome : Except ε α}
    (only : FailsOnly expected outcome) (failed : ¬ ∃ value, outcome = .ok value) :
    ∃ fault, outcome = .error fault ∧ expected fault := by
  cases outcome with
  | ok value => exact absurd ⟨value, rfl⟩ failed
  | error fault => exact ⟨fault, rfl, only fault rfl⟩

theorem failsOnly_ok (expected : ε → Prop) (value : α) : FailsOnly expected (.ok value) := by
  intro fault failed
  cases failed

theorem failsOnly_error (expected : ε → Prop) (fault : ε) (found : expected fault) :
    FailsOnly expected (.error fault : Except ε α) := by
  rintro _ ⟨⟩
  exact found

theorem failsOnly_bind (expected : ε → Prop) (first : Except ε α) (next : α → Except ε β)
    (before : FailsOnly expected first) (after : ∀ value, FailsOnly expected (next value)) :
    FailsOnly expected (first >>= next) := by
  intro fault failed
  cases first with
  | ok value => exact after value fault failed
  | error other =>
    obtain rfl : other = fault := Except.error.inj failed
    exact before other rfl

theorem failsOnly_mapM (expected : ε → Prop) (f : α → Except ε β) (values : List α)
    (each : ∀ value ∈ values, FailsOnly expected (f value)) :
    FailsOnly expected (values.mapM f) := by
  induction values with
  | nil => exact failsOnly_ok expected []
  | cons value rest ih =>
    rw [List.mapM_cons]
    have others := ih fun other member => each other (by simp [member])
    exact failsOnly_bind _ _ _ (each value (by simp)) fun _ =>
      failsOnly_bind _ _ _ others fun _ => failsOnly_ok expected _

end Multichain.Outcome
