import Mathlib.Data.List.Basic

/-! # Computations that may raise -/

namespace NetLatencyLab.Fallible

universe u v

variable {Error : Type u} {α β : Type v}

theorem bind_eq_ok {first : Except Error α} {next : α → Except Error β} {result : β} :
    (first >>= next) = .ok result ↔ ∃ value, first = .ok value ∧ next value = .ok result := by
  cases first with
  | error error => simp [bind, Except.bind]
  | ok value => simp [bind, Except.bind]

theorem pure_eq_ok {value result : α} :
    (pure value : Except Error α) = .ok result ↔ value = result := by
  simp [pure, Except.pure]

theorem map_eq_ok {first : Except Error α} {transform : α → β} {result : β} :
    first.map transform = .ok result ↔ ∃ value, first = .ok value ∧ transform value = result := by
  cases first with
  | error error => simp [Except.map]
  | ok value => simp [Except.map]

theorem toOption_eq_some {first : Except Error α} {result : α} :
    first.toOption = some result ↔ first = .ok result := by
  cases first with
  | error error => simp [Except.toOption]
  | ok value => simp [Except.toOption]

theorem ok_bind {value : α} {next : α → Except Error β} :
    ((.ok value : Except Error α) >>= next) = next value := rfl

theorem bind_some {value : α} {next : α → Option β} : (some value >>= next) = next value := rfl

/-! ## Checks -/

variable {Invalid : Type}

theorem bind_unit_eq_ok {first next : Except Invalid Unit} :
    (first >>= fun _ => next) = .ok () ↔ first = .ok () ∧ next = .ok () := by
  rw [bind_eq_ok]
  constructor
  · intro accepted
    rcases accepted with ⟨_, first, next⟩
    exact ⟨first, next⟩
  · intro accepted
    exact ⟨(), accepted.1, accepted.2⟩

theorem forM_eq_ok {each : α → Except Invalid Unit} {list : List α} :
    list.forM each = .ok () ↔ ∀ item ∈ list, each item = .ok () := by
  induction list with
  | nil => exact ⟨fun _ => nofun, fun _ => rfl⟩
  | cons item list induction =>
      rw [List.forall_mem_cons, ← induction]
      exact bind_unit_eq_ok

/-! ## Loops that succeed -/

theorem mapM_map_pure {m : Type v → Type u} [Monad m] [LawfulMonad m] {Item : Type*}
    {read : α → m β} {write : Item → α} {value : Item → β} {items : List Item}
    (reads : ∀ item ∈ items, read (write item) = pure (value item)) :
    (items.map write).mapM read = pure (items.map value) := by
  induction items with
  | nil => rfl
  | cons item items induction =>
      have later := induction fun other member => reads other (List.mem_cons_of_mem _ member)
      rw [List.map_cons, List.mapM_cons, reads item List.mem_cons_self, pure_bind, later, pure_bind]
      rfl

end NetLatencyLab.Fallible
