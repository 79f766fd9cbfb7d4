import Mathlib.Algebra.BigOperators.Fin
import Mathlib.Data.List.FinRange

/-! # Families of parties

Finitely many parties with one state each. What they hold together changes by
what the party that moves gains or gives up. -/

namespace NetLatencyLab.Family

variable {parties : Nat} {State Item : Type*}

def gather (held : Fin parties → List Item) : List Item := (List.finRange parties).flatMap held

private theorem gather_split (held : Fin parties → List Item) (party : Fin parties) :
    ∃ before after, ∀ next : List Item,
      gather (Function.update held party next) = before ++ next ++ after := by
  rcases List.append_of_mem (List.mem_finRange party) with ⟨before, after, split⟩
  have distinct := List.nodup_finRange parties
  rw [split, List.nodup_append, List.nodup_cons] at distinct
  rcases distinct with ⟨-, ⟨notAfter, -⟩, apart⟩
  have notBefore : party ∉ before := fun member => apart party member party List.mem_cons_self rfl
  have same : ∀ others : List (Fin parties), party ∉ others → ∀ next : List Item,
      others.flatMap (Function.update held party next) = others.flatMap held := by
    intro others absent next
    apply List.flatMap_congr
    intro other member
    exact Function.update_of_ne (ne_of_mem_of_not_mem member absent) next held
  refine ⟨before.flatMap held, after.flatMap held, ?_⟩
  intro next
  rw [gather, split, List.flatMap_append, List.flatMap_cons, same before notBefore,
    same after notAfter, Function.update_self, List.append_assoc]

theorem gather_update_perm (held : Fin parties → List Item) (party : Fin parties)
    (next : List Item) :
    (gather (Function.update held party next)).Perm
      (next ++ gather (Function.update held party [])) := by
  rcases gather_split held party with ⟨before, after, split⟩
  rw [split, split, List.append_nil, List.append_assoc]
  exact List.perm_append_comm_assoc before next after

theorem gather_perm (held : Fin parties → List Item) (party : Fin parties) :
    (gather held).Perm (held party ++ gather (Function.update held party [])) := by
  simpa using gather_update_perm held party (held party)

theorem gather_gain (held : Fin parties → List Item) (party : Fin parties) (gained : List Item) :
    (gather (Function.update held party (held party ++ gained))).Perm (gather held ++ gained) := by
  have front := gather_update_perm held party (held party ++ gained)
  rw [List.append_assoc] at front
  have aside : (gained ++ gather (Function.update held party [])).Perm
      (gather (Function.update held party []) ++ gained) := List.perm_append_comm
  have back := (gather_perm held party).symm.append_right gained
  rw [List.append_assoc] at back
  exact front.trans ((aside.append_left (held party)).trans back)

theorem sum_update (measure : State → Nat) (states : Fin parties → State)
    (party : Fin parties) (next : State) :
    ∑ index, measure (Function.update states party next index) + measure (states party) =
      ∑ index, measure (states index) + measure next := by
  have moved := Finset.add_sum_erase Finset.univ
    (fun index => measure (Function.update states party next index)) (Finset.mem_univ party)
  have before := Finset.add_sum_erase Finset.univ (fun index => measure (states index))
    (Finset.mem_univ party)
  have rest : ∑ index ∈ Finset.univ.erase party, measure (Function.update states party next index) =
      ∑ index ∈ Finset.univ.erase party, measure (states index) := by
    apply Finset.sum_congr rfl
    intro index member
    rw [Function.update_of_ne (Finset.ne_of_mem_erase member)]
  rw [← moved, ← before, rest, Function.update_self]
  omega

end NetLatencyLab.Family
