import NetLatencyLab.Foundation.Family
import Mathlib.Data.List.Nodup

/-! # Numbers drawn from a shared counter

Each number is drawn by one party, which releases it at most once or gives it
up. No number is released twice, whatever the interleaving of the parties. -/

namespace NetLatencyLab

open Family (gather gather_gain gather_perm gather_update_perm)

variable {parties : Nat}

/-- The numbers below `next` that are still held or have been released. -/
structure Tickets (next : Nat) (held : Fin parties → List Nat) (released : List Nat) : Prop where
  distinct : (gather held ++ released).Nodup
  drawn : ∀ number ∈ gather held ++ released, number < next

namespace Tickets

variable {next : Nat} {held : Fin parties → List Nat} {released : List Nat}

theorem start (empty : ∀ party, held party = []) : Tickets 0 held [] := by
  have nothing : gather held = [] := by simp [gather, empty]
  exact ⟨by simp [nothing], by simp [nothing]⟩

private theorem of_perm (tickets : Tickets next held released) {other : Fin parties → List Nat}
    {sent : List Nat} (same : (gather other ++ sent).Perm (gather held ++ released)) :
    Tickets next other sent where
  distinct := same.nodup_iff.mpr tickets.distinct
  drawn := fun number member => tickets.drawn number (same.mem_iff.mp member)

theorem draw (tickets : Tickets next held released) (party : Fin parties) (count : Nat) :
    Tickets (next + count)
      (Function.update held party (held party ++ List.range' next count)) released := by
  have gained := (gather_gain held party (List.range' next count)).append_right released
  have aside : (gather held ++ List.range' next count ++ released).Perm
      (List.range' next count ++ (gather held ++ released)) := by
    rw [List.append_assoc]
    exact List.perm_append_comm_assoc _ _ _
  have same := gained.trans aside
  constructor
  · rw [same.nodup_iff, List.nodup_append']
    refine ⟨List.nodup_range', tickets.distinct, ?_⟩
    intro number fresh old
    have lower := (List.mem_range'_1.mp fresh).1
    have upper := tickets.drawn number old
    omega
  · intro number member
    rcases List.mem_append.mp (same.mem_iff.mp member) with fresh | old
    · exact (List.mem_range'_1.mp fresh).2
    · exact Nat.lt_of_lt_of_le (tickets.drawn number old) (Nat.le_add_right next count)

theorem release (tickets : Tickets next held released) (party : Fin parties)
    {first rest : List Nat} (split : held party = first ++ rest) :
    Tickets next (Function.update held party rest) (released ++ first) := by
  apply tickets.of_perm
  have before := (gather_perm held party).append_right released
  have after := (gather_update_perm held party rest).append_right (released ++ first)
  rw [split] at before
  apply after.trans (List.Perm.trans ?_ before.symm)
  generalize gather (Function.update held party []) = others
  have moved : (rest ++ others ++ (released ++ first)).Perm
      (first ++ (rest ++ others ++ released)) := by
    rw [← List.append_assoc (rest ++ others)]
    exact List.perm_append_comm
  simpa only [List.append_assoc] using moved

theorem giveUp (tickets : Tickets next held released) (party : Fin parties) :
    Tickets next (Function.update held party []) released := by
  have split := (gather_perm held party).append_right released
  rw [List.append_assoc] at split
  constructor
  · exact (List.nodup_append'.mp (split.nodup_iff.mp tickets.distinct)).2.1
  · intro number member
    exact tickets.drawn number (split.mem_iff.mpr (List.mem_append_right _ member))

theorem released_nodup (tickets : Tickets next held released) : released.Nodup :=
  (List.nodup_append'.mp tickets.distinct).2.1

end Tickets

/-! ## Histories of draws -/

/-- The numbers of a range that starts at `first`. -/
def drawnNumbers (range : Nat × Nat) : List Nat := List.range' range.1 range.2

theorem flatMap_drawn_concat {ranges : List (Nat × Nat)} {next : Nat}
    (partitioned : ranges.flatMap drawnNumbers = List.range next) (count : Nat) :
    (ranges ++ [(next, count)]).flatMap drawnNumbers = List.range (next + count) := by
  have extended : List.range next ++ List.range' next count = List.range (next + count) := by
    simpa only [List.range_eq_range', Nat.zero_add] using
      List.range'_append_1 (s := 0) (m := next) (n := count)
  rw [List.flatMap_append, partitioned, List.flatMap_singleton]
  exact extended

end NetLatencyLab
