import Mathlib.Data.List.Basic

/-! # Neighbours in a list

Each row of a list with the row after it. -/

namespace NetLatencyLab.Neighbours

variable {Row : Type*} {rows : List Row} {left right : Row}

def neighbours (rows : List Row) : List (Row × Row) := rows.zip rows.tail

theorem mem_neighbours_cons_cons {first second : Row} {rest : List Row} {pair : Row × Row} :
    pair ∈ neighbours (first :: second :: rest) ↔
      pair = (first, second) ∨ pair ∈ neighbours (second :: rest) := List.mem_cons

private theorem mem_neighbours_cons (first : Row) {pair : Row × Row}
    (adjacent : pair ∈ neighbours rows) :
    pair ∈ neighbours (first :: rows) := by
  cases rows with
  | nil => cases adjacent
  | cons second rest => exact mem_neighbours_cons_cons.mpr (Or.inr adjacent)

theorem mem_neighbours_filter {keep : Row → Bool} (adjacent : (left, right) ∈ neighbours rows)
    (keepsLeft : keep left) (keepsRight : keep right) :
    (left, right) ∈ neighbours (rows.filter keep) := by
  induction rows with
  | nil => cases adjacent
  | cons first rows induction =>
      cases rows with
      | nil => cases adjacent
      | cons second rest =>
          rcases mem_neighbours_cons_cons.mp adjacent with same | later
          · cases same
            rw [List.filter_cons_of_pos keepsLeft, List.filter_cons_of_pos keepsRight]
            exact List.mem_cons_self
          · have inside := induction later
            by_cases keeps : keep first
            · rw [List.filter_cons_of_pos keeps]
              exact mem_neighbours_cons first inside
            · rw [List.filter_cons_of_neg keeps]
              exact inside

theorem rel_of_mem_neighbours {relation : Row → Row → Prop} (sorted : rows.Pairwise relation)
    (adjacent : (left, right) ∈ neighbours rows) : relation left right := by
  induction rows with
  | nil => cases adjacent
  | cons first rows induction =>
      rcases List.pairwise_cons.mp sorted with ⟨before, sorted⟩
      cases rows with
      | nil => cases adjacent
      | cons second rest =>
          rcases mem_neighbours_cons_cons.mp adjacent with same | later
          · cases same
            exact before right List.mem_cons_self
          · exact induction sorted later

end NetLatencyLab.Neighbours
