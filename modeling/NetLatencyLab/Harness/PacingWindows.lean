import NetLatencyLab.Foundation.OrderStatistics
import NetLatencyLab.Harness.PacingTrace

/-! # The windows of a pacing trace

What each whole millisecond of the interior carried, and how many of them may
miss the target band. -/

namespace NetLatencyLab.Harness

open Fallible (bind_eq_ok ok_bind pure_eq_ok)
open OrderStatistics (ceil_quantile_mem countP_gt_le countP_lt_le)

/-- The record lies in the window. -/
def inWindow (sender : PacingSender) (window : Nat) (record : TraceRecord) : Bool :=
  interiorStart sender + window * windowNs ≤ record.actualMonoNs ∧
    record.actualMonoNs < interiorStart sender + (window + 1) * windowNs

/-- The packets of the records in the window. -/
def carried (sender : PacingSender) (records : List TraceRecord) (window : Nat) : Int :=
  ((records.filter (inWindow sender window)).map TraceRecord.packetCount).sum

section

variable {sender : PacingSender}

theorem exists_window {record : TraceRecord} (counted : isCounted sender record) :
    ∃ window < windowCount sender,
      (record.actualMonoNs - interiorStart sender) / windowNs = (window : Int) ∧
        ∀ other, inWindow sender other record ↔ other = window := by
  have bounds := of_decide_eq_true counted
  rw [windowsEnd] at bounds
  have width : windowNs = 1000000 := rfl
  have nonneg : 0 ≤ (record.actualMonoNs - interiorStart sender) / windowNs :=
    Int.ediv_nonneg (by omega) (by omega)
  rcases Int.eq_ofNat_of_zero_le nonneg with ⟨window, same⟩
  refine ⟨window, ?_, same, ?_⟩
  · rw [width] at same bounds
    omega
  · intro other
    rw [inWindow, decide_eq_true_eq]
    rw [width] at same ⊢
    omega

private theorem inWindow_counted {record : TraceRecord} {window : Nat}
    (inside : inWindow sender window record)
    (early : window < windowCount sender) : isCounted sender record := by
  rw [inWindow, decide_eq_true_eq] at inside
  rw [isCounted, decide_eq_true_eq, windowsEnd]
  have width : windowNs = 1000000 := rfl
  rw [width] at inside ⊢
  omega

private theorem map_range_modify {count : Nat} (total : Nat → Int) {window : Nat} (item : Int) :
    ((List.range count).map total).modify window (· + item) =
      (List.range count).map fun other => total other + if other = window then item else 0 := by
  apply List.ext_getElem
  · simp
  · intro other _ _
    rw [List.getElem_modify]
    simp only [List.getElem_map, List.getElem_range, eq_comm]
    split
    · rfl
    · exact (Int.add_zero _).symm

private theorem counts_foldl (total : Nat → Int) (interior records : List TraceRecord) :
    (records.foldl (addRecord sender)
      ⟨(List.range (windowCount sender)).map total, interior⟩).counts =
        (List.range (windowCount sender)).map fun window =>
          total window + carried sender records window := by
  induction records generalizing total interior with
  | nil => simp [carried]
  | cons record records induction =>
      rw [List.foldl_cons, addRecord]
      split
      next counted =>
        rcases exists_window counted with ⟨window, early, number, unique⟩
        simp only [number, Int.toNat_natCast, map_range_modify]
        rw [induction]
        apply List.map_congr_left
        intro other _
        rw [carried, carried, List.filter_cons, Int.add_assoc]
        by_cases same : other = window
        · rw [if_pos same, if_pos ((unique other).mpr same), List.map_cons, List.sum_cons]
        · rw [if_neg same, if_neg fun inside => same ((unique other).mp inside), Int.zero_add]
      next outside =>
        rw [induction]
        apply List.map_congr_left
        intro other member
        have early := List.mem_range.mp member
        rw [carried, carried, List.filter_cons_of_neg fun inside =>
          outside (inWindow_counted inside early)]

private theorem carried_perm {records other : List TraceRecord} (same : records.Perm other)
    (window : Nat) :
    carried sender records window = carried sender other window :=
  ((same.filter _).map _).sum_eq

theorem counts_fillWindows (records : List TraceRecord) :
    (fillWindows sender (inTimeOrder records)).counts =
      (List.range (windowCount sender)).map (carried sender records) := by
  have start : List.replicate (windowCount sender) (0 : Int) =
      (List.range (windowCount sender)).map fun _ => 0 := by
    rw [List.map_const', List.length_range]
  rw [fillWindows, start, counts_foldl]
  apply List.map_congr_left
  intro window _
  rw [Int.zero_add]
  exact carried_perm (inTimeOrder_perm records) window

/-! ## Ranks -/

theorem exists_rank {values : List Int} {quantile : ℚ} {rank : Int} (positive : 0 < quantile)
    (proper : quantile ≤ 1) (ranked : nearestRank values quantile = .ok rank) :
    ∃ (index : Nat) (inside : index < (values.insertionSort (· ≤ ·)).length),
      (index : Int) = ⌈quantile * values.length⌉ - 1 ∧
        (values.insertionSort (· ≤ ·))[index] = rank := by
  rw [nearestRank] at ranked
  split at ranked
  · cases ranked
  next occupied =>
    have some : 0 < values.length := List.length_pos_iff.mpr occupied
    have length := List.length_insertionSort (· ≤ ·) values
    rcases ceil_quantile_mem positive proper some with ⟨low, high⟩
    simp only [length] at ranked
    have place : max 0 (min ((values.length : Int) - 1) (⌈quantile * values.length⌉ - 1)) =
        ⌈quantile * values.length⌉ - 1 := by omega
    rw [place] at ranked
    have inside : (⌈quantile * values.length⌉ - 1).toNat <
        (values.insertionSort (· ≤ ·)).length := by omega
    refine ⟨_, inside, by omega, ?_⟩
    cases ranked
    exact List.getElem_eq_getD 0

private theorem countP_below_le {values : List Int} {quantile bound : ℚ} {rank : Int}
    (positive : 0 < quantile) (proper : quantile ≤ 1)
    (ranked : nearestRank values quantile = .ok rank) (reaches : bound ≤ rank) :
    ((values.countP fun value : Int => (value : ℚ) < bound : Nat) : Int) ≤
      ⌈quantile * values.length⌉ - 1 := by
  rcases exists_rank positive proper ranked with ⟨index, inside, place, found⟩
  have sorted : (values.insertionSort (· ≤ ·)).Pairwise (· ≤ ·) :=
    List.pairwise_insertionSort (· ≤ ·) values
  have weaker : (values.countP fun value : Int => (value : ℚ) < bound) ≤
      values.countP (· < rank) := by
    apply List.countP_mono_left
    intro value _ below
    rw [decide_eq_true_eq] at below ⊢
    exact_mod_cast below.trans_le reaches
  have few := countP_lt_le sorted inside found.ge
  rw [(List.perm_insertionSort (· ≤ ·) values).countP_eq] at few
  omega

private theorem countP_above_le {values : List Int} {quantile bound : ℚ} {rank : Int}
    (positive : 0 < quantile) (proper : quantile ≤ 1)
    (ranked : nearestRank values quantile = .ok rank) (keeps : (rank : ℚ) ≤ bound) :
    ((values.countP fun value : Int => bound < (value : ℚ) : Nat) : Int) ≤
      values.length - ⌈quantile * values.length⌉ := by
  rcases exists_rank positive proper ranked with ⟨index, inside, place, found⟩
  have sorted : (values.insertionSort (· ≤ ·)).Pairwise (· ≤ ·) :=
    List.pairwise_insertionSort (· ≤ ·) values
  have weaker : (values.countP fun value : Int => bound < (value : ℚ)) ≤
      values.countP (rank < ·) := by
    apply List.countP_mono_left
    intro value _ above
    rw [decide_eq_true_eq] at above ⊢
    exact_mod_cast keeps.trans_lt above
  have few := countP_gt_le sorted inside found.le
  rw [(List.perm_insertionSort (· ≤ ·) values).countP_eq] at few
  rw [List.length_insertionSort] at few inside
  omega

private theorem ranks_of_analysis {trace : TraceTable} {records : List TraceRecord}
    (read : readTrace trace = .ok records) {ratePps batchWindowUs : Int} {analysis : PacingAnalysis}
    (analyzed : analyzePacingTrace trace sender ratePps batchWindowUs = .ok analysis) :
    let totals := (List.range (windowCount sender)).map (carried sender records)
    analysis.windowCount = windowCount sender ∧
      rankOrZero totals (1 / 100) = .ok analysis.p1Packets ∧
      rankOrZero totals (99 / 100) = .ok analysis.p99Packets := by
  intro totals
  rw [analyzePacingTrace, read] at analyzed
  simp only [ok_bind, counts_fillWindows, bind_eq_ok, pure_eq_ok] at analyzed
  rcases analyzed with ⟨p1, first, p99, last, same⟩
  rw [← same]
  exact ⟨rfl, first, last⟩

/-- Every counted record is in the window of its index, the windows hold what
their records carried, the ranks are taken of them, and a trace that passes has
few windows off the target. -/
theorem windows_carry {trace : TraceTable} {records : List TraceRecord}
    (read : readTrace trace = .ok records) (ratePps batchWindowUs : Int) :
    (∀ record ∈ records, isCounted sender record → ∃ window < windowCount sender,
      (record.actualMonoNs - interiorStart sender) / windowNs = (window : Int) ∧
        ∀ other, inWindow sender other record ↔ other = window) ∧
    (fillWindows sender (inTimeOrder records)).counts =
      (List.range (windowCount sender)).map (carried sender records) ∧
    ∀ analysis, analyzePacingTrace trace sender ratePps batchWindowUs = .ok analysis →
      let totals := (List.range (windowCount sender)).map (carried sender records)
      (analysis.windowCount = windowCount sender ∧
        rankOrZero totals (1 / 100) = .ok analysis.p1Packets ∧
        rankOrZero totals (99 / 100) = .ok analysis.p99Packets) ∧
      (analysis.passed →
        (records.map TraceRecord.packetCount).sum = sender.successfulSends ∧
        (((List.range (windowCount sender)).countP fun window =>
          (carried sender records window : ℚ) < 90 / 100 * (ratePps / 1000) : Nat) : Int) ≤
            ⌈(1 / 100 * windowCount sender : ℚ)⌉ - 1 ∧
        (((List.range (windowCount sender)).countP fun window =>
          110 / 100 * (ratePps / 1000) < (carried sender records window : ℚ) : Nat) : Int) ≤
            windowCount sender - ⌈(99 / 100 * windowCount sender : ℚ)⌉) := by
  refine ⟨fun record _ counted => exists_window counted, counts_fillWindows records, ?_⟩
  intro analysis analyzed
  refine ⟨ranks_of_analysis read analyzed, ?_⟩
  intro passed
  rcases passes_of_analysis analyzed with ⟨others, again, passes⟩
  rw [read] at again
  cases again
  have accepted := passes passed
  have total := accepted.reconciles
  rw [((inTimeOrder_perm records).map TraceRecord.packetCount).sum_eq] at total
  rcases accepted.p1 with ⟨p1, low, reaches⟩
  rcases accepted.p99 with ⟨p99, high, keeps⟩
  have below := countP_below_le (by norm_num) (by norm_num) low reaches
  have above := countP_above_le (by norm_num) (by norm_num) high keeps
  rw [length_counts_fillWindows, counts_fillWindows, List.countP_map] at below above
  refine ⟨total, ?_, ?_⟩
  · rw [show (90 / 100 : ℚ) = 9 / 10 by norm_num]
    exact below
  · rw [show (110 / 100 : ℚ) = 11 / 10 by norm_num]
    exact above

end

theorem evenTrace_windows :
    ∃ records, readTrace evenTrace = .ok records ∧
      (fillWindows briefSender (inTimeOrder records)).counts =
        (List.range 1).map (carried briefSender records) ∧
      (records.map TraceRecord.packetCount).sum = 4 := by
  rcases evenTrace_passes with ⟨analysis, analyzed, passed⟩
  rcases windows_carry readTrace_evenTrace 2000 300 with ⟨_, counts, band⟩
  exact ⟨_, readTrace_evenTrace, counts, ((band analysis analyzed).2 passed).1⟩

end NetLatencyLab.Harness
