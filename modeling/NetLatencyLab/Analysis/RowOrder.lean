import NetLatencyLab.Analysis.ProfileTools

/-! # The order of the runs

Nothing that `select_representatives` returns depends on the order of the rows
of the per-run table. -/

namespace NetLatencyLab

open Fallible (bind_eq_ok map_eq_ok)
open Grouping (Linear mem_groups)

namespace Cell

theorem before_linear : Linear before where
  total left right := by
    cases left with
    | text left =>
        cases right with
        | text right => simpa [before] using le_total left right
        | number right => exact Or.inl rfl
    | number left =>
        cases right with
        | text right => exact Or.inr rfl
        | number right => simpa [before] using le_total left right
  trans {first second third} earlier later := by
    cases first <;> cases second <;> cases third <;> simp [before] at earlier later ⊢
    · exact le_trans earlier later
    · exact le_trans earlier later
  antisymm {left right} earlier later := by
    cases left <;> cases right <;> simp [before] at earlier later ⊢
    · exact le_antisymm earlier later
    · exact le_antisymm earlier later

private theorem keyBefore_total (left right : List Cell) :
    keyBefore left right ∨ keyBefore right left := by
  induction left generalizing right with
  | nil => exact Or.inl rfl
  | cons first left induction =>
      cases right with
      | nil => exact Or.inr rfl
      | cons other right =>
          rw [keyBefore, keyBefore]
          by_cases same : first = other
          · rw [if_pos same, if_pos same.symm]
            exact induction right
          · rw [if_neg same, if_neg fun equal => same equal.symm]
            exact before_linear.total first other

private theorem keyBefore_trans {first second third : List Cell} (earlier : keyBefore first second)
    (later : keyBefore second third) : keyBefore first third := by
  induction first generalizing second third with
  | nil => rfl
  | cons cell first induction =>
      cases second with
      | nil => cases earlier
      | cons middle second =>
          cases third with
          | nil => cases later
          | cons last third =>
              rw [keyBefore] at earlier later ⊢
              by_cases firstSame : cell = middle
              · rw [if_pos firstSame] at earlier
                by_cases lastSame : middle = last
                · rw [if_pos lastSame] at later
                  rw [if_pos (firstSame.trans lastSame)]
                  exact induction earlier later
                · rw [if_neg lastSame] at later
                  rw [firstSame, if_neg lastSame]
                  exact later
              · rw [if_neg firstSame] at earlier
                by_cases lastSame : middle = last
                · rw [← lastSame, if_neg firstSame]
                  exact earlier
                · rw [if_neg lastSame] at later
                  have different : cell ≠ last := by
                    intro same
                    subst same
                    exact firstSame (before_linear.antisymm earlier later)
                  rw [if_neg different]
                  exact before_linear.trans earlier later

theorem keyBefore_antisymm {left right : List Cell} (earlier : keyBefore left right)
    (later : keyBefore right left) : left = right := by
  induction left generalizing right with
  | nil =>
      cases right with
      | nil => rfl
      | cons other right => cases later
  | cons first left induction =>
      cases right with
      | nil => cases earlier
      | cons other right =>
          rw [keyBefore] at earlier later
          by_cases same : first = other
          · rw [if_pos same] at earlier
            rw [if_pos same.symm] at later
            rw [same, induction earlier later]
          · rw [if_neg same] at earlier
            rw [if_neg fun equal => same equal.symm] at later
            exact absurd (before_linear.antisymm earlier later) same

theorem keyBefore_linear : Linear keyBefore :=
  ⟨keyBefore_total, keyBefore_trans, keyBefore_antisymm⟩

end Cell

namespace ProfileTools

def visible (configuration : List String) (row : SustainableGroup) : SustainableGroup :=
  { row with configuration := fun key =>
      if key ∈ configuration then row.configuration key else .number 0 }

section

variable {perRun : PerRun} {campaign : String} {configuration : List String}

/-! ## Groups of runs -/

theorem insertionSort_le_eq_of_perm {Value : Type} [LinearOrder Value] {values other : List Value}
    (same : values.Perm other) : values.insertionSort (· ≤ ·) = other.insertionSort (· ≤ ·) := by
  have perm : (values.insertionSort (· ≤ ·)).Perm (other.insertionSort (· ≤ ·)) :=
    (List.perm_insertionSort _ values).trans (same.trans (List.perm_insertionSort _ other).symm)
  exact perm.eq_of_pairwise' (List.pairwise_insertionSort _ values)
    (List.pairwise_insertionSort _ other)

private theorem median_eq_of_perm {values other : List ℚ} (same : values.Perm other) :
    median values = median other := by
  rw [median, median, insertionSort_le_eq_of_perm same]

private theorem claimPopulation_perm {rows : List RunRow} (same : perRun.rows.Perm rows)
    {data : List RunRow} (population : claimPopulation perRun campaign = .ok data) :
    ∃ other, claimPopulation { perRun with rows := rows } campaign = .ok other ∧
      data.Perm other := by
  rw [claimPopulation] at population ⊢
  split at population
  · cases population
  next topology =>
    rw [if_neg topology]
    simp only at population ⊢
    have filtered := (same.filter fun run => run.campaign = campaign).filter
      fun run => run.topology ≠ "local_loopback"
    split at population
    next validity =>
      cases population
      rw [if_pos validity]
      exact ⟨_, rfl, filtered.filter fun run => run.runValid⟩
    next validity =>
      cases population
      rw [if_neg validity]
      exact ⟨_, rfl, filtered⟩

private theorem highestTested_eq_of_perm {data other : List RunRow} (same : data.Perm other)
    (run : RunRow) :
    highestTested configuration data run = highestTested configuration other run :=
  Grouping.getD_max?_eq_of_perm ((same.filter _).map _) 0

private theorem sustainableGroup_visible {data other : List RunRow} (same : data.Perm other)
    {group members : List RunRow} (sameGroup : group.Perm members) {first leading : RunRow}
    (keyed : groupKey configuration first = groupKey configuration leading) :
    (sustainableGroup campaign configuration data first group).map (visible configuration) =
      (sustainableGroup campaign configuration other leading members).map
        (visible configuration) := by
  rcases groupKey_eq_iff.mp keyed with ⟨receiver, batchSize, rate, cells⟩
  have processed := sameGroup.map RunRow.processedPps
  have median : median (group.map RunRow.processedPps) = median (members.map RunRow.processedPps) :=
    median_eq_of_perm processed
  have slowest := Grouping.getD_min?_eq_of_perm processed 0
  have fastest := Grouping.getD_max?_eq_of_perm processed 0
  have loss := Grouping.getD_max?_eq_of_perm (sameGroup.map RunRow.applicationLossPct) 0
  have tested : highestTested configuration data first = highestTested configuration other leading :=
    (highestTested_eq_of_perm same first).trans (highestTested_congr keyed)
  have runIds : (group.map RunRow.runId).insertionSort (· ≤ ·) =
      (members.map RunRow.runId).insertionSort (· ≤ ·) :=
    insertionSort_le_eq_of_perm (sameGroup.map RunRow.runId)
  have configured : (fun key => if key ∈ configuration then first.configuration key else .number 0) =
      fun key => if key ∈ configuration then leading.configuration key else Cell.number 0 := by
    funext key
    by_cases present : key ∈ configuration
    · rw [if_pos present, if_pos present, cells key present]
    · rw [if_neg present, if_neg present]
  rw [sustainableGroup, sustainableGroup, sameGroup.length_eq, sameGroup.all_eq]
  split
  · rfl
  · simp only [Option.map_some, visible]
    rw [receiver, batchSize, rate, median, slowest, fastest, loss, tested, runIds, configured]

private theorem sustainableGroups_perm {rows : List RunRow} (same : perRun.rows.Perm rows)
    {passing : List SustainableGroup} (listed : sustainableGroups perRun campaign = .ok passing) :
    ∃ other, sustainableGroups { perRun with rows := rows } campaign = .ok other ∧
      passing.map (visible perRun.configuration) = other.map (visible perRun.configuration) := by
  rw [sustainableGroups, bind_eq_ok] at listed
  rcases listed with ⟨data, population, listed⟩
  cases listed
  rcases claimPopulation_perm same population with ⟨other, alsoPopulation, sameData⟩
  rw [sustainableGroups, alsoPopulation]
  refine ⟨_, rfl, ?_⟩
  rw [Grouping.groups_eq_of_perm Cell.keyBefore_linear _ sameData, List.filterMap_map,
    List.map_filterMap, List.map_filterMap]
  apply List.filterMap_congr
  intro group inside
  rcases mem_groups.mp inside with ⟨-, members⟩
  have sameGroup : group.2.Perm
      (other.filter fun run => groupKey perRun.configuration run = group.1) := by
    rw [members]
    exact sameData.filter _
  show Option.map (visible perRun.configuration)
      (group.2.head?.bind fun first =>
        sustainableGroup campaign perRun.configuration data first group.2) =
    Option.map (visible perRun.configuration)
      ((other.filter fun run => groupKey perRun.configuration run = group.1).head?.bind fun first =>
        sustainableGroup campaign perRun.configuration other first
          (other.filter fun run => groupKey perRun.configuration run = group.1))
  cases leads : group.2.head? with
  | none =>
      rw [List.head?_eq_none_iff] at leads
      rw [leads] at sameGroup
      rw [List.nil_perm.mp sameGroup]
      rfl
  | some first =>
      have firstKey : groupKey perRun.configuration first = group.1 := by
        have member := List.mem_of_mem_head? leads
        rw [members] at member
        exact of_decide_eq_true (List.mem_filter.mp member).2
      cases otherLeads : (other.filter fun run =>
          groupKey perRun.configuration run = group.1).head? with
      | none =>
          rw [List.head?_eq_none_iff] at otherLeads
          rw [otherLeads] at sameGroup
          rw [List.perm_nil.mp sameGroup] at leads
          cases leads
      | some leading =>
          have leadingKey : groupKey perRun.configuration leading = group.1 :=
            of_decide_eq_true (List.mem_filter.mp (List.mem_of_mem_head? otherLeads)).2
          exact sustainableGroup_visible sameData sameGroup (firstKey.trans leadingKey.symm)

/-! ## Rows of the selection -/

theorem competitionKey_visible (row : SustainableGroup) :
    competitionKey configuration (visible configuration row) = competitionKey configuration row := by
  rw [competitionKey, competitionKey]
  congr 1
  apply List.map_congr_left
  intro key member
  have present : key ∈ configuration := of_decide_eq_true (List.mem_filter.mp member).2
  exact if_pos present

theorem get?_visible (row : SustainableGroup) (key : String) :
    (visible configuration row).get? configuration key = row.get? configuration key := by
  rw [SustainableGroup.get?, SustainableGroup.get?]
  split
  next present =>
    show some (if key ∈ configuration then row.configuration key else _) = _
    rw [if_pos present]
  · rfl

theorem filter_map_unseen (transform : SustainableGroup → SustainableGroup)
    (keep : SustainableGroup → Bool) (unseen : ∀ row, keep (transform row) = keep row)
    (rows : List SustainableGroup) :
    (rows.map transform).filter keep = (rows.filter keep).map transform := by
  rw [List.filter_map]
  congr 1
  apply List.filter_congr
  exact fun row _ => unseen row

theorem atWork_map (transform : SustainableGroup → SustainableGroup)
    (kept : "work_ns" ∈ configuration →
      ∀ row, (transform row).configuration "work_ns" = row.configuration "work_ns")
    (campaign : String) (workNs : Option Int) (passing : List SustainableGroup) :
    atWork configuration campaign (passing.map transform) workNs =
      (atWork configuration campaign passing workNs).map (List.map transform) := by
  cases workNs with
  | none => rfl
  | some work =>
      rw [atWork, atWork]
      split
      · rfl
      next present =>
        have unseen : ∀ row : SustainableGroup,
            decide ((transform row).configuration "work_ns" = .number work) =
              decide (row.configuration "work_ns" = .number work) := by
          intro row
          rw [kept (not_not.mp present)]
        rw [filter_map_unseen transform _ unseen]
        simp only [List.map_eq_nil_iff]
        split
        · rfl
        · rfl

theorem atWork_visible (configuration : List String) (campaign : String) (workNs : Option Int)
    (passing : List SustainableGroup) :
    atWork configuration campaign (passing.map (visible configuration)) workNs =
      (atWork configuration campaign passing workNs).map (List.map (visible configuration)) :=
  atWork_map (visible configuration) (fun present _ => if_pos present) campaign workNs passing

theorem representative_visible (configuration : List String) (passing : List SustainableGroup)
    (receiver : String) :
    representative configuration (passing.map (visible configuration)) receiver =
      (representative configuration passing receiver).map (visible configuration) := by
  have maxima : ∀ rows : List SustainableGroup,
      Grouping.firstMaxima Cell.keyBefore (competitionKey configuration)
          SustainableGroup.requestedRatePps (rows.map (visible configuration)) =
        (Grouping.firstMaxima Cell.keyBefore (competitionKey configuration)
          SustainableGroup.requestedRatePps rows).map (visible configuration) := by
    intro rows
    have keys : competitionKey configuration ∘ visible configuration =
        competitionKey configuration := by
      funext row
      exact competitionKey_visible row
    rw [Grouping.firstMaxima_map, keys]
    rfl
  have medians : ∀ rows : List SustainableGroup,
      (rows.map (visible configuration)).map SustainableGroup.processedPpsMedian =
        rows.map SustainableGroup.processedPpsMedian := fun rows => by
    rw [List.map_map]
    rfl
  have sorted : ∀ rows : List SustainableGroup,
      ((rows.map (visible configuration)).insertionSort fun left right => choiceOrder left right) =
        (rows.insertionSort fun left right => choiceOrder left right).map
          (visible configuration) := by
    intro rows
    symm
    apply List.map_insertionSort
    exact fun _ _ _ _ => Iff.rfl
  rw [representative, representative]
  simp only
  rw [filter_map_unseen (visible configuration) (fun row => row.receiver = receiver) fun _ => rfl]
  simp only [List.map_eq_nil_iff]
  split
  · rfl
  · rw [maxima, medians, filter_map_unseen (visible configuration) _ fun _ => rfl,
      sorted, List.head?_map]
    split
    next choice chosen =>
      rcases Option.map_eq_some_iff.mp chosen with ⟨row, leads, same⟩
      rw [leads, ← same]
      rfl
    next none =>
      rw [Option.map_eq_none_iff.mp none]
      rfl

theorem exists_representative_of_visible {passing other : List SustainableGroup}
    (same : passing.map (visible configuration) = other.map (visible configuration))
    {receiver : String} {choice : SustainableGroup}
    (chosen : representative configuration passing receiver = .ok choice) :
    ∃ alternative, representative configuration other receiver = .ok alternative ∧
      visible configuration alternative = visible configuration choice := by
  have seen := representative_visible configuration passing receiver
  rw [same, representative_visible, chosen] at seen
  exact map_eq_ok.mp seen

theorem selectRepresentatives_perm {rows : List RunRow} (same : perRun.rows.Perm rows)
    {workNs : Option Int} {selected : List SustainableGroup}
    (succeeds : selectRepresentatives perRun campaign workNs = .ok selected) :
    ∃ other, selectRepresentatives { perRun with rows := rows } campaign workNs = .ok other ∧
      other.map (visible perRun.configuration) = selected.map (visible perRun.configuration) := by
  rcases selectRepresentatives_eq_ok_iff.mp succeeds with ⟨listed, passing, baseline, batched,
    threaded, groups, filtered, first, second, third, all, agree⟩
  rcases sustainableGroups_perm same groups with ⟨otherListed, otherGroups, seen⟩
  have otherFiltered := atWork_visible perRun.configuration campaign workNs listed
  rw [seen, atWork_visible, filtered] at otherFiltered
  rcases map_eq_ok.mp otherFiltered with ⟨otherPassing, otherFiltered, seenPassing⟩
  rcases exists_representative_of_visible seenPassing.symm first with
    ⟨otherBaseline, otherFirst, sameBaseline⟩
  rcases exists_representative_of_visible seenPassing.symm second with
    ⟨otherBatched, otherSecond, sameBatched⟩
  rcases exists_representative_of_visible seenPassing.symm third with
    ⟨otherThreaded, otherThird, sameThreaded⟩
  have sameRows : [otherBaseline, otherBatched, otherThreaded].map (visible perRun.configuration) =
      selected.map (visible perRun.configuration) := by
    rw [all]
    simp only [List.map_cons, List.map_nil, sameBaseline, sameBatched, sameThreaded]
  refine ⟨_, ?_, sameRows⟩
  apply selectRepresentatives_eq_ok_iff.mpr
  refine ⟨otherListed, otherPassing, otherBaseline, otherBatched, otherThreaded, otherGroups,
    otherFiltered, otherFirst, otherSecond, otherThird, rfl, ?_⟩
  have read : ∀ row ∈ [otherBaseline, otherBatched, otherThreaded], ∃ original ∈ selected,
      row.get? perRun.configuration "work_ns" = original.get? perRun.configuration "work_ns" := by
    intro row member
    have image : visible perRun.configuration row ∈ selected.map (visible perRun.configuration) :=
      sameRows ▸ List.mem_map_of_mem member
    rcases List.mem_map.mp image with ⟨original, inside, same⟩
    refine ⟨original, inside, ?_⟩
    rw [← get?_visible, ← same, get?_visible]
  intro left leftMember right rightMember
  rcases read left leftMember with ⟨leftOriginal, leftInside, leftSame⟩
  rcases read right rightMember with ⟨rightOriginal, rightInside, rightSame⟩
  exact leftSame.trans ((agree leftOriginal leftInside rightOriginal rightInside).trans
    rightSame.symm)

end

end ProfileTools

end NetLatencyLab
