import Mathlib.Algebra.GroupWithZero.Nat
import Mathlib.Algebra.Order.BigOperators.Group.List
import Mathlib.Algebra.Order.Group.Nat
import Mathlib.Data.List.Dedup
import Mathlib.Data.List.MinMax
import Mathlib.Data.List.Sort

/-! # Grouped rows

The rows of a table split by a key, and one row chosen from every group. -/

namespace NetLatencyLab.Grouping

variable {Row Key Value : Type*} [DecidableEq Key]

def groups (before : Key → Key → Bool) (key : Row → Key) (rows : List Row) :
    List (Key × List Row) :=
  ((rows.map key).dedup.insertionSort fun left right => before left right).map fun value =>
    (value, rows.filter fun row => key row = value)

theorem mem_groups {before : Key → Key → Bool} {key : Row → Key} {rows : List Row}
    {group : Key × List Row} :
    group ∈ groups before key rows ↔
      (∃ row ∈ rows, key row = group.1) ∧ group.2 = rows.filter fun row => key row = group.1 := by
  rcases group with ⟨value, members⟩
  simp only [groups, List.mem_map, List.mem_insertionSort, List.mem_dedup, Prod.mk.injEq]
  constructor
  · rintro ⟨other, inside, rfl, rfl⟩
    exact ⟨inside, rfl⟩
  · rintro ⟨inside, same⟩
    exact ⟨value, inside, rfl, same.symm⟩

theorem group_mem_groups (before : Key → Key → Bool) (key : Row → Key) {rows : List Row}
    {row : Row} (member : row ∈ rows) :
    (key row, rows.filter fun other => key other = key row) ∈ groups before key rows :=
  mem_groups.mpr ⟨⟨row, member, rfl⟩, rfl⟩

theorem filter_key_blocks {key : Row → Key} {blocks : List (Key × List Row)}
    (keyed : ∀ block ∈ blocks, ∀ row ∈ block.2, key row = block.1)
    (distinct : (blocks.map Prod.fst).Nodup) {block : Key × List Row} (member : block ∈ blocks) :
    (blocks.flatMap Prod.snd).filter (fun row => key row = block.1) = block.2 := by
  induction blocks with
  | nil => cases member
  | cons first rest induction =>
      rw [List.map_cons, List.nodup_cons] at distinct
      rw [List.flatMap_cons, List.filter_append]
      have restKeyed : ∀ block ∈ rest, ∀ row ∈ block.2, key row = block.1 := fun block inside =>
        keyed block (List.mem_cons_of_mem _ inside)
      rcases List.mem_cons.mp member with rfl | inside
      · have whole : block.2.filter (fun row => key row = block.1) = block.2 := by
          rw [List.filter_eq_self]
          intro row rowMember
          simpa using keyed block member row rowMember
        have others : (rest.flatMap Prod.snd).filter (fun row => key row = block.1) = [] := by
          rw [List.filter_eq_nil_iff]
          intro row rowMember
          rcases List.mem_flatMap.mp rowMember with ⟨other, otherMember, rowInside⟩
          rw [restKeyed other otherMember row rowInside, decide_eq_true_eq]
          intro same
          apply distinct.1
          rw [← same]
          exact List.mem_map_of_mem otherMember
        rw [whole, others, List.append_nil]
      · have others : first.2.filter (fun row => key row = block.1) = [] := by
          rw [List.filter_eq_nil_iff]
          intro row rowMember
          rw [keyed first List.mem_cons_self row rowMember, decide_eq_true_eq]
          intro same
          apply distinct.1
          rw [same]
          exact List.mem_map_of_mem inside
        rw [others, List.nil_append]
        exact induction restKeyed distinct.2 inside

theorem length_dedup_le_one_iff {values : List Key} :
    values.dedup.length ≤ 1 ↔ ∀ left ∈ values, ∀ right ∈ values, left = right := by
  have distinct := List.nodup_dedup values
  have inside : ∀ value, value ∈ values ↔ value ∈ values.dedup := fun value => List.mem_dedup.symm
  simp only [inside]
  cases split : values.dedup with
  | nil => simp
  | cons first rest =>
      rw [split] at distinct
      cases rest with
      | nil => simp
      | cons second rest =>
          have different : first ≠ second := by
            rintro rfl
            simp at distinct
          constructor
          · intro short
            simp at short
          · intro agree
            exact absurd (agree first (by simp) second (by simp)) different

section Extremes

variable [LinearOrder Value]

theorem getD_max?_mem {values : List Value} (occupied : values ≠ [])
    (default : Value) : values.max?.getD default ∈ values := by
  cases greatest : values.max? with
  | none => exact absurd (List.max?_eq_none_iff.mp greatest) occupied
  | some value => exact List.max?_mem greatest

theorem getD_min?_mem {values : List Value} (occupied : values ≠ [])
    (default : Value) : values.min?.getD default ∈ values := by
  cases least : values.min? with
  | none => exact absurd (List.min?_eq_none_iff.mp least) occupied
  | some value => exact List.min?_mem least

theorem le_getD_max? {values : List Value} {value : Value} (member : value ∈ values)
    (default : Value) : value ≤ values.max?.getD default := by
  cases greatest : values.max? with
  | none =>
      rw [List.max?_eq_none_iff.mp greatest] at member
      cases member
  | some bound => exact (List.max?_eq_some_iff.mp greatest).2 value member

theorem getD_min?_le {values : List Value} {value : Value} (member : value ∈ values)
    (default : Value) : values.min?.getD default ≤ value := by
  cases least : values.min? with
  | none =>
      rw [List.min?_eq_none_iff.mp least] at member
      cases member
  | some bound => exact (List.min?_eq_some_iff.mp least).2 value member

end Extremes

section FirstMaxima

variable [LinearOrder Value]

def firstMaxima (before : Key → Key → Bool) (key : Row → Key) (value : Row → Value)
    (rows : List Row) : List Row :=
  (groups before key rows).filterMap fun group => group.2.argmax value

theorem mem_firstMaxima {before : Key → Key → Bool} {key : Row → Key} {value : Row → Value}
    {rows : List Row} {row : Row} (chosen : row ∈ firstMaxima before key value rows) :
    row ∈ rows ∧ ∀ other ∈ rows, key other = key row → value other ≤ value row := by
  rcases List.mem_filterMap.mp chosen with ⟨⟨shared, members⟩, inside, greatest⟩
  rcases mem_groups.mp inside with ⟨-, same⟩
  simp only at same greatest
  rw [same] at greatest
  have member := List.mem_filter.mp (List.argmax_mem greatest)
  have keyed : key row = shared := by simpa using member.2
  constructor
  · exact member.1
  · intro other otherMember otherKeyed
    apply List.le_of_mem_argmax _ greatest
    rw [List.mem_filter]
    exact ⟨otherMember, by simp [otherKeyed, keyed]⟩

theorem exists_mem_firstMaxima (before : Key → Key → Bool) (key : Row → Key)
    (value : Row → Value) {rows : List Row} {row : Row} (member : row ∈ rows) :
    ∃ chosen ∈ firstMaxima before key value rows, key chosen = key row := by
  have inside : row ∈ rows.filter fun other => key other = key row := by simp [member]
  cases greatest : (rows.filter fun other => key other = key row).argmax value with
  | none =>
      rw [List.argmax_eq_none] at greatest
      rw [greatest] at inside
      cases inside
  | some chosen =>
      refine ⟨chosen, ?_, ?_⟩
      · exact List.mem_filterMap.mpr ⟨_, group_mem_groups before key member, greatest⟩
      · simpa using (List.mem_filter.mp (List.argmax_mem greatest)).2

theorem rel_of_mem_firstMaxima {before : Key → Key → Bool} {key : Row → Key} {value : Row → Value}
    {rows : List Row} {earlier : Row → Row → Prop} (ordered : rows.Pairwise earlier) {row other : Row}
    (chosen : row ∈ firstMaxima before key value rows) (member : other ∈ rows)
    (keyed : key other = key row) (greatest : value row ≤ value other) (different : row ≠ other) :
    earlier row other := by
  classical
  rcases List.mem_filterMap.mp chosen with ⟨⟨shared, members⟩, inside, maximal⟩
  rcases mem_groups.mp inside with ⟨-, same⟩
  simp only at same maximal
  rw [same] at maximal
  have rowMember := List.argmax_mem maximal
  have rowKeyed : key row = shared := of_decide_eq_true (List.mem_filter.mp rowMember).2
  have otherMember : other ∈ rows.filter fun row => key row = shared :=
    List.mem_filter.mpr ⟨member, by rw [keyed, rowKeyed]; exact decide_eq_true rfl⟩
  have position := List.index_of_argmax maximal otherMember greatest
  have sorted := List.pairwise_iff_getElem.mp (ordered.filter fun row => key row = shared)
  have rowInside := List.idxOf_lt_length_iff.mpr rowMember
  have otherInside := List.idxOf_lt_length_iff.mpr otherMember
  rcases Nat.lt_or_eq_of_le position with before | equal
  · have related := sorted _ _ rowInside otherInside before
    rw [List.getElem_idxOf, List.getElem_idxOf] at related
    exact related
  · exact absurd ((List.idxOf_inj rowMember).mp equal) different

end FirstMaxima

/-! ## The order of the rows -/

structure Linear (before : Key → Key → Bool) : Prop where
  total : ∀ left right, before left right ∨ before right left
  trans : ∀ {first second third}, before first second → before second third → before first third
  antisymm : ∀ {left right}, before left right → before right left → left = right

omit [DecidableEq Key] in
private theorem insertionSort_eq_of_perm {before : Key → Key → Bool} (order : Linear before)
    {keys other : List Key} (same : keys.Perm other) :
    keys.insertionSort (fun left right => before left right) =
      other.insertionSort fun left right => before left right := by
  let relation : Key → Key → Prop := fun left right => before left right
  have totality : Std.Total relation := ⟨order.total⟩
  have transitivity : IsTrans Key relation := ⟨fun _ _ _ => order.trans⟩
  have antisymmetry : Std.Antisymm relation := ⟨fun _ _ => order.antisymm⟩
  have perm : (keys.insertionSort relation).Perm (other.insertionSort relation) :=
    (List.perm_insertionSort relation keys).trans
      (same.trans (List.perm_insertionSort relation other).symm)
  exact perm.eq_of_pairwise' (List.pairwise_insertionSort relation keys)
    (List.pairwise_insertionSort relation other)

theorem getD_max?_eq_of_perm [LinearOrder Value] {values other : List Value}
    (same : values.Perm other) (default : Value) :
    values.max?.getD default = other.max?.getD default := by
  by_cases empty : values = []
  · subst empty
    rw [List.nil_perm.mp same]
  · have otherOccupied : other ≠ [] := fun none => empty (List.perm_nil.mp (none ▸ same))
    apply le_antisymm
    · exact le_getD_max? (same.mem_iff.mp (getD_max?_mem empty default)) default
    · exact le_getD_max? (same.mem_iff.mpr (getD_max?_mem otherOccupied default)) default

theorem getD_min?_eq_of_perm [LinearOrder Value] {values other : List Value}
    (same : values.Perm other) (default : Value) :
    values.min?.getD default = other.min?.getD default := by
  by_cases empty : values = []
  · subst empty
    rw [List.nil_perm.mp same]
  · have otherOccupied : other ≠ [] := fun none => empty (List.perm_nil.mp (none ▸ same))
    apply le_antisymm
    · exact getD_min?_le (same.mem_iff.mpr (getD_min?_mem otherOccupied default)) default
    · exact getD_min?_le (same.mem_iff.mp (getD_min?_mem empty default)) default

theorem groups_eq_of_perm {before : Key → Key → Bool} (order : Linear before) (key : Row → Key)
    {rows other : List Row} (same : rows.Perm other) :
    groups before key other =
      (groups before key rows).map fun group =>
        (group.1, other.filter fun row => key row = group.1) := by
  rw [groups, groups, List.map_map,
    insertionSort_eq_of_perm order (same.map key).dedup]
  rfl

/-! ## Rows seen through a map -/

theorem argmax_map {Other : Type*} [LinearOrder Value] (transform : Row → Other)
    (value : Other → Value) (rows : List Row) :
    (rows.map transform).argmax value = (rows.argmax (value ∘ transform)).map transform := by
  induction rows using List.reverseRecOn with
  | nil => rfl
  | append_singleton rows row induction =>
      rw [List.map_append, List.map_singleton, List.argmax_concat, List.argmax_concat, induction]
      cases rows.argmax (value ∘ transform) with
      | none => rfl
      | some greatest =>
          symm
          apply apply_ite (Option.map transform)

theorem groups_map {Other : Type*} (before : Key → Key → Bool) (transform : Row → Other)
    (key : Other → Key) (rows : List Row) :
    groups before key (rows.map transform) =
      (groups before (key ∘ transform) rows).map fun group =>
        (group.1, group.2.map transform) := by
  rw [groups, groups, List.map_map, List.map_map]
  apply List.map_congr_left
  intro shared _
  rw [List.filter_map]
  rfl

theorem firstMaxima_map {Other : Type*} [LinearOrder Value] (before : Key → Key → Bool)
    (transform : Row → Other) (key : Other → Key) (value : Other → Value) (rows : List Row) :
    firstMaxima before key value (rows.map transform) =
      (firstMaxima before (key ∘ transform) (value ∘ transform) rows).map transform := by
  rw [firstMaxima, firstMaxima, groups_map, List.filterMap_map, List.map_filterMap]
  apply List.filterMap_congr
  intro group _
  exact argmax_map transform value group.2

/-! ## Rows counted by key -/

def countOf (key : Row → Key) (test : Row → Bool) (rows : List Row) (value : Key) : Nat :=
  rows.countP fun row => test row && key row = value

private theorem countP_eq_sum_add {keys : List Key} (distinct : keys.Nodup) (key : Row → Key)
    (test : Row → Bool) (rows : List Row) :
    rows.countP test = (keys.map (countOf key test rows)).sum +
      rows.countP fun row => test row && key row ∉ keys := by
  induction keys with
  | nil => simp
  | cons value keys induction =>
      rcases List.nodup_cons.mp distinct with ⟨fresh, distinct⟩
      have split := List.countP_eq_countP_filter_add rows
        (fun row => test row && key row ∉ keys) (fun row => key row = value)
      rw [List.countP_filter, List.countP_filter] at split
      have inside : (rows.countP fun row => (test row && key row ∉ keys) && key row = value) =
          countOf key test rows value := by
        apply List.countP_congr
        intro row _
        by_cases same : key row = value
        · simp [same, fresh]
        · simp [same]
      have outside : (rows.countP fun row => (test row && key row ∉ keys) && !(key row = value)) =
          rows.countP fun row => test row && key row ∉ value :: keys := by
        apply List.countP_congr
        intro row _
        simp [and_comm, and_left_comm]
      rw [inside, outside] at split
      rw [induction distinct, split, List.map_cons, List.sum_cons]
      omega

omit [DecidableEq Key] in
theorem sum_map_eq_iff {keys : List Key} {count : Key → Nat} {share : Nat}
    (bounded : ∀ value ∈ keys, count value ≤ share) :
    (keys.map count).sum = keys.length * share ↔ ∀ value ∈ keys, count value = share := by
  induction keys with
  | nil => simp
  | cons value keys induction =>
      rcases List.forall_mem_cons.mp bounded with ⟨first, bounded⟩
      have below : (keys.map count).sum ≤ (keys.map count).length * share := by
        apply List.sum_le_card_nsmul
        intro number member
        rcases List.mem_map.mp member with ⟨other, inside, same⟩
        rw [← same]
        exact bounded other inside
      rw [List.length_map] at below
      rw [List.forall_mem_cons, ← induction bounded, List.map_cons, List.sum_cons,
        List.length_cons, Nat.add_mul, Nat.one_mul]
      omega

/-- Where the total is right, no key falls short when none has too many and
nothing lies outside. -/
theorem counts_eq_iff {keys : List Key} (distinct : keys.Nodup) (key : Row → Key)
    {test : Row → Bool} {rows : List Row} {share : Nat}
    (total : rows.countP test = keys.length * share) :
    (∀ value ∈ keys, countOf key test rows value = share) ↔
      (∀ row ∈ rows, test row → key row ∈ keys) ∧
        ∀ value ∈ keys, countOf key test rows value ≤ share := by
  have split := countP_eq_sum_add distinct key test rows
  constructor
  · intro exact
    have bounded : ∀ value ∈ keys, countOf key test rows value ≤ share :=
      fun value member => (exact value member).le
    have sum := (sum_map_eq_iff bounded).mpr exact
    have none : (rows.countP fun row => test row && key row ∉ keys) = 0 := by omega
    refine ⟨?_, bounded⟩
    intro row member passes
    have outside := List.countP_eq_zero.mp none row member
    simpa [passes] using outside
  · intro both
    have none : (rows.countP fun row => test row && key row ∉ keys) = 0 := by
      apply List.countP_eq_zero.mpr
      intro row member outside
      rw [Bool.and_eq_true, decide_eq_true_eq] at outside
      exact outside.2 (both.1 row member outside.1)
    exact (sum_map_eq_iff both.2).mp (by omega)

end NetLatencyLab.Grouping
