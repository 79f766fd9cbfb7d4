import NetLatencyLab.Harness.Counters
import Mathlib.Data.List.Infix

/-! # Sections of a counter probe

A probe prints a marker and the lines of a command for every counter. The
scanner keeps the body of the last section of each name it was asked for. -/

namespace NetLatencyLab.Counters

open PythonText (Text splitlines joinLines unlines isBoundary splitlines_unlines
  mem_of_mem_splitlines_joinLines)

def marker (name : String) : Text :=
  counterSectionPrefix.toList ++ name.toList ++ ">>>".toList

theorem marker_ne_nil (name : String) : marker name ≠ [] := by
  simp [marker, counterSectionPrefix]

theorem marker_plain {name : String} (plain : ∀ char ∈ name.toList, ¬ isBoundary char) :
    ∀ char ∈ marker name, ¬ isBoundary char := by
  have before : counterSectionPrefix.toList.all (fun char => ! isBoundary char) = true := by
    decide +kernel
  have after : ">>>".toList.all (fun char => ! isBoundary char) = true := by decide +kernel
  intro char member
  rw [marker, List.mem_append, List.mem_append] at member
  rcases member with (inside | inside) | inside
  · simpa using List.all_eq_true.mp before char inside
  · exact plain char inside
  · simpa using List.all_eq_true.mp after char inside

theorem sectionName?_marker (name : String) : sectionName? (marker name) = some name := by
  have starts : counterSectionPrefix.toList <+: marker name :=
    ⟨name.toList ++ ">>>".toList, (List.append_assoc ..).symm⟩
  have ends : ">>>".toList <:+ marker name := List.suffix_append _ _
  rw [sectionName?,
    if_pos ⟨List.isPrefixOf_iff_prefix.mpr starts, List.isSuffixOf_iff_suffix.mpr ends⟩]
  simp [marker, ← String.length_toList]

theorem sectionName?_eq_none_iff {line : Text} :
    sectionName? line = none ↔
      ¬ (counterSectionPrefix.toList <+: line ∧ ">>>".toList <:+ line) := by
  simp [sectionName?, List.isPrefixOf_iff_prefix, List.isSuffixOf_iff_suffix]

/-! ## One pass of the loop -/

theorem flush_of_ne {split : Split} {name : String} (elsewhere : split.current ≠ some name) :
    split.flush name = split.captured name := by
  cases current : split.current with
  | none => simp [Split.flush, current]
  | some other =>
      have different : name ≠ other := by
        rintro rfl
        exact elsewhere current
      simp [Split.flush, current, different]

theorem flush_of_eq {split : Split} {name : String} (here : split.current = some name) :
    split.flush name = .ok (joinLines split.lines) := by
  simp [Split.flush, here]

theorem step_of_start {names : List String} {split : Split} {line : Text} {other : String}
    (starts : sectionName? line = some other) :
    split.step names line =
      { captured := split.flush
        current := if other ∈ names then some other else none
        lines := [] } := by
  rw [Split.step, starts]

theorem step_of_body {names : List String} {split : Split} {line : Text}
    (unmarked : sectionName? line = none) :
    split.step names line =
      { split with
        lines := if split.current.isSome then split.lines ++ [line] else split.lines } := by
  rw [Split.step, unmarked]
  by_cases asked : split.current.isSome
  · rw [if_pos asked, if_pos asked]
  · rw [if_neg asked, if_neg asked]

private theorem foldl_body {names : List String} {split : Split} {body : List Text}
    (unmarked : ∀ line ∈ body, sectionName? line = none) :
    body.foldl (Split.step names) split =
      { split with
        lines := if split.current.isSome then split.lines ++ body else split.lines } := by
  induction body generalizing split with
  | nil => simp
  | cons line body induction =>
      have later : ∀ other ∈ body, sectionName? other = none := fun other member =>
        unmarked other (List.mem_cons_of_mem _ member)
      rw [List.foldl_cons, step_of_body (unmarked line List.mem_cons_self), induction later]
      cases asked : split.current.isSome with
      | false => simp
      | true => simp

/-! ## Sections -/

/-- A name and the lines below its marker. Nothing below the marker looks like
another one. -/
structure CounterSection where
  name : String
  body : List Text
  nameLine : ∀ char ∈ name.toList, ¬ isBoundary char
  bodyLines : ∀ line ∈ body, ∀ char ∈ line, ¬ isBoundary char
  unmarked : ∀ line ∈ body, ¬ (counterSectionPrefix.toList <+: line ∧ ">>>".toList <:+ line)

def CounterSection.lines (part : CounterSection) : List Text := marker part.name :: part.body

def printedSections (sections : List CounterSection) : Text :=
  unlines (sections.flatMap CounterSection.lines)

private theorem splitlines_printedSections (sections : List CounterSection) :
    splitlines (printedSections sections) = sections.flatMap CounterSection.lines := by
  apply splitlines_unlines
  intro line member
  rcases List.mem_flatMap.mp member with ⟨part, -, inside⟩
  cases List.mem_cons.mp inside with
  | inl same =>
      subst line
      exact marker_plain part.nameLine
  | inr below => exact part.bodyLines line below

private theorem flush_section {names : List String} {name : String} (requested : name ∈ names)
    (split : Split) (part : CounterSection) :
    (part.lines.foldl (Split.step names) split).flush name =
      if part.name = name then .ok (joinLines part.body) else split.flush name := by
  have unmarked : ∀ line ∈ part.body, sectionName? line = none := fun line member =>
    sectionName?_eq_none_iff.mpr (part.unmarked line member)
  rw [CounterSection.lines, List.foldl_cons, step_of_start (sectionName?_marker part.name),
    foldl_body unmarked]
  by_cases same : part.name = name
  · have asked : part.name ∈ names := same ▸ requested
    rw [if_pos same, flush_of_eq (by rw [if_pos asked, same])]
    simp [asked]
  · rw [if_neg same]
    apply flush_of_ne
    split
    · simpa using same
    · simp

def latest (sections : List CounterSection) (name : String) : Option CounterSection :=
  sections.reverse.find? fun part => part.name = name

def IsLast (sections : List CounterSection) (name : String) (part : CounterSection) : Prop :=
  part.name = name ∧ ∃ earlier later, sections = earlier ++ part :: later ∧
    ∀ other ∈ later, other.name ≠ name

private theorem isLast_of_latest {sections : List CounterSection} {name : String}
    {part : CounterSection}
    (found : latest sections name = some part) : IsLast sections name part := by
  rcases List.find?_eq_some_iff_append.mp found with ⟨named, later, earlier, reversed, others⟩
  refine ⟨by simpa using named, earlier.reverse, later.reverse, ?_, ?_⟩
  · have shape := congrArg List.reverse reversed
    simpa using shape
  · intro other member
    simpa using others other (List.mem_reverse.mp member)

theorem latest_eq_none_iff {sections : List CounterSection} {name : String} :
    latest sections name = none ↔ ∀ part ∈ sections, part.name ≠ name := by
  simp [latest]

private theorem flush_sections {names : List String} {name : String} (requested : name ∈ names)
    (split : Split) (sections : List CounterSection) :
    ((sections.flatMap CounterSection.lines).foldl (Split.step names) split).flush name =
      match latest sections name with
      | some part => .ok (joinLines part.body)
      | none => split.flush name := by
  induction sections using List.reverseRecOn with
  | nil => rfl
  | append_singleton earlier part induction =>
      rw [List.flatMap_append, List.flatMap_singleton, List.foldl_append, flush_section requested,
        induction]
      by_cases same : part.name = name
      · simp [latest, same]
      · simp [latest, same]

/-- What the split may hold for a name it was asked for: the body of the last
section of this name, or the error that there is none. -/
structure CapturesLast (sections : List CounterSection) (name : String)
    (captured : Except String Text) : Prop where
  occurs : (∃ part ∈ sections, part.name = name) →
    ∃ part, IsLast sections name part ∧ captured = .ok (joinLines part.body)
  missing : (∀ part ∈ sections, part.name ≠ name) →
    captured = .error s!"counter section {name} is missing"
  own : ∀ text, captured = .ok text →
    ∃ part, IsLast sections name part ∧ ∀ line ∈ splitlines text, line ∈ part.body

private theorem splitCounterSections_ok {names : List String} {name : String}
    (requested : name ∈ names) (sections : List CounterSection) :
    splitCounterSections (.ok (printedSections sections)) names name =
      match latest sections name with
      | some part => .ok (joinLines part.body)
      | none => .error s!"counter section {name} is missing" := by
  simp only [splitCounterSections, splitlines_printedSections]
  rw [flush_sections requested]
  rfl

/-- Every name asked for is given its own last section; a failed probe fails them all. -/
theorem splitCounterSections_captures (sections : List CounterSection) (names : List String) :
    (∀ name ∈ names, CapturesLast sections name
      (splitCounterSections (.ok (printedSections sections)) names name)) ∧
    ∀ error, ∀ name ∈ names, splitCounterSections (.error error) names name = .error error := by
  constructor
  · intro name requested
    rw [splitCounterSections_ok requested]
    cases found : latest sections name with
    | none =>
        have absent := latest_eq_none_iff.mp found
        constructor
        · intro occurs
          rcases occurs with ⟨part, member, same⟩
          exact absurd same (absent part member)
        · intro _
          rfl
        · intro text captured
          cases captured
    | some part =>
        have last := isLast_of_latest found
        constructor
        · intro _
          exact ⟨part, last, rfl⟩
        · intro absent
          rw [latest_eq_none_iff.mpr absent] at found
          cases found
        · intro text captured
          cases captured
          exact ⟨part, last, fun line => mem_of_mem_splitlines_joinLines part.bodyLines⟩
  · intro error name _
    rfl

example :
    let text := "<<<NLL-COUNTER udp>>>\n1\n<<<NLL-COUNTER new>>>\n2\n<<<NLL-COUNTER udp>>>\n3\n"
    (splitCounterSections (.ok text.toList) ["udp"] "udp").toOption = some ['3'] := by
  decide +kernel

end NetLatencyLab.Counters
