import NetLatencyLab.Foundation.Dictionary
import NetLatencyLab.Harness.CounterSections

/-! # Counters of failed commands

A command that fails leaves its section empty. Two of the five parsers read an
empty section as zero. -/

namespace NetLatencyLab.Counters

open PythonText (Text isSpace splitlines strip joinLines splitlines_line splitlines_last_line
  rdropWhile_append_cons Terminated splitlines_append_terminated splitlines_prefix)

/-- What the script prints; `none` is a command that fails. -/
def printed (outputs : String → Option Text) (names : List String) : Text :=
  names.flatMap fun name => marker name ++ '\n' :: (outputs name).getD []

/-- Whole lines, none of which looks like the start of a section. -/
structure PrintsLines (output : Text) : Prop where
  terminated : Terminated output
  plain : ∀ line ∈ splitlines output, ¬ counterSectionPrefix.toList <+: line

/-! ## Splitting -/

theorem sectionNames_plain {name : String} (known : name ∈ sectionNames) :
    ∀ char ∈ name.toList, ¬ PythonText.isBoundary char := by
  have checked : (sectionNames.all fun name =>
      name.toList.all fun char => ! PythonText.isBoundary char) = true := by decide +kernel
  intro char member
  simpa using List.all_eq_true.mp (List.all_eq_true.mp checked name known) char member

private theorem sectionNames_angleless : ∀ name ∈ sectionNames, '>' ∉ name.toList := by
  decide +kernel

private theorem flush_foldl {names : List String} {name : String} {lines : List Text}
    (absent : ∀ line ∈ lines, sectionName? line ≠ some name) {split : Split}
    (elsewhere : split.current ≠ some name) :
    (lines.foldl (Split.step names) split).flush name = split.captured name := by
  induction lines generalizing split with
  | nil => exact flush_of_ne elsewhere
  | cons line lines induction =>
      have here := absent line List.mem_cons_self
      have later : ∀ line ∈ lines, sectionName? line ≠ some name := fun line member =>
        absent line (List.mem_cons_of_mem _ member)
      rw [List.foldl_cons]
      cases starts : sectionName? line with
      | none =>
          rw [starts] at here
          rw [step_of_body starts]
          exact induction later elsewhere
      | some other =>
          rw [starts] at here
          rw [step_of_start starts, induction later]
          · exact flush_of_ne elsewhere
          · simp only
            split
            · exact here
            · simp

private theorem flush_empty_section {names : List String} {name : String} (requested : name ∈ names)
    {earlier later : List Text} (follows : later = [] ∨ ∃ next rest, later = marker next :: rest)
    (absent : ∀ line ∈ later, sectionName? line ≠ some name) (split : Split) :
    ((earlier ++ marker name :: later).foldl (Split.step names) split).flush name = .ok [] := by
  rw [List.foldl_append, List.foldl_cons, step_of_start (sectionName?_marker name),
    if_pos requested]
  rcases follows with rfl | ⟨next, rest, rfl⟩
  · rw [List.foldl_nil, flush_of_eq rfl]
    rfl
  · have different : next ≠ name := by
      intro same
      subst next
      exact absent (marker name) List.mem_cons_self (sectionName?_marker name)
    rw [List.foldl_cons, step_of_start (sectionName?_marker next), flush_foldl]
    · simp [Split.flush, joinLines]
    · exact fun line member => absent line (List.mem_cons_of_mem _ member)
    · simp only
      split
      · simpa using different
      · simp

/-! ## The printed text -/

theorem printed_append (outputs : String → Option Text) (earlier later : List String) :
    printed outputs (earlier ++ later) = printed outputs earlier ++ printed outputs later :=
  List.flatMap_append

theorem printed_cons (outputs : String → Option Text) (name : String) (later : List String) :
    printed outputs (name :: later) =
      marker name ++ '\n' :: ((outputs name).getD [] ++ printed outputs later) := by
  simp [printed]

theorem printsLines_output {outputs : String → Option Text}
    (lines : ∀ name output, outputs name = some output → PrintsLines output) (name : String) :
    PrintsLines ((outputs name).getD []) := by
  cases output : outputs name with
  | none =>
      constructor
      · exact Or.inl rfl
      · intro line member
        cases member
  | some text => exact lines name text output

private theorem terminated_printed {outputs : String → Option Text} {names : List String}
    (lines : ∀ name output, outputs name = some output → PrintsLines output) :
    Terminated (printed outputs names) := by
  induction names with
  | nil => exact Or.inl rfl
  | cons name names induction =>
      have line : Terminated (marker name ++ ['\n']) := Or.inr ⟨marker name, rfl⟩
      have whole := (line.append (printsLines_output lines name).terminated).append induction
      rw [printed_cons]
      simpa using whole

private theorem mem_splitlines_printed {outputs : String → Option Text} {names : List String}
    (lines : ∀ name output, outputs name = some output → PrintsLines output)
    (known : ∀ name ∈ names, name ∈ sectionNames) {line : Text}
    (member : line ∈ splitlines (printed outputs names)) :
    (∃ name ∈ names, line = marker name) ∨ ¬ counterSectionPrefix.toList <+: line := by
  induction names with
  | nil => cases member
  | cons name names induction =>
      have body := printsLines_output lines name
      have plain := marker_plain (sectionNames_plain (known name List.mem_cons_self))
      have others : ∀ other ∈ names, other ∈ sectionNames := fun other listed =>
        known other (List.mem_cons_of_mem _ listed)
      rw [printed_cons, splitlines_line plain, splitlines_append_terminated body.terminated] at member
      cases List.mem_cons.mp member with
      | inl same => exact Or.inl ⟨name, List.mem_cons_self, same⟩
      | inr below =>
          cases List.mem_append.mp below with
          | inl inside => exact Or.inr (body.plain line inside)
          | inr inside =>
              rcases induction others inside with ⟨other, listed, same⟩ | plainLine
              · exact Or.inl ⟨other, List.mem_cons_of_mem _ listed, same⟩
              · exact Or.inr plainLine

private theorem strip_marker (earlier : List String) (outputs : String → Option Text)
    (name : String) (rest : Text) :
    strip (printed outputs earlier ++ marker name ++ rest) =
      printed outputs earlier ++ marker name ++ rest.rdropWhile isSpace := by
  have angle : ¬ isSpace '>' := by decide
  have shape :
      marker name = (counterSectionPrefix.toList ++ name.toList ++ ['>', '>']) ++ ['>'] := by
    simp [marker]
  have starts : ∃ later, printed outputs earlier ++ marker name ++ rest = '<' :: later := by
    cases earlier with
    | nil => exact ⟨_, rfl⟩
    | cons first others =>
        rw [printed_cons]
        exact ⟨_, rfl⟩
  have unstripped : (printed outputs earlier ++ marker name ++ rest).dropWhile isSpace =
      printed outputs earlier ++ marker name ++ rest := by
    rcases starts with ⟨later, starts⟩
    rw [starts, List.dropWhile_cons_of_neg (by decide)]
  rw [strip, unstripped, shape]
  have cut := rdropWhile_append_cons (printed outputs earlier ++
    (counterSectionPrefix.toList ++ name.toList ++ ['>', '>'])) rest angle
  simpa using cut

theorem sectionName?_of_prefix {name : String} (known : name ∈ sectionNames) {line : Text}
    (cut : line <+: marker name) : sectionName? line = none ∨ sectionName? line = some name := by
  have angleless : '>' ∉ name.toList := sectionNames_angleless name known
  by_cases shaped : counterSectionPrefix.toList <+: line ∧ ">>>".toList <:+ line
  · rcases cut with ⟨rest, whole⟩
    have three : (marker name).count '>' = 3 := by
      simp [marker, counterSectionPrefix, List.count_eq_zero_of_not_mem angleless]
    have used : 3 ≤ line.count '>' := shaped.2.sublist.count_le '>'
    have unused : '>' ∉ rest := by
      rw [← whole, List.count_append] at three
      apply List.count_eq_zero.mp
      omega
    have nothing : rest = [] := by
      by_contra occupied
      have last : (marker name).getLast? = some '>' := by simp [marker]
      rw [← whole, List.getLast?_append_of_ne_nil _ occupied] at last
      exact unused (List.mem_of_getLast? last)
    right
    rw [nothing, List.append_nil] at whole
    rw [whole]
    exact sectionName?_marker name
  · left
    exact sectionName?_eq_none_iff.mpr shaped

theorem sectionName?_eq_none {line : Text} (plain : ¬ counterSectionPrefix.toList <+: line) :
    sectionName? line = none :=
  sectionName?_eq_none_iff.mpr fun shaped => plain shaped.1

theorem sectionName?_ne {outputs : String → Option Text} {names : List String}
    (lines : ∀ name output, outputs name = some output → PrintsLines output)
    (known : ∀ name ∈ names, name ∈ sectionNames) {name : String} (absent : name ∉ names)
    {text line : Text} (cut : text <+: printed outputs names) (member : line ∈ splitlines text) :
    sectionName? line ≠ some name := by
  rcases splitlines_prefix cut member with ⟨whole, inside, starts⟩
  rcases mem_splitlines_printed lines known inside with ⟨other, listed, rfl⟩ | plain
  · rcases sectionName?_of_prefix (known other listed) starts with unnamed | named
    · simp [unnamed]
    · rw [named]
      rintro ⟨⟩
      exact absent listed
  · rw [sectionName?_eq_none fun begins => plain (begins.trans starts)]
    simp

theorem strip_printed (outputs : String → Option Text) (earlier : List String) (name : String)
    (later : List String) :
    strip (printed outputs (earlier ++ name :: later)) =
      printed outputs earlier ++ (marker name ++
        ('\n' :: ((outputs name).getD [] ++ printed outputs later)).rdropWhile isSpace) := by
  rw [printed_append, printed_cons, ← List.append_assoc, strip_marker, List.append_assoc]

private theorem splitlines_marker_cut {name : String} (known : name ∈ sectionNames)
    {rest tail : Text} (cut : tail <+: '\n' :: rest) :
    ∃ later, splitlines (marker name ++ tail) = marker name :: later := by
  have plain := marker_plain (sectionNames_plain known)
  rcases List.prefix_cons_iff.mp cut with empty | ⟨shorter, more, -⟩
  · rw [empty, List.append_nil, splitlines_last_line plain (marker_ne_nil name)]
    exact ⟨_, rfl⟩
  · rw [more, splitlines_line plain]
    exact ⟨_, rfl⟩

private theorem splitlines_printed_of_failed {outputs : String → Option Text}
    {earlier later : List String}
    {name : String} (failed : outputs name = none) (known : name ∈ sectionNames)
    (laterKnown : ∀ other ∈ later, other ∈ sectionNames)
    (before : Terminated (printed outputs earlier)) :
    ∃ text, text <+: printed outputs later ∧
      splitlines (strip (printed outputs (earlier ++ name :: later))) =
        splitlines (printed outputs earlier) ++ marker name :: splitlines text ∧
      (splitlines text = [] ∨ ∃ next rest, splitlines text = marker next :: rest) := by
  have plain := marker_plain (sectionNames_plain known)
  cases later with
  | nil =>
      have blank : (['\n'] : Text).rdropWhile isSpace = [] := by decide
      have nothing : (outputs name).getD [] ++ printed outputs [] = [] := by rw [failed]; rfl
      refine ⟨[], List.nil_prefix, ?_, Or.inl rfl⟩
      rw [strip_printed, nothing, blank, List.append_nil, splitlines_append_terminated before,
        splitlines_last_line plain (marker_ne_nil name)]
      rfl
  | cons next rest =>
      generalize printedBelow : '\n' :: ((outputs next).getD [] ++ printed outputs rest) = following
      have cut : following.rdropWhile isSpace <+: following := List.rdropWhile_prefix _ _
      have whole : strip (printed outputs (earlier ++ name :: next :: rest)) =
          printed outputs earlier ++
            (marker name ++ '\n' :: (marker next ++ following.rdropWhile isSpace)) := by
        rw [List.append_cons, strip_printed, printedBelow, printed_append,
          printed_cons outputs name, failed]
        simp [printed]
      refine ⟨marker next ++ following.rdropWhile isSpace, ?_, ?_, Or.inr ⟨next, ?_⟩⟩
      · rw [printed_cons, printedBelow]
        exact (List.prefix_append_right_inj _).mpr cut
      · rw [whole, splitlines_append_terminated before, splitlines_line plain]
      · rw [← printedBelow] at cut ⊢
        exact splitlines_marker_cut (laterKnown next List.mem_cons_self) cut

private theorem captured_of_failed {outputs : String → Option Text}
    (lines : ∀ name output, outputs name = some output → PrintsLines output) {name : String}
    (known : name ∈ sectionNames) (failed : outputs name = none) :
    splitCounterSections (.ok (strip (printed outputs sectionNames))) sectionNames name =
      .ok [] := by
  rcases List.mem_iff_append.mp known with ⟨earlier, later, split⟩
  have distinct : (earlier ++ name :: later).Nodup := by
    rw [← split]
    decide +kernel
  have absent : name ∉ later := (List.nodup_cons.mp (List.nodup_append.mp distinct).2.1).1
  have laterKnown : ∀ other ∈ later, other ∈ sectionNames := by
    intro other member
    rw [split]
    exact List.mem_append_right _ (List.mem_cons_of_mem _ member)
  rcases splitlines_printed_of_failed failed known laterKnown (terminated_printed lines) with
    ⟨text, cut, shape, follows⟩
  rw [← split] at shape
  simp only [splitCounterSections, shape]
  apply flush_empty_section known follows
  intro line member
  exact sectionName?_ne lines laterKnown absent cut member

/-! ## Unknown counters -/

/-- The counter has an error instead of a value, and no delta. -/
structure Unknown (snapshot : List (String × Reading)) (counter : String) : Prop where
  reading : ∃ error, snapshot.lookup counter = some ⟨none, some error⟩
  before : ∀ other row, (counter, row) ∈ counterDeltas snapshot other → row.delta = none
  after : ∀ other row, (counter, row) ∈ counterDeltas other snapshot → row.delta = none

theorem delta_eq_none {first second : Reading}
    (missing : first.value = none ∨ second.value = none) :
    (delta first second).delta = none := by
  simp only [delta]
  split
  · rfl
  · rcases missing with missing | missing
    · rw [missing]
    · rw [missing]
      cases first.value with
      | none => rfl
      | some value => rfl

theorem Unknown.of_lookup {snapshot : List (String × Reading)} {counter error : String}
    (read : snapshot.lookup counter = some ⟨none, some error⟩) : Unknown snapshot counter := by
  constructor
  · exact ⟨error, read⟩
  · intro other row member
    rcases List.mem_map.mp member with ⟨name, -, same⟩
    cases same
    exact delta_eq_none (Or.inl (by rw [read]; rfl))
  · intro other row member
    rcases List.mem_map.mp member with ⟨name, -, same⟩
    cases same
    exact delta_eq_none (Or.inr (by rw [read]; rfl))

private theorem counters_distinct : (counters.map Counter.name).Nodup := by
  decide +kernel

theorem lookup_of_failed {outputs : String → Option Text} {run : List String → Except String Text}
    {interface : String}
    (lines : ∀ name output, outputs name = some output → PrintsLines output)
    (succeeds : run ["sh", "-c", script interface] = .ok (strip (printed outputs sectionNames)))
    {counter : Counter} (member : counter ∈ counters) (failed : outputs counter.source = none) :
    (snapshotCounters run interface).lookup counter.name =
      some (parseCounter (.ok []) counter.parser) := by
  have known : ∀ counter ∈ counters, counter.source ∈ sectionNames := by decide +kernel
  rw [snapshotCounters, succeeds, Dictionary.lookup_map counters_distinct member,
    captured_of_failed lines (known counter member) failed]

private theorem parser_nil :
    ∀ counter ∈ counters, counter.source ≠ "udp" → counter.source ≠ "qdisc" →
    ∃ error, counter.parser [] = .error error := by
  have valueless : ∀ counter ∈ counters, counter.source ≠ "udp" → counter.source ≠ "qdisc" →
      (counter.parser []).toOption = none := by decide +kernel
  intro counter member notUdp notQdisc
  have none := valueless counter member notUdp notQdisc
  cases parsed : counter.parser [] with
  | error error => exact ⟨error, rfl⟩
  | ok value =>
      rw [parsed] at none
      cases none

theorem parseCounter_nil :
    parseCounter (.ok []) parseUdpSocketDrops = ⟨some 0, none⟩ ∧
      parseCounter (.ok []) parseQdiscDrops = ⟨some 0, none⟩ := by
  decide +kernel

/-- The failed counters are unknown exactly when neither of the two commands
whose empty output counts as zero has failed. -/
theorem failed_counters_are_unknown_iff (outputs : String → Option Text)
    (run : List String → Except String Text) (interface : String)
    (lines : ∀ name output, outputs name = some output → PrintsLines output)
    (succeeds : run ["sh", "-c", script interface] = .ok (strip (printed outputs sectionNames))) :
    (∀ counter ∈ counters, outputs counter.source = none →
      Unknown (snapshotCounters run interface) counter.name) ↔
        outputs "udp" ≠ none ∧ outputs "qdisc" ≠ none := by
  constructor
  · intro unknown
    have zero : ∀ counter ∈ counters, outputs counter.source = none →
        parseCounter (.ok []) counter.parser ≠ ⟨some 0, none⟩ := by
      intro counter member failed same
      rcases (unknown counter member failed).reading with ⟨error, read⟩
      rw [lookup_of_failed lines succeeds member failed, same] at read
      cases read
    constructor
    · intro failed
      exact zero ⟨"udp_socket_drops", "udp", parseUdpSocketDrops⟩ (by simp [counters]) failed
        parseCounter_nil.1
    · intro failed
      exact zero ⟨"qdisc_drops", "qdisc", parseQdiscDrops⟩ (by simp [counters]) failed
        parseCounter_nil.2
  · rintro ⟨udp, qdisc⟩ counter member failed
    have notUdp : counter.source ≠ "udp" := by
      intro same
      rw [same] at failed
      exact udp failed
    have notQdisc : counter.source ≠ "qdisc" := by
      intro same
      rw [same] at failed
      exact qdisc failed
    rcases parser_nil counter member notUdp notQdisc with ⟨error, rejected⟩
    have read : (snapshotCounters run interface).lookup counter.name = some ⟨none, some error⟩ := by
      rw [lookup_of_failed lines succeeds member failed, parseCounter]
      simp only [rejected]
    exact Unknown.of_lookup read

/-- What the commands print on an idle node; those in `failing` fail. -/
def idleOutputs (failing : List String) (name : String) : Option Text :=
  if name ∈ failing then none
  else if name = "snmp" then
    some "Udp: InDatagrams RcvbufErrors SndbufErrors\nUdp: 10 3 4\n".toList
  else if name = "udp" then some "sl local_address drops\n1: 00000000:0000 7\n".toList
  else if name = "qdisc" then some "Sent 1 bytes 1 pkt (dropped 2, overlimits 0)\n".toList
  else if name = "ethtool_stats" then some "     rx_pause: 11\n     tx_pause: 12\n".toList
  else some "0\n".toList

def idleNode (failing : List String) : List String → Except String Text := fun _ =>
  .ok (strip (printed (idleOutputs failing) sectionNames))

theorem PrintsLines.of_check {output : Text} (ended : output.getLast? = some '\n')
    (plain : ∀ line ∈ splitlines output, ¬ counterSectionPrefix.toList.isPrefixOf line) :
    PrintsLines output := by
  constructor
  · exact Or.inr (List.getLast?_eq_some_iff.mp ended)
  · intro line member starts
    exact plain line member (List.isPrefixOf_iff_prefix.mpr starts)

theorem idleOutputs_printsLines (failing : List String) :
    ∀ name output, idleOutputs failing name = some output → PrintsLines output := by
  intro name output prints
  rw [idleOutputs] at prints
  split at prints
  · cases prints
  split at prints
  · cases prints
    exact PrintsLines.of_check (by decide +kernel) (by decide +kernel)
  split at prints
  · cases prints
    exact PrintsLines.of_check (by decide +kernel) (by decide +kernel)
  split at prints
  · cases prints
    exact PrintsLines.of_check (by decide +kernel) (by decide +kernel)
  split at prints
  · cases prints
    exact PrintsLines.of_check (by decide +kernel) (by decide +kernel)
  · cases prints
    exact PrintsLines.of_check (by decide +kernel) (by decide +kernel)

/-- Without the SNMP file and one NIC file only their counters are unknown. -/
theorem unreadable_snmp_is_unknown :
    idleOutputs ["snmp", "nic_rx_errors"] "snmp" = none ∧
      ∀ counter ∈ counters, idleOutputs ["snmp", "nic_rx_errors"] counter.source = none →
        Unknown (snapshotCounters (idleNode ["snmp", "nic_rx_errors"]) "eth0") counter.name := by
  refine ⟨by decide, ?_⟩
  exact (failed_counters_are_unknown_iff _ _ "eth0" (idleOutputs_printsLines _) rfl).mpr
    ⟨by decide, by decide⟩

/-- The socket drops of a node that cannot read `/proc/net/udp` are zero. -/
theorem unreadable_socket_drops_are_zero :
    idleOutputs ["udp"] "udp" = none ∧
      (snapshotCounters (idleNode ["udp"]) "eth0").lookup "udp_socket_drops" =
        some ⟨some 0, none⟩ ∧
      ¬ Unknown (snapshotCounters (idleNode ["udp"]) "eth0") "udp_socket_drops" := by
  have read := lookup_of_failed (idleOutputs_printsLines ["udp"])
    (show idleNode ["udp"] ["sh", "-c", script "eth0"] = _ from rfl)
    (show (⟨"udp_socket_drops", "udp", parseUdpSocketDrops⟩ : Counter) ∈ counters by simp [counters])
    (by decide)
  rw [parseCounter_nil.1] at read
  refine ⟨by decide, read, ?_⟩
  intro unknown
  rcases unknown.reading with ⟨error, other⟩
  rw [read] at other
  cases other

end NetLatencyLab.Counters
