import NetLatencyLab.Foundation.PythonText
import Mathlib.Algebra.Order.Ring.Int
import Mathlib.Algebra.Order.Ring.Nat
import Mathlib.Data.List.Dedup
import Mathlib.Data.List.Sort
import Mathlib.Data.String.Basic

/-! # Kernel and NIC counters

`snapshot_counters` of `main.py`: one shell script prints all counters, and
every counter has its own parser. -/

namespace NetLatencyLab.Counters

open PythonText (Text isSpace splitlines strip words joinLines partition toInt? natural)

structure Reading where
  value : Option Int
  error : Option String
deriving DecidableEq

/-- `int(text)` with the text of its exception. -/
def int (text : Text) : Except String Int :=
  match toInt? text with
  | some value => .ok value
  | none => .error s!"invalid literal for int() with base 10: '{String.ofList text}'"

/-- `values[index]`. -/
def item {α : Type} (values : List α) (index : Nat) : Except String α :=
  match values[index]? with
  | some value => .ok value
  | none => .error "list index out of range"

def nicStatistics : List String :=
  ["rx_dropped", "rx_errors", "rx_missed_errors", "rx_crc_errors", "tx_dropped", "tx_errors",
    "tx_carrier_errors"]

/-! ## Parsers -/

def parseUdpNamedCounter (text : Text) (counter : String) : Except String Int :=
  let lines := ((splitlines text).filter fun line => "Udp:".toList.isPrefixOf line).map words
  match lines.reverse with
  | values :: headers :: _ => do
      if counter.toList ∉ headers then .error s!"UDP {counter} is unavailable"
      else
        let value ← item values (headers.idxOf counter.toList)
        int value
  | _ => .error "/proc/net/snmp has no UDP header/value pair"

def parseUdpRcvbufErrors (text : Text) : Except String Int :=
  parseUdpNamedCounter text "RcvbufErrors"

def parseUdpSndbufErrors (text : Text) : Except String Int :=
  parseUdpNamedCounter text "SndbufErrors"

def parseUdpSocketDrops (text : Text) : Except String Int := do
  let lines := (((splitlines text).drop 1).filter fun line => strip line ≠ []).map words
  let drops ← lines.mapM fun fields => do
    let last ← item fields (fields.length - 1)
    int last
  pure drops.sum

/-- `\w`. -/
def isWord (char : Char) : Bool := char.isAlphanum || char == '_'

/-- `dropped\s+(\d+)` at the start of a text: the digits and the length of the match. -/
def matchDropped (text : Text) : Option (Text × Nat) :=
  if "dropped".toList.isPrefixOf text then
    let rest := text.drop 7
    let spaces := rest.takeWhile isSpace
    let digits := (rest.drop spaces.length).takeWhile Char.isDigit
    if spaces = [] ∨ digits = [] then none else some (digits, 7 + spaces.length + digits.length)
  else none

/-- `re.findall(r"\bdropped\s+(\d+)", text)`. `skip` characters belong to the
last match, `inWord` says whether the character before is part of a word. -/
def findDropped (skip : Nat) (inWord : Bool) : Text → List Text
  | [] => []
  | char :: rest =>
      match skip with
      | skip + 1 => findDropped skip (isWord char) rest
      | 0 =>
          match if inWord then none else matchDropped (char :: rest) with
          | some (digits, length) => digits :: findDropped (length - 1) (isWord char) rest
          | none => findDropped 0 (isWord char) rest

example : findDropped 0 false "(dropped 2, undropped 3, dropped  41)".toList =
    ["2".toList, "41".toList] := by decide

def parseQdiscDrops (text : Text) : Except String Int :=
  let found := findDropped 0 false text
  if found = [] ∧ strip text ≠ [] then .error "qdisc drop counter is unavailable"
  else .ok (found.map fun digits => ((natural digits).getD 0 : Int)).sum

def parseEthtoolStatistic (text : Text) (name : String) : Except String Int :=
  let values := (splitlines text).findSome? fun line =>
    (partition ':' line).bind fun parts =>
      if strip parts.1 = name.toList then some parts.2 else none
  match values with
  | some value => int (strip value)
  | none => .error s!"ethtool -S did not report {name}"

def parseNicStatistic (text : Text) : Except String Int := int (strip text)

/-! ## One snapshot -/

def counterSectionPrefix : String := "<<<NLL-COUNTER "

/-- The names of the sections with the commands that print them. -/
def sections (interface : String) : List (String × String) :=
  [("snmp", "cat /proc/net/snmp"), ("udp", "cat /proc/net/udp"),
    ("qdisc", s!"tc -s qdisc show dev {interface}"), ("ethtool_stats", s!"ethtool -S {interface}")] ++
  nicStatistics.map fun name =>
    (s!"nic_{name}", s!"cat /sys/class/net/{interface}/statistics/{name}")

def sectionNames : List String :=
  ["snmp", "udp", "qdisc", "ethtool_stats"] ++ nicStatistics.map fun name => s!"nic_{name}"

def script (interface : String) : String :=
  String.join ((sections interface).map fun (name, command) =>
    s!"printf '{counterSectionPrefix}%s>>>\\n' {name}; {command} 2>/dev/null; ")

def sectionName? (line : Text) : Option String :=
  if counterSectionPrefix.toList.isPrefixOf line ∧ ">>>".toList.isSuffixOf line then
    some (String.ofList ((line.drop counterSectionPrefix.length).take
      (line.length - counterSectionPrefix.length - 3)))
  else none

/-- The local variables of `split_counter_sections`. -/
structure Split where
  captured : String → Except String Text
  current : Option String
  lines : List Text

def Split.flush (split : Split) : String → Except String Text :=
  match split.current with
  | none => split.captured
  | some name => Function.update split.captured name (.ok (joinLines split.lines))

def Split.step (names : List String) (split : Split) (line : Text) : Split :=
  match sectionName? line with
  | some name =>
      { captured := split.flush
        current := if name ∈ names then some name else none
        lines := [] }
  | none => if split.current.isSome then { split with lines := split.lines ++ [line] } else split

/-- The sections by name; only the names asked for are read. -/
def splitCounterSections (sample : Except String Text) (names : List String) :
    String → Except String Text :=
  match sample with
  | .error error => fun _ => .error error
  | .ok text =>
      let initial : Split :=
        { captured := fun name => .error s!"counter section {name} is missing"
          current := none
          lines := [] }
      ((splitlines text).foldl (Split.step names) initial).flush

def parseCounter (sample : Except String Text) (parser : Text → Except String Int) : Reading :=
  match sample with
  | .error error => { value := none, error := some error }
  | .ok text =>
      match parser text with
      | .ok value => { value := some value, error := none }
      | .error error => { value := none, error := some error }

structure Counter where
  name : String
  source : String
  parser : Text → Except String Int

def counters : List Counter :=
  [⟨"udp_rcvbuf_errors", "snmp", parseUdpRcvbufErrors⟩,
    ⟨"udp_sndbuf_errors", "snmp", parseUdpSndbufErrors⟩,
    ⟨"udp_socket_drops", "udp", parseUdpSocketDrops⟩,
    ⟨"qdisc_drops", "qdisc", parseQdiscDrops⟩] ++
  (["rx_pause", "tx_pause"].map fun pause =>
    ⟨s!"nic_{pause}", "ethtool_stats", fun text => parseEthtoolStatistic text pause⟩) ++
  nicStatistics.map fun name => ⟨s!"nic_{name}", s!"nic_{name}", parseNicStatistic⟩

/-- `run` is `node.run`; an exception is its text. -/
def snapshotCounters (run : List String → Except String Text) (interface : String) :
    List (String × Reading) :=
  let captured := splitCounterSections (run ["sh", "-c", script interface]) sectionNames
  counters.map fun counter => (counter.name, parseCounter (captured counter.source) counter.parser)

/-! ## Two snapshots -/

/-- A row of `counter_deltas`. -/
structure Delta where
  before : Option Int
  after : Option Int
  delta : Option Int
  error : Option String
deriving DecidableEq

/-- `first or second`; the empty string is false. -/
def firstError (first second : Option String) : Option String :=
  match first with
  | some error => if error = "" then second else some error
  | none => second

def delta (first second : Reading) : Delta :=
  let error := firstError first.error second.error
  { before := first.value
    after := second.value
    delta :=
      if error.getD "" ≠ "" then none
      else
        match first.value, second.value with
        | some before, some after => some (after - before)
        | _, _ => none
    error := error }

def counterDeltas (before after : List (String × Reading)) : List (String × Delta) :=
  let names := ((before ++ after).map Prod.fst).dedup.insertionSort (· ≤ ·)
  names.map fun name =>
    (name, delta ((before.lookup name).getD ⟨none, some "missing before sample"⟩)
      ((after.lookup name).getD ⟨none, some "missing after sample"⟩))

end NetLatencyLab.Counters
