import Mathlib.Data.List.Infix
import NetLatencyLab.Foundation.JsonString

/-! # The state of a node

`run_state` of `main.py`, which probes a node before and after a run, and what is
read of the answers. -/

namespace NetLatencyLab.Harness

open JsonString (hexDigit?)
open PythonText (Text)

/-- The result of `probe`: the text that a command prints or its exception. -/
structure Probe where
  value : Option Text
  error : Option Text
deriving DecidableEq

abbrev NodeState := List (String × Probe)

/-- `run` is `node.run`; an exception is its text. -/
def NodeState.probe (run : List String → Except Text Text) (command : List String) : Probe :=
  match run command with
  | .ok value => ⟨some value, none⟩
  | .error error => ⟨none, some error⟩

def clockStateScript : String :=
  "for f in /sys/devices/system/cpu/cpu*/cpufreq/scaling_cur_freq; " ++
    "do test -r \"$f\" && printf '%s=' \"$f\" && cat \"$f\"; done"

def stateCommands (interface : String) : List (String × List String) :=
  [("thermal", ["sh", "-c",
      "vcgencmd measure_temp 2>/dev/null || cat /sys/class/thermal/thermal_zone0/temp"]),
    ("throttled", ["sh", "-c", "vcgencmd get_throttled 2>/dev/null || echo unavailable"]),
    ("link", ["ethtool", interface]), ("offloads", ["ethtool", "-k", interface]),
    ("pause", ["ethtool", "-a", interface]), ("clock_state", ["sh", "-c", clockStateScript])]

def runState (run : List String → Except Text Text) (interface : String) : NodeState :=
  (stateCommands interface).map fun command => (command.1, NodeState.probe run command.2)

/-! ## What is read -/

/-- `probe.get("error")` is true. -/
def Probe.failed (probe : Probe) : Bool := probe.error.getD [] ≠ []

/-- `str(state.get(name, {}).get("value", ""))`. -/
def NodeState.text (state : NodeState) (name : String) : Text :=
  ((state.lookup name).map fun probe => probe.value.getD "None".toList).getD []

/-- `state.get(name, {}).get("error")` is true. -/
def NodeState.fails (state : NodeState) (name : String) : Bool :=
  ((state.lookup name).map Probe.failed).getD false

/-- The digits that `re.search(r"0x([0-9a-fA-F]+)", text)` finds. -/
def searchHex : Text → Option (List Nat)
  | [] => none
  | char :: rest =>
      let digits := ((rest.drop 1).map hexDigit?).takeWhile Option.isSome
      if char = '0' ∧ rest.head? = some 'x' ∧ digits ≠ [] then some (digits.filterMap id)
      else searchHex rest

/-- `int(digits, 16)`. -/
def hexValue (digits : List Nat) : Nat := digits.foldl (fun value digit => 16 * value + digit) 0

example : (searchHex "throttled=0x50005".toList).map hexValue = some 0x50005 ∧
    searchHex "0x, 0y1".toList = none := by decide +kernel

def throttled (state : NodeState) : Bool :=
  match searchHex (state.text "throttled") with
  | some digits => hexValue digits ≠ 0
  | none => false

def throttlingIsClear (state : NodeState) : Bool :=
  if state.fails "throttled" then false
  else
    match searchHex (state.text "throttled") with
    | some digits => hexValue digits = 0
    | none => false

def linkIsGigabitFull (state : NodeState) : Bool :=
  ! state.fails "link" ∧ "Speed: 1000Mb/s".toList <:+: state.text "link" ∧
    "Duplex: Full".toList <:+: state.text "link"

end NetLatencyLab.Harness
