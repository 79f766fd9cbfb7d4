import NetLatencyLab.Common.ThreadOutcomes
import NetLatencyLab.Sender.Options
import NetLatencyLab.Sender.Worker

/-! # Launching the sender

The options that `main` of `sender.cpp` accepts are in the ranges that its
workers rely on, and can be printed. -/

namespace NetLatencyLab.Sender.Options

open CommandLine (Handler getoptLong getoptLong_keeps largestU32 largestU64)
open Fallible (bind_eq_ok)
open PythonText (Text)
open Thread (Printable)

/-! ## Single options -/

structure InRange (config : Config) : Prop where
  rate : 1 ≤ config.ratePps ∧ config.ratePps ≤ largestU64
  duration : 0 < config.durationSeconds
  burst : 1 ≤ config.burstSize ∧ config.burstSize ≤ largestU32
  payload : 16 ≤ config.payloadSize ∧ config.payloadSize ≤ 65507
  batch : 1 ≤ config.sendBatchMax ∧ config.sendBatchMax ≤ 1024
  window : 1 ≤ config.batchWindowUs ∧ config.batchWindowUs ≤ 1000000
  threads : 1 ≤ config.threads ∧ config.threads ≤ 128

private theorem defaults_inRange : InRange {} := by
  constructor <;> decide

def Keeps (handler : Handler Config Refusal) : Prop :=
  ∀ set, handler = .argument set → ∀ value config next, InRange config →
    set value config = .ok next → InRange next

theorem textOption_keeps {store : Text → Config → Config}
    (kept : ∀ text config, InRange config → InRange (store text config)) :
    Keeps (textOption store) := by
  intro set same value config next range stored
  cases same
  cases stored
  exact kept value config range

theorem unsignedOption_keeps {widest smallest largest : Nat} {name : String}
    {store : Nat → Config → Config}
    (kept : ∀ value config, smallest ≤ value ∧ value ≤ largest → InRange config →
      InRange (store value config)) :
    Keeps (unsignedOption widest smallest largest name store) := by
  intro set same value config next range stored
  cases same
  rcases bind_eq_ok.mp stored with ⟨parsed, read, stored⟩
  cases stored
  apply kept _ _ _ range
  rw [parseUnsigned] at read
  split at read
  · split at read
    next inside =>
      cases read
      exact inside
    · cases read
  · cases read

private theorem optionsOf_keeps (platform : FloatingPoint) :
    ∀ entry ∈ optionsOf platform, Keeps entry.2 := by
  simp only [optionsOf, List.forall_mem_cons, List.not_mem_nil, false_implies, implies_true,
    and_true]
  refine ⟨?ip, ?port, ?rate, ?duration, ?mode, ?burst, ?payload, ?cpu, ?stats, ?buffer, ?samples,
    ?batch, ?window, ?threads, ?cpus, ?trace, nofun⟩
  case ip => exact textOption_keeps fun _ _ range => { range with }
  case mode => exact textOption_keeps fun _ _ range => { range with }
  case stats => exact textOption_keeps fun _ _ range => { range with }
  case trace => exact textOption_keeps fun _ _ range => { range with }
  case port => exact unsignedOption_keeps fun _ _ _ range => { range with }
  case samples => exact unsignedOption_keeps fun _ _ _ range => { range with }
  case rate => exact unsignedOption_keeps fun _ _ inside range => { range with rate := inside }
  case burst => exact unsignedOption_keeps fun _ _ inside range => { range with burst := inside }
  case payload => exact unsignedOption_keeps fun _ _ inside range => { range with payload := inside }
  case batch => exact unsignedOption_keeps fun _ _ inside range => { range with batch := inside }
  case window => exact unsignedOption_keeps fun _ _ inside range => { range with window := inside }
  case threads => exact unsignedOption_keeps fun _ _ inside range => { range with threads := inside }
  case duration =>
    intro set same value config next range stored
    cases same
    rcases bind_eq_ok.mp stored with ⟨seconds, parsed, stored⟩
    cases stored
    rw [parseDuration_eq] at parsed
    split at parsed
    next inside =>
      cases parsed
      exact { range with duration := inside.1 }
    · cases parsed
  case buffer =>
    intro set same value config next range stored
    cases same
    rcases bind_eq_ok.mp stored with ⟨bytes, _, stored⟩
    cases stored
    exact { range with }
  case cpu =>
    intro set same value config next range stored
    cases same
    dsimp only at stored
    split at stored
    · cases stored
      exact { range with }
    · cases stored
  case cpus =>
    intro set same value config next range stored
    cases same
    dsimp only at stored
    split at stored
    · cases stored
      exact { range with }
    · cases stored

/-! ## All options together -/

variable {platform : FloatingPoint} {arguments : List Text} {options : Config}

theorem main_ok (accepted : main platform arguments = .ok options) :
    getoptLong (interfaceOf platform) arguments {} = .ok options ∧
      validate platform options = .ok () := by
  rcases bind_eq_ok.mp accepted with ⟨config, read, accepted⟩
  rcases bind_eq_ok.mp accepted with ⟨_, valid, same⟩
  cases same
  exact ⟨read, valid⟩

theorem main_inRange (accepted : main platform arguments = .ok options) : InRange options :=
  getoptLong_keeps (fun entry member => optionsOf_keeps platform entry member) defaults_inRange
    (main_ok accepted).1

theorem mode_known (valid : validate platform options = .ok ()) :
    options.mode = "steady".toList ∨ options.mode = "burst".toList ∨
      options.mode = "flood".toList := by
  by_contra unknown
  simp only [not_or] at unknown
  rw [validate, if_pos unknown] at valid
  cases valid

theorem inetPton_printable {text : Text} (address : inetPton text) : Printable text := by
  have octets : ∀ part ∈ text.splitOn '.', Printable part := by
    rw [inetPton, decide_eq_true_eq] at address
    intro part member char inside
    have octet := address.2 part member
    rw [isOctet, decide_eq_true_eq] at octet
    have digit := List.all_eq_true.mp octet.2.1 char inside
    have bounds : 48 ≤ char.toNat ∧ char.toNat ≤ 57 := by
      simpa [Char.isDigit, UInt32.le_iff_toNat_le] using digit
    exact decide_eq_false (by omega)
  have joined : ['.'].intercalate (text.splitOn '.') = text := List.intercalate_splitOn '.'
  rw [← joined]
  intro char member
  rcases PythonText.mem_intercalate member with same | ⟨part, listed, inside⟩
  · subst same
    rfl
  · exact octets part listed char inside

/-! ## The configuration of the workers -/

/-- The mode that `run_worker` resolves once. -/
def Config.resolvedMode (options : Config) : Mode :=
  if options.mode = "flood".toList then .flood
  else if options.mode = "burst".toList then .burst
  else .steady

theorem validate_launch (valid : validate platform options = .ok ()) :
    (options.resolvedMode = .steady → options.burstSize = 1) ∧
      (options.resolvedMode = .burst → options.threads = 1) ∧
      platform.nanoseconds options.durationSeconds ≠ 0 ∧ inetPton options.destination := by
  have known := mode_known valid
  rcases (validate_eq_ok known).mp valid with ⟨steady, burst, _, _, _, duration, address⟩
  refine ⟨?_, ?_, duration, address⟩
  · intro resolved
    rcases known with mode | mode | mode
    · simpa [mode] using steady
    · rw [Config.resolvedMode, if_neg (by rw [mode]; decide), if_pos mode] at resolved
      cases resolved
    · rw [Config.resolvedMode, if_pos mode] at resolved
      cases resolved
  · intro resolved
    rcases known with mode | mode | mode
    · rw [Config.resolvedMode, if_neg (by rw [mode]; decide), if_neg (by rw [mode]; decide)]
        at resolved
      cases resolved
    · simpa [mode] using burst
    · rw [Config.resolvedMode, if_pos mode] at resolved
      cases resolved

def launch (platform : FloatingPoint) (bounded : ∀ seconds, platform.nanoseconds seconds < 2 ^ 64)
    {arguments : List Text} (options : Config) (accepted : main platform arguments = .ok options) :
    Sender.Config where
  ratePps := options.ratePps
  durationNs := platform.nanoseconds options.durationSeconds
  mode := options.resolvedMode
  burstSize := options.burstSize
  payloadSize := options.payloadSize
  timestampEvery := options.timestampEvery
  sendBatchMax := options.sendBatchMax
  batchWindowUs := options.batchWindowUs
  threads := options.threads
  tracing := options.pacingTracePath ≠ []
  rateRange := ⟨(main_inRange accepted).rate.1, Nat.lt_of_le_pred (by decide)
    (main_inRange accepted).rate.2⟩
  durationRange := ⟨Nat.pos_of_ne_zero (validate_launch (main_ok accepted).2).2.2.1, bounded _⟩
  burstRange := ⟨(main_inRange accepted).burst.1, Nat.lt_of_le_pred (by decide)
    (main_inRange accepted).burst.2⟩
  payloadRange := (main_inRange accepted).payload
  batchRange := (main_inRange accepted).batch
  windowRange := (main_inRange accepted).window
  threadRange := (main_inRange accepted).threads
  steadyBurst := (validate_launch (main_ok accepted).2).1
  burstThreads := (validate_launch (main_ok accepted).2).2.1

end NetLatencyLab.Sender.Options
