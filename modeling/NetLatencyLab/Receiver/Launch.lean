import NetLatencyLab.Receiver.Agreement
import NetLatencyLab.Receiver.Options

/-! # Launching a receiver

The options that one of the three mains accepts name its variant and have a
batch size that fits its buffers. -/

namespace NetLatencyLab.Receiver.Options

open CommandLine (getoptLong getoptLong_keeps)
open Fallible (bind_eq_ok)
open PythonText (Text)

/-- `config.variant` as the mains set it. -/
def variantText : Variant → Text
  | .baseline => "baseline".toList
  | .batched => "batched".toList
  | .threaded => "threaded".toList

def mainOf : Variant → List Text → Except Refusal Config
  | .baseline => baselineMain
  | .batched => batchedMain
  | .threaded => threadedMain

structure InRange (variant : Variant) (config : Config) : Prop where
  variant : config.variant = variantText variant
  batch : 1 ≤ config.batchSize ∧ config.batchSize ≤ maxBatch

variable {variant : Variant}

def Keeps (variant : Variant) (handler : CommandLine.Handler Config Refusal) : Prop :=
  ∀ set, handler = .argument set → ∀ value config next, InRange variant config →
    set value config = .ok next → InRange variant next

theorem textOption_keeps {store : Text → Config → Config}
    (kept : ∀ text config, InRange variant config → InRange variant (store text config)) :
    Keeps variant (textOption store) := by
  intro set same value config next range stored
  cases same
  cases stored
  exact kept value config range

theorem u64Option_keeps {smallest largest : Nat} {name : String} {store : Nat → Config → Config}
    (kept : ∀ value config, smallest ≤ value ∧ value ≤ largest → InRange variant config →
      InRange variant (store value config)) :
    Keeps variant (u64Option smallest largest name store) := by
  intro set same value config next range stored
  cases same
  rcases bind_eq_ok.mp stored with ⟨parsed, read, stored⟩
  cases stored
  apply kept _ _ _ range
  rw [parseU64] at read
  split at read
  · split at read
    next inside =>
      cases read
      exact inside
    · cases read
  · cases read

theorem intOption_keeps {smallest largest : Int} {name : String} {store : Int → Config → Config}
    (kept : ∀ value config, InRange variant config → InRange variant (store value config)) :
    Keeps variant (intOption smallest largest name store) := by
  intro set same value config next range stored
  cases same
  rcases bind_eq_ok.mp stored with ⟨parsed, _, stored⟩
  cases stored
  exact kept parsed config range

private theorem commonOptions_keep (variant : Variant) :
    ∀ entry ∈ commonOptions, Keeps variant entry.2 := by
  simp only [commonOptions, List.forall_mem_cons, List.not_mem_nil, false_implies, implies_true,
    and_true]
  refine ⟨?output, ?stats, ?port, ?cpu, ?packets, ?scheduler, ?priority, ?work, ?samples, ?buffer,
    nofun⟩
  case output => exact textOption_keeps fun _ _ range => { range with }
  case stats => exact textOption_keeps fun _ _ range => { range with }
  case scheduler => exact textOption_keeps fun _ _ range => { range with }
  case port => exact u64Option_keeps fun _ _ _ range => { range with }
  case packets => exact u64Option_keeps fun _ _ _ range => { range with }
  case work => exact u64Option_keeps fun _ _ _ range => { range with }
  case samples => exact u64Option_keeps fun _ _ _ range => { range with }
  case cpu => exact intOption_keeps fun _ _ range => { range with }
  case priority => exact intOption_keeps fun _ _ range => { range with }
  case buffer => exact intOption_keeps fun _ _ range => { range with }

private theorem options_keep (variant : Variant) :
    ∀ entry ∈ workerCpuOption :: batchOption :: commonOptions, Keeps variant entry.2 := by
  intro entry member
  cases List.mem_cons.mp member with
  | inl worker =>
      rw [worker]
      exact intOption_keeps fun _ _ range => { range with }
  | inr member =>
      cases List.mem_cons.mp member with
      | inl batch =>
          rw [batch]
          exact u64Option_keeps fun _ _ inside range => { range with batch := inside }
      | inr common => exact commonOptions_keep variant entry common

theorem read_inRange {interface : CommandLine.Interface Config Refusal}
    (known : interface.options ⊆ workerCpuOption :: batchOption :: commonOptions)
    {arguments : List Text} {config options : Config} (start : InRange variant config)
    (read : getoptLong interface arguments config = .ok options) : InRange variant options :=
  getoptLong_keeps (fun entry member => options_keep variant entry (known member)) start read

theorem main_inRange {arguments : List Text} {options : Config}
    (accepted : mainOf variant arguments = .ok options) :
    InRange variant options ∧ validateScheduler options = .ok () := by
  cases variant with
  | baseline =>
      rcases bind_eq_ok.mp accepted with ⟨config, read, accepted⟩
      rcases bind_eq_ok.mp accepted with ⟨_, valid, same⟩
      cases same
      refine ⟨read_inRange ?_ ⟨rfl, by decide⟩ read, valid⟩
      exact fun entry member => List.mem_cons_of_mem _ (List.mem_cons_of_mem _ member)
  | batched =>
      rcases bind_eq_ok.mp accepted with ⟨config, read, accepted⟩
      rcases bind_eq_ok.mp accepted with ⟨_, valid, same⟩
      cases same
      refine ⟨read_inRange ?_ ⟨rfl, by decide⟩ read, valid⟩
      exact fun entry member => List.mem_cons_of_mem _ member
  | threaded =>
      rcases bind_eq_ok.mp accepted with ⟨config, read, accepted⟩
      rcases bind_eq_ok.mp accepted with ⟨_, valid, accepted⟩
      rcases bind_eq_ok.mp accepted with ⟨_, _, same⟩
      cases same
      exact ⟨read_inRange (List.Subset.refl _) ⟨rfl, by decide⟩ read, valid⟩

def launch {arguments : List Text} (options : Config)
    (accepted : mainOf variant arguments = .ok options) : Receiver.Config where
  maxPackets := options.maxPackets
  batchSize := options.batchSize
  workNs := options.workNs
  sampleEvery := options.sampleEvery
  batchRange := (main_inRange accepted).1.batch

end NetLatencyLab.Receiver.Options
