import Mathlib.Logic.Function.Basic
import PorcelainMonitor.Algorithms.CrackPropagation
import PorcelainMonitor.Common

/-!
# The modules of the pipeline

A module takes messages from one queue and pushes what it makes of them to
others.  Queues are shared, so a module holds a reference, which may be null:
`set_input` and `set_output` set it, and nothing else does.  A queue is a list
with a first and a last element, which `LockFreeQueue` provides.

`process` of every module checks its output reference and drops the message
without a word if that is null.
-/

namespace PorcelainMonitor.Modules

/-! ## Queues -/

/-- The five message types of the pipeline. -/
inductive Topic where
  | laser
  | vibration
  | crack
  | prediction
  | dem
deriving DecidableEq, Repr

def Msg (R : Type) : Topic → Type
  | .laser => ParsedLaserMessage R
  | .vibration => ParsedVibrationMessage R
  | .crack => CrackDetectionMessage R
  | .prediction => FatiguePredictionMessage R
  | .dem => DemSimulationMessage R

/-- `SharedQueue<T>`: null, or the number of a queue that `make_queue` made. -/
abbrev SharedQueue (_ : Topic) := Option Nat

/-- What the queues hold, oldest message first. -/
abbrev Queues (R : Type) := (t : Topic) → Nat → List (Msg R t)

namespace Queues

variable {R : Type}

def empty : Queues R := fun _ _ => []

def push {t : Topic} (qs : Queues R) (q : Nat) (m : Msg R t) : Queues R :=
  Function.update qs t (Function.update (qs t) q (qs t q ++ [m]))

/-- `if (out) out->push(m)`. -/
def pushIf {t : Topic} (qs : Queues R) (out : SharedQueue t) (m : Msg R t) : Queues R :=
  match out with
  | none => qs
  | some q => qs.push q m

/-- `input && input->try_pop(msg)`. -/
def tryPop {t : Topic} (qs : Queues R) (input : SharedQueue t) : Option (Msg R t × Queues R) :=
  match input with
  | none => none
  | some q =>
      match qs t q with
      | [] => none
      | m :: ms => some (m, Function.update qs t (Function.update (qs t) q ms))

end Queues

/-! ## Modules with one input -/

structure ModuleBase (i o : Topic) where
  input : SharedQueue i
  output : SharedQueue o
  processed : Nat
deriving DecidableEq, Repr

/-- The constructor leaves both references null. -/
def ModuleBase.new (i o : Topic) : ModuleBase i o := ⟨none, none, 0⟩

structure FanOutModule (t : Topic) extends ModuleBase t t where
  extraOutputs : List (SharedQueue t)
deriving DecidableEq, Repr

def FanOutModule.new (t : Topic) : FanOutModule t := ⟨.new t t, []⟩

def FanOutModule.process {R : Type} {t : Topic} (f : FanOutModule t) (msg : Msg R t)
    (qs : Queues R) : Queues R :=
  f.extraOutputs.foldl (fun qs q => qs.pushIf q msg) (qs.pushIf f.output msg)

/-! ## `CrackRouterModule` -/

abbrev CrackRouterModule := ModuleBase .laser .crack

namespace CrackRouterModule

variable {R : Type}

/-- The message the router makes, unless there is no crack to report. -/
def detection (msg : ParsedLaserMessage R) : Option (CrackDetectionMessage R) :=
  if !msg.data.crackDetected || msg.data.cracks.isEmpty then none
  else some {
    laserData := msg.data
    porcelainId := msg.data.porcelainId
    cracks := msg.data.cracks
    crackPoints := msg.data.cracks.map CrackInfo.points }

def process (m : CrackRouterModule) (msg : ParsedLaserMessage R) (qs : Queues R) : Queues R :=
  match detection msg with
  | none => qs
  | some d => qs.pushIf m.output d

end CrackRouterModule

/-! ## `FatiguePredictorModule` -/

structure FatiguePredictorModule (R : Type) extends ModuleBase .crack .prediction where
  params : Algorithms.ParisLawParameters R

namespace FatiguePredictorModule

open Algorithms

variable {R : Type} [Field R] [LinearOrder R]

def new : FatiguePredictorModule R := ⟨.new .crack .prediction, .default⟩

/-- The prediction for one crack of a message. -/
def prediction (math : CMath R) (predictionHorizonHours : Int) (m : FatiguePredictorModule R)
    (porcelainId : Int) (crack : CrackInfo R) : Except Failure (FatiguePredictionMessage R) := do
  let p := { m.params with initialCrackLength := crack.totalLength }
  let result ← predict math p crack predictionHorizonHours 100
  return {
    crack := crack
    porcelainId := porcelainId
    prediction := {
      id := 0
      crackId := toInt32 crack.id
      modelType := "ParisLaw+ResidualStress"
      parameters := resultToJson result
      timeHorizonHours := predictionHorizonHours
      predictedDepth := result.predictedDepth720h
      predictedWidth := result.predictedWidth720h
      predictedLength := result.predictedLength720h
      confidence := result.confidence
      riskLevel := result.riskLevel } }

def predictions (math : CMath R) (predictionHorizonHours : Int) (m : FatiguePredictorModule R)
    (msg : CrackDetectionMessage R) : Except Failure (List (FatiguePredictionMessage R)) :=
  msg.cracks.mapM (prediction math predictionHorizonHours m msg.porcelainId)

/-- A division by zero in `predict` ends the process, so no push before it
matters. -/
def process (math : CMath R) (predictionHorizonHours : Int) (m : FatiguePredictorModule R)
    (msg : CrackDetectionMessage R) (qs : Queues R) : Except Failure (Queues R) := do
  let out ← predictions math predictionHorizonHours m msg
  return out.foldl (fun qs (p : Msg R .prediction) => qs.pushIf m.output p) qs

end FatiguePredictorModule

/-! ## `DemSimulatorModule` -/

/-- What `DEMSimulation::run` and `result_to_json` give for a crack.  The
simulation draws random positions. -/
structure DemOutcome (R : Type) where
  particleCount : Int
  fillingRate : R
  bondingStrength : R
  surfaceSmoothness : R
  durabilityScore : R
  json : Json R

structure DemSimulatorModule (R : Type) extends ModuleBase .crack .dem where
  defaultMaterial : RepairMaterial R

namespace DemSimulatorModule

variable {R : Type}

/-- The constructor sets four fields of the material; `unset` is what the others
hold. -/
def new [OfNat R 25] (unset : RepairMaterial R) : DemSimulatorModule R where
  toModuleBase := .new .crack .dem
  defaultMaterial := { unset with
    id := 1
    type := .zirconia
    name := "Zirconia Nano"
    manufacturer := ""
    particleSizeNm := 25
    properties := .null }

def simulation (m : DemSimulatorModule R) (porcelainId : Int) (crack : CrackInfo R)
    (outcome : DemOutcome R) : DemSimulationMessage R where
  crack := crack
  porcelainId := porcelainId
  material := m.defaultMaterial
  result := {
    id := 0
    crackId := toInt32 crack.id
    materialId := m.defaultMaterial.id
    method := "DEM-DiscreteElement"
    parameters := .null
    particleCount := outcome.particleCount
    fillingRate := outcome.fillingRate
    bondingStrength := outcome.bondingStrength
    surfaceSmoothness := outcome.surfaceSmoothness
    durabilityScore := outcome.durabilityScore
    result := outcome.json }

/-- `outcomes` gives the outcome of the simulation for the crack at each
position. -/
def simulations (outcomes : Nat → DemOutcome R) (m : DemSimulatorModule R)
    (msg : CrackDetectionMessage R) : List (DemSimulationMessage R) :=
  msg.cracks.mapIdx fun i crack => simulation m msg.porcelainId crack (outcomes i)

def process (outcomes : Nat → DemOutcome R) (m : DemSimulatorModule R)
    (msg : CrackDetectionMessage R) (qs : Queues R) : Queues R :=
  (simulations outcomes m msg).foldl (fun qs (s : Msg R .dem) => qs.pushIf m.output s) qs

end DemSimulatorModule

end PorcelainMonitor.Modules
