import PorcelainMonitor.Lib.Steps
import PorcelainMonitor.Modules.AlertWs

/-!
# `MonitorServer::wire_pipeline`

`init` constructs the modules and `wire_pipeline` makes seven queues and sets the
references of the modules.  Two setters get the input of a fan-out module, which
no one has made: `laser_fanout_->input()` and `crack_fanout_->input()` are null.
So the parser callback, which pushes without a check, dereferences a null
pointer at the first laser message.
-/

namespace PorcelainMonitor.Modules

/-! ## Construction -/

structure ProfinetParserModule where
  laserOut : SharedQueue .laser
  vibrationOut : SharedQueue .vibration
deriving DecidableEq, Repr

structure MonitorServer (R : Type) where
  profinetParser : ProfinetParserModule
  laserFanout : FanOutModule .laser
  crackRouter : CrackRouterModule
  crackFanout : FanOutModule .crack
  fatiguePredictor : FatiguePredictorModule R
  demSimulator : DemSimulatorModule R
  alertWs : AlertWsModule

/-- `make_queue<T>()`; the state counts the queues made so far. -/
def makeQueue (t : Topic) : StateM Nat (SharedQueue t) := do
  let n ← get
  set (n + 1)
  return some n

namespace MonitorServer

variable {R : Type} [Field R] [LinearOrder R]

/-- The constructors of the modules.  Those of the first and the last make
queues that `wire_pipeline` replaces. -/
def construct (unset : RepairMaterial R) : StateM Nat (MonitorServer R) := do
  let laserOut ← makeQueue .laser
  let vibrationOut ← makeQueue .vibration
  let laserIn ← makeQueue .laser
  let vibrationIn ← makeQueue .vibration
  let predictionIn ← makeQueue .prediction
  let demIn ← makeQueue .dem
  return {
    profinetParser := { laserOut, vibrationOut }
    laserFanout := .new .laser
    crackRouter := .new .laser .crack
    crackFanout := .new .crack
    fatiguePredictor := .new
    demSimulator := .new unset
    alertWs := { laserIn, vibrationIn, predictionIn, demIn } }

def wirePipeline (s : MonitorServer R) : StateM Nat (MonitorServer R) := do
  let laserQAlert ← makeQueue .laser
  let laserQRouter ← makeQueue .laser
  let crackQFatigue ← makeQueue .crack
  let crackQDem ← makeQueue .crack
  let predictionQ ← makeQueue .prediction
  let demQ ← makeQueue .dem
  let vibrationQ ← makeQueue .vibration
  let s := { s with profinetParser.laserOut := s.laserFanout.input }
  let s := { s with profinetParser.vibrationOut := vibrationQ }
  let s := { s with laserFanout.output := laserQAlert }
  let s := { s with laserFanout.extraOutputs := s.laserFanout.extraOutputs ++ [laserQRouter] }
  let s := { s with crackRouter.input := laserQRouter }
  let s := { s with crackRouter.output := s.crackFanout.input }
  let s := { s with crackFanout.output := crackQFatigue }
  let s := { s with crackFanout.extraOutputs := s.crackFanout.extraOutputs ++ [crackQDem] }
  let s := { s with fatiguePredictor.input := crackQFatigue }
  let s := { s with fatiguePredictor.output := predictionQ }
  let s := { s with demSimulator.input := crackQDem }
  let s := { s with demSimulator.output := demQ }
  let s := { s with alertWs.laserIn := laserQAlert }
  let s := { s with alertWs.vibrationIn := vibrationQ }
  let s := { s with alertWs.predictionIn := predictionQ }
  return { s with alertWs.demIn := demQ }

/-- What `init` leaves behind. -/
def init (unset : RepairMaterial R) : MonitorServer R :=
  ((construct unset >>= wirePipeline).run 0).1

end MonitorServer

/-! ## The running pipeline -/

/-- What the modules take from outside. -/
structure Env (R : Type) where
  math : Algorithms.CMath R
  predictionHorizonHours : Int

/-- The messages that `AlertWsModule` has taken, by type and in order. -/
structure Received (R : Type) where
  laser : List (ParsedLaserMessage R)
  vibration : List (ParsedVibrationMessage R)
  predictions : List (FatiguePredictionMessage R)
  dems : List (DemSimulationMessage R)

structure Pipeline (R : Type) where
  server : MonitorServer R
  queues : Queues R
  /-- The laser messages still to come from the parser. -/
  laserPending : List (ParsedLaserMessage R)
  vibrationPending : List (ParsedVibrationMessage R)
  received : Received R
  /-- The process has dereferenced a null pointer or divided by zero. -/
  crashed : Bool

/-- Callbacks of the parser, and rounds of the module loops. -/
inductive Event (R : Type) where
  | laserCallback
  | vibrationCallback
  | laserFanOut
  | crackRouter
  | crackFanOut
  | fatiguePredictor
  | demSimulator (outcomes : Nat → DemOutcome R)
  | alertWs

namespace Pipeline

variable {R : Type} [Field R] [LinearOrder R]

/-- The wired server, before any message. -/
def start (unset : RepairMaterial R) (laser : List (ParsedLaserMessage R))
    (vibration : List (ParsedVibrationMessage R)) : Pipeline R where
  server := .init unset
  queues := .empty
  laserPending := laser
  vibrationPending := vibration
  received := ⟨[], [], [], []⟩
  crashed := false

def step (env : Env R) (s : Pipeline R) (e : Event R) : Option (Pipeline R) :=
  if s.crashed then none
  else match e with
    | .laserCallback =>
        match s.laserPending with
        | [] => none
        | msg :: rest =>
            match s.server.profinetParser.laserOut with
            | none => some { s with laserPending := rest, crashed := true }
            | some q => some { s with
                laserPending := rest
                queues := s.queues.push q (show Msg R .laser from msg) }
    | .vibrationCallback =>
        match s.vibrationPending with
        | [] => none
        | msg :: rest =>
            match s.server.profinetParser.vibrationOut with
            | none => some { s with vibrationPending := rest, crashed := true }
            | some q => some { s with
                vibrationPending := rest
                queues := s.queues.push q (show Msg R .vibration from msg) }
    | .laserFanOut =>
        match s.queues.tryPop s.server.laserFanout.input with
        | none => some s
        | some (msg, qs) => some { s with
            queues := s.server.laserFanout.process msg qs
            server.laserFanout.processed := s.server.laserFanout.processed + 1 }
    | .crackRouter =>
        match s.queues.tryPop s.server.crackRouter.input with
        | none => some s
        | some (msg, qs) => some { s with
            queues := CrackRouterModule.process s.server.crackRouter msg qs
            server.crackRouter.processed := s.server.crackRouter.processed + 1 }
    | .crackFanOut =>
        match s.queues.tryPop s.server.crackFanout.input with
        | none => some s
        | some (msg, qs) => some { s with
            queues := s.server.crackFanout.process msg qs
            server.crackFanout.processed := s.server.crackFanout.processed + 1 }
    | .fatiguePredictor =>
        match s.queues.tryPop s.server.fatiguePredictor.input with
        | none => some s
        | some (msg, qs) =>
            match s.server.fatiguePredictor.process env.math env.predictionHorizonHours msg qs with
            | .ok qs => some { s with
                queues := qs
                server.fatiguePredictor.processed := s.server.fatiguePredictor.processed + 1 }
            | .error (.exception _) => some { s with queues := qs }
            | .error _ => some { s with queues := qs, crashed := true }
    | .demSimulator outcomes =>
        match s.queues.tryPop s.server.demSimulator.input with
        | none => some s
        | some (msg, qs) => some { s with
            queues := s.server.demSimulator.process outcomes msg qs
            server.demSimulator.processed := s.server.demSimulator.processed + 1 }
    | .alertWs =>
        match s.server.alertWs.take s.queues with
        | (.laser msg, qs) =>
            some { s with queues := qs, received.laser := s.received.laser ++ [msg] }
        | (.vibration msg, qs) =>
            some { s with queues := qs, received.vibration := s.received.vibration ++ [msg] }
        | (.prediction msg, qs) =>
            some { s with queues := qs, received.predictions := s.received.predictions ++ [msg] }
        | (.dem msg, qs) => some { s with queues := qs, received.dems := s.received.dems ++ [msg] }
        | (.nothing, qs) => some { s with queues := qs }

/-! ## Delivery -/

/-- Nothing that can happen changes the state any more. -/
def Idle (env : Env R) (s : Pipeline R) : Prop :=
  ∀ e, step env s e = none ∨ step env s e = some s

/-- The cracks the modules behind the router are to report on. -/
def reportable (msgs : List (ParsedLaserMessage R)) : List (Int × CrackInfo R) :=
  msgs.flatMap fun msg =>
    if msg.data.crackDetected then
      msg.data.cracks.map fun crack => (msg.data.porcelainId, crack)
    else []

/-- `AlertWsModule` has every laser message once and in order, and for every crack
to report on one prediction and one simulation. -/
structure Delivered (msgs : List (ParsedLaserMessage R)) (s : Pipeline R) : Prop where
  laser : s.received.laser = msgs
  predictions : (s.received.predictions.map fun m => (m.porcelainId, m.crack)).Perm
    (reportable msgs)
  dems : (s.received.dems.map fun m => (m.porcelainId, m.crack)).Perm (reportable msgs)

end Pipeline

end PorcelainMonitor.Modules
