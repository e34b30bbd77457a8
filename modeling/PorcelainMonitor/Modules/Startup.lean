import PorcelainMonitor.Modules.Wiring
import PorcelainMonitor.Settings.ConfigLoader

/-!
# Settings in `MonitorServer::init` and `start`

`init` keeps what the file gave in `cfg_`, copies it to `config::get_config()` and
applies the environment to the copy.  The ports, the pool and the alert
thresholds are taken from the copy.  `start` takes the number of threads from
`cfg_`, where the file beats the environment.  The fatigue predictor keeps the
defaults of `ParisLawParameters`: no one calls its `set_parameters`.
-/

namespace PorcelainMonitor.Modules

open Layers (override)
open Settings

/-! ## `init` -/

/-- The arguments of `DatabaseManager::init`. -/
structure DatabaseInit where
  host : String
  port : UInt16
  dbname : String
  user : String
  password : String
  poolSize : Int
deriving DecidableEq, Repr

/-- What `init` has set up. -/
structure Startup (R : Type) where
  /-- `cfg_` -/
  cfg : Config R
  /-- `config::get_config()` -/
  config : Config R
  database : DatabaseInit
  profinetPort : UInt16
  websocketPort : UInt16
  httpPort : UInt16
  alertManager : Alerts.AlertManager R
  server : MonitorServer R

variable {J R : Type} [Field R]

section Init

variable (json : JsonReader J R) (getenv : String → Option String) (atof : String → R)
  (unset : RepairMaterial R) (file : ConfigFile J)

def Startup.init : Startup R :=
  let cfg := ConfigLoader.loadFromFile json getenv atof file
  let config := cfg.applyEnv getenv atof
  { cfg := cfg
    config := config
    database := {
      host := config.database.host
      port := config.database.port
      dbname := config.database.name
      user := config.database.user
      password := config.database.password
      poolSize := config.database.poolSize }
    profinetPort := config.server.profinetPort
    websocketPort := config.server.websocketPort
    httpPort := config.server.httpPort
    alertManager := ⟨config.alerts.depthThreshold, config.alerts.widthThreshold⟩
    server := .init unset }

/-- The rounds of the loop of `start`, which makes one thread in each. -/
def Startup.ioThreads (s : Startup R) : Nat := s.cfg.server.threadPoolSize.toNat

/-- Environment over file over default. -/
def intended : Config R := (ConfigLoader.read json file .default).applyEnv getenv atof

/-- The server uses these settings, and its predictor does at all times. -/
structure Effective [LinearOrder R] (s : Startup R) (config : Config R) : Prop where
  ioThreads : (s.ioThreads : Int) = config.server.threadPoolSize
  profinetPort : s.profinetPort = config.server.profinetPort
  websocketPort : s.websocketPort = config.server.websocketPort
  httpPort : s.httpPort = config.server.httpPort
  poolSize : s.database.poolSize = config.database.poolSize
  depthThreshold : s.alertManager.depthThreshold = config.alerts.depthThreshold
  widthThreshold : s.alertManager.widthThreshold = config.alerts.widthThreshold
  parisLaw : ∀ (math : Algorithms.CMath R) laser vibration es t,
    Steps.exec (Pipeline.step ⟨math, s.config.algorithms.parisLaw.predictionHorizonHours⟩)
        { Pipeline.start unset laser vibration with server := s.server } es = some t →
      t.server.fatiguePredictor.params.C = config.algorithms.parisLaw.defaultC ∧
        t.server.fatiguePredictor.params.m = config.algorithms.parisLaw.defaultM

/-- The file says nothing that `start` or the predictor gets wrong. -/
structure Harmless : Prop where
  threadsOfFile : ∀ n, ConfigLoader.threadPoolSize json file = some n →
    getenv "PM_THREAD_POOL" = none → 0 ≤ n
  threadsOfBoth : ∀ n env, ConfigLoader.threadPoolSize json file = some n →
    getenv "PM_THREAD_POOL" = some env → n = toThreads env
  defaultC : ∀ x, ConfigLoader.defaultC json file = some x → x = 15 / 10 ^ 11
  defaultM : ∀ x, ConfigLoader.defaultM json file = some x → x = 3

end Init

/-! ## The predictor -/

namespace Pipeline

variable [LinearOrder R] {env : Env R} {s t : Pipeline R} {e : Event R}

/-- No step changes the parameters of the predictor. -/
theorem step_params (hst : step env s e = some t) :
    t.server.fatiguePredictor.params = s.server.fatiguePredictor.params := by
  simp only [step] at hst
  split at hst
  · cases hst
  · cases e with
    | laserCallback =>
        simp only at hst
        split at hst
        · cases hst
        · split at hst <;> cases hst <;> rfl
    | vibrationCallback =>
        simp only at hst
        split at hst
        · cases hst
        · split at hst <;> cases hst <;> rfl
    | laserFanOut =>
        simp only at hst
        split at hst <;> cases hst <;> rfl
    | crackRouter =>
        simp only at hst
        split at hst <;> cases hst <;> rfl
    | crackFanOut =>
        simp only at hst
        split at hst <;> cases hst <;> rfl
    | fatiguePredictor =>
        simp only at hst
        split at hst
        · cases hst
          rfl
        · split at hst <;> cases hst <;> rfl
    | demSimulator outcomes =>
        simp only at hst
        split at hst <;> cases hst <;> rfl
    | alertWs =>
        simp only at hst
        split at hst <;> cases hst <;> rfl

theorem exec_params {es : List (Event R)} (h : Steps.exec (step env) s es = some t) :
    t.server.fatiguePredictor.params = s.server.fatiguePredictor.params := by
  have hkeep : ∀ u e v, u.server.fatiguePredictor.params = s.server.fatiguePredictor.params →
      step env u e = some v →
        v.server.fatiguePredictor.params = s.server.fatiguePredictor.params :=
    fun u e v hu hst => (step_params hst).trans hu
  exact Steps.exec_invariant hkeep rfl h

end Pipeline

/-! ## The settings of both objects -/

/-- A default is kept if the file gives no other value. -/
theorem default_eq_getD_iff {α : Type} {value? : Option α} {x : α} :
    x = value?.getD x ↔ ∀ y, value? = some y → y = x := by
  cases value? with
  | none => simp
  | some y => simp [eq_comm]

theorem one_le_toThreads (env : String) : 1 ≤ toThreads env := Int.le_max_left 1 _

/-- The threads for the file over the environment, and the setting for the
environment over the file. -/
theorem threads_iff {threads? : Option Int} {env? : Option String} :
    ((threads?.getD (override env? toThreads 8)).toNat : Int) =
        override env? toThreads (threads?.getD 8) ↔
      (∀ n, threads? = some n → env? = none → 0 ≤ n) ∧
        ∀ n env, threads? = some n → env? = some env → n = toThreads env := by
  cases threads? with
  | none =>
      have hnonneg : 0 ≤ override env? toThreads 8 := by
        cases env? with
        | none => exact Int.le_of_lt (by decide)
        | some env => exact Int.le_trans (by decide) (one_le_toThreads env)
      simp [Int.toNat_of_nonneg hnonneg]
  | some n =>
      cases env? with
      | none => simp
      | some env =>
          have hpos := one_le_toThreads env
          simp only [Option.getD_some, Layers.override_some, Option.some.injEq, reduceCtorEq]
          grind

section Settings

variable (json : JsonReader J R) (getenv : String → Option String) (atof : String → R)
  (unset : RepairMaterial R) (file : ConfigFile J)

/-- The environment is applied twice to the global object, and the second time counts. -/
theorem Startup.init_config :
    (Startup.init json getenv atof unset file).config = intended json getenv atof file :=
  ConfigLoader.read_absorb json .default getenv atof

theorem ioThreads_iff :
    ((Startup.init json getenv atof unset file).ioThreads : Int) =
        (intended json getenv atof file).server.threadPoolSize ↔
      (∀ n, ConfigLoader.threadPoolSize json file = some n →
          getenv "PM_THREAD_POOL" = none → 0 ≤ n) ∧
        ∀ n env, ConfigLoader.threadPoolSize json file = some n →
          getenv "PM_THREAD_POOL" = some env → n = toThreads env := by
  have hfile : (Startup.init json getenv atof unset file).cfg.server.threadPoolSize =
      (ConfigLoader.threadPoolSize json file).getD
        (override (getenv "PM_THREAD_POOL") toThreads 8) :=
    ConfigLoader.read_threadPoolSize json _
  have henv : (intended json getenv atof file).server.threadPoolSize =
      override (getenv "PM_THREAD_POOL") toThreads
        ((ConfigLoader.threadPoolSize json file).getD 8) :=
    congrArg (override _ _) (ConfigLoader.read_threadPoolSize json _)
  rw [Startup.ioThreads, hfile, henv]
  exact threads_iff

theorem defaultC_iff :
    15 / 10 ^ 11 = (intended json getenv atof file).algorithms.parisLaw.defaultC ↔
      ∀ x, ConfigLoader.defaultC json file = some x → x = 15 / 10 ^ 11 := by
  have hC : (intended json getenv atof file).algorithms.parisLaw.defaultC =
      (ConfigLoader.defaultC json file).getD (15 / 10 ^ 11) := ConfigLoader.read_defaultC json _
  rw [hC]
  exact default_eq_getD_iff

theorem defaultM_iff :
    3 = (intended json getenv atof file).algorithms.parisLaw.defaultM ↔
      ∀ x, ConfigLoader.defaultM json file = some x → x = 3 := by
  have hm : (intended json getenv atof file).algorithms.parisLaw.defaultM =
      (ConfigLoader.defaultM json file).getD 3 := ConfigLoader.read_defaultM json _
  rw [hm]
  exact default_eq_getD_iff

end Settings

/-- The running server uses every setting as intended, in every run, exactly if
the file's `thread_pool_size` is that of the environment, or not negative where
the environment has none, and the file's `default_C` and `default_m` are the
defaults. -/
theorem settings_effective_iff [LinearOrder R] (json : JsonReader J R)
    (getenv : String → Option String) (atof : String → R) (unset : RepairMaterial R)
    (file : ConfigFile J) :
    Effective unset (Startup.init json getenv atof unset file)
        (intended json getenv atof file) ↔
      Harmless json getenv file := by
  have hconfig := Startup.init_config json getenv atof unset file
  constructor
  · intro h
    obtain ⟨hfile, hboth⟩ := (ioThreads_iff json getenv atof unset file).mp h.ioThreads
    let math : Algorithms.CMath R := ⟨0, id, fun x _ => x, id, id⟩
    obtain ⟨hC, hm⟩ := h.parisLaw math [] [] [] _ rfl
    exact ⟨hfile, hboth, (defaultC_iff json getenv atof file).mp hC,
      (defaultM_iff json getenv atof file).mp hm⟩
  · intro h
    refine ⟨(ioThreads_iff json getenv atof unset file).mpr ⟨h.threadsOfFile, h.threadsOfBoth⟩,
      ?_, ?_, ?_, ?_, ?_, ?_, fun math laser vibration es t hexec => ?_⟩
    · rw [← hconfig]
      rfl
    · rw [← hconfig]
      rfl
    · rw [← hconfig]
      rfl
    · rw [← hconfig]
      rfl
    · rw [← hconfig]
      rfl
    · rw [← hconfig]
      rfl
    · rw [Pipeline.exec_params hexec]
      exact ⟨(defaultC_iff json getenv atof file).mpr h.defaultC,
        (defaultM_iff json getenv atof file).mpr h.defaultM⟩

/-! ### A file with the default number of threads -/

/-- The number of threads of the `config.json` that comes with the server. -/
def eightThreads : Json ℚ := .object [("server", .object [("thread_pool_size", .int 8)])]

/-- `PM_THREAD_POOL=2` -/
def twoThreads (name : String) : Option String := if name = "PM_THREAD_POOL" then some "2" else none

theorem file_beats_thread_pool_variable :
    ¬ ∀ (json : JsonReader (Json ℚ) ℚ) getenv atof unset file,
        Effective unset (Startup.init json getenv atof unset file)
          (intended json getenv atof file) := by
  intro h
  let unset : RepairMaterial ℚ := ⟨0, .zirconia, "", "", 0, 0, 0, 0, 0, .null⟩
  have hthreads := (h nlohmann twoThreads (fun _ => 0) unset (.parsed eightThreads)).ioThreads
  rw [ioThreads_iff] at hthreads
  have htwo := hthreads.2 8 "2" rfl rfl
  exact absurd htwo (by decide)

end PorcelainMonitor.Modules
