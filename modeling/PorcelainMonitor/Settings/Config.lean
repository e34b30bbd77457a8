import Mathlib.Algebra.Order.Field.Basic
import PorcelainMonitor.Database.DatabaseManager
import PorcelainMonitor.Lib.Layers

/-!
# `config.h`

The settings with their defaults, and `apply_env`, which puts the `PM_*`
variables over them.  `getenv` is the environment.  Numbers are the elements of
an ordered field, and `atof` gives them for a text.
-/

namespace PorcelainMonitor.Settings

open Database (atoi)
open Layers (override)

/-! ## Settings -/

/-- Where the database is, and how many connections the pool gets. -/
structure DatabaseConfig where
  host : String
  port : UInt16
  name : String
  user : String
  password : String
  poolSize : Int
  maxPoolSize : Int
deriving DecidableEq, Repr

/-- Where the servers listen, and how many threads serve them. -/
structure ServerConfig where
  profinetPort : UInt16
  httpPort : UInt16
  websocketPort : UInt16
  bindAddress : String
  threadPoolSize : Int
deriving DecidableEq, Repr

/-- When an alert is raised, and how it goes out. -/
structure AlertConfig (R : Type) where
  depthThreshold : R
  widthThreshold : R
  smsEnabled : Bool
  websocketEnabled : Bool
  smsGatewayUrl : String
  alertPhoneNumber : String
deriving DecidableEq, Repr

/-- The constants of the growth law. -/
structure ParisLaw (R : Type) where
  defaultC : R
  defaultM : R
  stressRatio : R
  predictionHorizonHours : Int
deriving DecidableEq, Repr

/-- The constants of the particles. -/
structure DEM (R : Type) where
  particleRadiusNm : R
  youngsModulus : R
  poissonsRatio : R
  density : R
  maxParticles : Int
  simulationSteps : Int
  timeStep : R
deriving DecidableEq, Repr

structure AlgorithmConfig (R : Type) where
  parisLaw : ParisLaw R
  dem : DEM R
deriving DecidableEq, Repr

structure Config (R : Type) where
  database : DatabaseConfig
  server : ServerConfig
  alerts : AlertConfig R
  algorithms : AlgorithmConfig R
deriving DecidableEq, Repr

/-! ## Defaults -/

def DatabaseConfig.default : DatabaseConfig where
  host := "localhost"
  port := 5432
  name := "porcelain_monitor"
  user := "postgres"
  password := "postgres"
  poolSize := 10
  maxPoolSize := 50

def ServerConfig.default : ServerConfig where
  profinetPort := 34964
  httpPort := 8080
  websocketPort := 8081
  bindAddress := "0.0.0.0"
  threadPoolSize := 8

section Numbers

variable {R : Type} [Field R]

def AlertConfig.default : AlertConfig R where
  depthThreshold := 200
  widthThreshold := 50
  smsEnabled := true
  websocketEnabled := true
  smsGatewayUrl := "http://sms-gateway.example.com/send"
  alertPhoneNumber := "+8613800138000"

def ParisLaw.default : ParisLaw R where
  defaultC := 15 / 10 ^ 11
  defaultM := 3
  stressRatio := 1 / 10
  predictionHorizonHours := 720

def DEM.default : DEM R where
  particleRadiusNm := 25
  youngsModulus := 70 * 10 ^ 9
  poissonsRatio := 22 / 100
  density := 3950
  maxParticles := 10000
  simulationSteps := 1000
  timeStep := 1 / 10 ^ 9

/-- The default member initialisers, which hold until a file or the environment says otherwise.
-/
def Config.default : Config R where
  database := .default
  server := .default
  alerts := .default
  algorithms := ⟨.default, .default⟩

end Numbers

/-! ## `apply_env` -/

/-- `static_cast<uint16_t>(std::atoi(env))` -/
def toPort (env : String) : UInt16 := .ofInt (atoi env)

/-- Each variable that is set replaces its field. -/
def DatabaseConfig.applyEnv (getenv : String → Option String) (c : DatabaseConfig) :
    DatabaseConfig where
  host := override (getenv "PM_DB_HOST") id c.host
  port := override (getenv "PM_DB_PORT") toPort c.port
  name := override (getenv "PM_DB_NAME") id c.name
  user := override (getenv "PM_DB_USER") id c.user
  password := override (getenv "PM_DB_PASSWORD") id c.password
  poolSize := override (getenv "PM_DB_POOL_SIZE")
    (fun env => max 1 (min (atoi env) c.maxPoolSize)) c.poolSize
  maxPoolSize := c.maxPoolSize

/-- `std::max(1, std::atoi(env))` -/
def toThreads (env : String) : Int := max 1 (atoi env)

def ServerConfig.applyEnv (getenv : String → Option String) (c : ServerConfig) : ServerConfig where
  profinetPort := override (getenv "PM_PROFINET_PORT") toPort c.profinetPort
  httpPort := override (getenv "PM_HTTP_PORT") toPort c.httpPort
  websocketPort := override (getenv "PM_WS_PORT") toPort c.websocketPort
  bindAddress := c.bindAddress
  threadPoolSize := override (getenv "PM_THREAD_POOL") toThreads c.threadPoolSize

section Numbers

variable {R : Type} (getenv : String → Option String) (atof : String → R)

/-- A threshold is replaced by what `atof` makes of the variable, whatever that is. -/
def AlertConfig.applyEnv (c : AlertConfig R) : AlertConfig R :=
  { c with
    depthThreshold := override (getenv "PM_DEPTH_THRESHOLD") atof c.depthThreshold
    widthThreshold := override (getenv "PM_WIDTH_THRESHOLD") atof c.widthThreshold
    smsEnabled := override (getenv "PM_SMS_ENABLED") (fun env => env == "1" || env == "true")
      c.smsEnabled }

/-- The algorithms take nothing from the environment. -/
def Config.applyEnv (c : Config R) : Config R :=
  { c with
    database := c.database.applyEnv getenv
    server := c.server.applyEnv getenv
    alerts := c.alerts.applyEnv getenv atof }

/-- The environment is applied twice at no harm. -/
theorem Config.applyEnv_applyEnv (c : Config R) :
    (c.applyEnv getenv atof).applyEnv getenv atof = c.applyEnv getenv atof := by
  simp [applyEnv, DatabaseConfig.applyEnv, ServerConfig.applyEnv, AlertConfig.applyEnv]

end Numbers

end PorcelainMonitor.Settings
