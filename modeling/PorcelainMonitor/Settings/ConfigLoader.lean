import Mathlib.Algebra.Field.Rat
import Mathlib.Algebra.Order.Ring.Unbundled.Rat
import Mathlib.Data.Rat.Floor
import PorcelainMonitor.Settings.Config

/-!
# `config_loader.h`

`load_from_file` puts the file's values over the defaults, to which `apply_env`
has been applied.  A value that `get_to` cannot convert throws.  The exception is
caught, and the values read before it stay.
-/

namespace PorcelainMonitor.Settings

open Layers (Found entry fill Silent Absorbed Passed valueAt)

/-- What the code uses of `nlohmann::json`, whose values are the elements of `J`.
A conversion that throws gives nothing. -/
structure JsonReader (J R : Type) where
  /-- `contains` and `operator[]` -/
  member : String → J → Option J
  getString : J → Option String
  getBool : J → Option Bool
  getUInt16 : J → Option UInt16
  getInt : J → Option Int
  getDouble : J → Option R

/-- The member of a member, and so on. -/
def JsonReader.at {J R : Type} (json : JsonReader J R) (path : List String) (j : J) : Option J :=
  path.foldlM (fun j key => json.member key j) j

/-- `static_cast` of a number with a fraction. -/
def truncate (x : ℚ) : Int := if 0 ≤ x then ⌊x⌋ else ⌈x⌉

def getInt : Json ℚ → Option Int
  | .int n => some n
  | .float x => some (truncate x)
  | .bool b => some (if b then 1 else 0)
  | _ => none

/-- `nlohmann::json`, with text for the keys. -/
def nlohmann : JsonReader (Json ℚ) ℚ where
  member key
    | .obj fields => (fields.find? fun field => field.1 == key.toUTF8.data.toList).map Prod.snd
    | _ => none
  getString
    | .str bytes => String.fromUTF8? ⟨bytes.toArray⟩
    | _ => none
  getBool
    | .bool b => some b
    | _ => none
  getUInt16 j := (getInt j).map UInt16.ofInt
  getInt := getInt
  getDouble
    | .int n => some n
    | .float x => some x
    | _ => none

/-- What opening and parsing the file comes to. -/
inductive ConfigFile (J : Type) where
  | notFound
  | malformed
  | parsed (j : J)

namespace ConfigLoader

variable {J R : Type} (json : JsonReader J R)

def databaseEntries : List (J → Found (Config R)) :=
  [entry (json.at ["database", "host"]) json.getString
      fun x c => { c with database.host := x },
    entry (json.at ["database", "port"]) json.getUInt16
      fun x c => { c with database.port := x },
    entry (json.at ["database", "name"]) json.getString
      fun x c => { c with database.name := x },
    entry (json.at ["database", "user"]) json.getString
      fun x c => { c with database.user := x },
    entry (json.at ["database", "password"]) json.getString
      fun x c => { c with database.password := x },
    entry (json.at ["database", "pool_size"]) json.getInt
      fun x c => { c with database.poolSize := x }]

/-- The entries of `server` before the last. -/
def portEntries : List (J → Found (Config R)) :=
  [entry (json.at ["server", "profinet_port"]) json.getUInt16
      fun x c => { c with server.profinetPort := x },
    entry (json.at ["server", "http_port"]) json.getUInt16
      fun x c => { c with server.httpPort := x },
    entry (json.at ["server", "websocket_port"]) json.getUInt16
      fun x c => { c with server.websocketPort := x },
    entry (json.at ["server", "bind_address"]) json.getString
      fun x c => { c with server.bindAddress := x }]

def threadPoolSizeEntry : J → Found (Config R) :=
  entry (json.at ["server", "thread_pool_size"]) json.getInt
    fun x c => { c with server.threadPoolSize := x }

def alertEntries : List (J → Found (Config R)) :=
  [entry (json.at ["alerts", "depth_threshold"]) json.getDouble
      fun x c => { c with alerts.depthThreshold := x },
    entry (json.at ["alerts", "width_threshold"]) json.getDouble
      fun x c => { c with alerts.widthThreshold := x },
    entry (json.at ["alerts", "sms_enabled"]) json.getBool
      fun x c => { c with alerts.smsEnabled := x },
    entry (json.at ["alerts", "websocket_enabled"]) json.getBool
      fun x c => { c with alerts.websocketEnabled := x },
    entry (json.at ["alerts", "sms_gateway_url"]) json.getString
      fun x c => { c with alerts.smsGatewayUrl := x },
    entry (json.at ["alerts", "alert_phone_number"]) json.getString
      fun x c => { c with alerts.alertPhoneNumber := x }]

def defaultCEntry : J → Found (Config R) :=
  entry (json.at ["algorithms", "paris_law", "default_C"]) json.getDouble
    fun x c => { c with algorithms.parisLaw.defaultC := x }

def defaultMEntry : J → Found (Config R) :=
  entry (json.at ["algorithms", "paris_law", "default_m"]) json.getDouble
    fun x c => { c with algorithms.parisLaw.defaultM := x }

/-- The entries of `algorithms` after these two. -/
def algorithmEntries : List (J → Found (Config R)) :=
  [entry (json.at ["algorithms", "paris_law", "stress_ratio"]) json.getDouble
      fun x c => { c with algorithms.parisLaw.stressRatio := x },
    entry (json.at ["algorithms", "paris_law", "prediction_horizon_hours"]) json.getInt
      fun x c => { c with algorithms.parisLaw.predictionHorizonHours := x },
    entry (json.at ["algorithms", "dem", "particle_radius_nm"]) json.getDouble
      fun x c => { c with algorithms.dem.particleRadiusNm := x },
    entry (json.at ["algorithms", "dem", "youngs_modulus"]) json.getDouble
      fun x c => { c with algorithms.dem.youngsModulus := x },
    entry (json.at ["algorithms", "dem", "poissons_ratio"]) json.getDouble
      fun x c => { c with algorithms.dem.poissonsRatio := x },
    entry (json.at ["algorithms", "dem", "density"]) json.getDouble
      fun x c => { c with algorithms.dem.density := x },
    entry (json.at ["algorithms", "dem", "max_particles"]) json.getInt
      fun x c => { c with algorithms.dem.maxParticles := x },
    entry (json.at ["algorithms", "dem", "simulation_steps"]) json.getInt
      fun x c => { c with algorithms.dem.simulationSteps := x },
    entry (json.at ["algorithms", "dem", "time_step"]) json.getDouble
      fun x c => { c with algorithms.dem.timeStep := x }]

/-- All entries, in the order of the code. -/
def entries : List (J → Found (Config R)) :=
  (databaseEntries json ++ portEntries json) ++ threadPoolSizeEntry json ::
    (alertEntries json ++ defaultCEntry json :: defaultMEntry json :: algorithmEntries json)

/-- The `try` block. -/
def read (file : ConfigFile J) (c : Config R) : Config R :=
  match file with
  | .notFound => c
  | .malformed => c
  | .parsed j => fill (entries json) j c

def loadFromFile [Field R] (getenv : String → Option String) (atof : String → R)
    (file : ConfigFile J) : Config R :=
  read json file (Config.default.applyEnv getenv atof)

/-! ## What the file sets -/

/-- The value the file sets, behind these entries. -/
def valueBehind {α : Type} (es : List (J → Found (Config R))) (path : List String)
    (convert : J → Option α) : ConfigFile J → Option α
  | .notFound => none
  | .malformed => none
  | .parsed j => valueAt es (json.at path) convert j

def threadPoolSize : ConfigFile J → Option Int :=
  valueBehind json (databaseEntries json ++ portEntries json) ["server", "thread_pool_size"]
    json.getInt

/-- The entries before those of `algorithms`. -/
def upperEntries : List (J → Found (Config R)) :=
  (databaseEntries json ++ portEntries json) ++ threadPoolSizeEntry json :: alertEntries json

def defaultC : ConfigFile J → Option R :=
  valueBehind json (upperEntries json) ["algorithms", "paris_law", "default_C"] json.getDouble

def defaultM : ConfigFile J → Option R :=
  valueBehind json (upperEntries json ++ [defaultCEntry json])
    ["algorithms", "paris_law", "default_m"] json.getDouble

def poolSize : ConfigFile J → Option Int :=
  valueBehind json ((databaseEntries json).take 5) ["database", "pool_size"] json.getInt

def predictionHorizonHours : ConfigFile J → Option Int :=
  valueBehind json (upperEntries json ++ defaultCEntry json :: defaultMEntry json ::
      (algorithmEntries json).take 1)
    ["algorithms", "paris_law", "prediction_horizon_hours"] json.getInt

/-! ### Entries that leave a field alone -/

section Silence

variable {json} {α : Type} {get : Config R → α}

theorem silent_database (h : ∀ x c, get { c with database := x } = get c) :
    ∀ e ∈ databaseEntries json, Silent get e := by
  simp only [databaseEntries, List.forall_mem_cons, List.not_mem_nil, false_implies, implies_true,
    and_true]
  and_intros <;> exact .of_set fun _ c => h _ c

theorem silent_ports (h : ∀ x c, get { c with server := x } = get c) :
    ∀ e ∈ portEntries json, Silent get e := by
  simp only [portEntries, List.forall_mem_cons, List.not_mem_nil, false_implies, implies_true,
    and_true]
  and_intros <;> exact .of_set fun _ c => h _ c

theorem silent_alerts (h : ∀ x c, get { c with alerts := x } = get c) :
    ∀ e ∈ alertEntries json, Silent get e := by
  simp only [alertEntries, List.forall_mem_cons, List.not_mem_nil, false_implies, implies_true,
    and_true]
  and_intros <;> exact .of_set fun _ c => h _ c

theorem silent_upper (hdatabase : ∀ x c, get { c with database := x } = get c)
    (hserver : ∀ x c, get { c with server := x } = get c)
    (halerts : ∀ x c, get { c with alerts := x } = get c) :
    ∀ e ∈ upperEntries json, Silent get e := by
  rw [upperEntries, List.forall_mem_append, List.forall_mem_append, List.forall_mem_cons]
  exact ⟨⟨silent_database hdatabase, silent_ports hserver⟩, .of_set fun _ c => hserver _ c,
    silent_alerts halerts⟩

theorem silent_lower (h : ∀ x c, get { c with algorithms := x } = get c) :
    ∀ e ∈ defaultCEntry json :: defaultMEntry json :: algorithmEntries json, Silent get e := by
  simp only [algorithmEntries, List.forall_mem_cons, List.not_mem_nil, false_implies, implies_true,
    and_true]
  and_intros <;> exact .of_set fun _ c => h _ c

end Silence

/-! ### What is read -/

variable {file : ConfigFile J} (c : Config R)

/-- A field holds what its entry sets, if no other entry writes it. -/
theorem read_get {α : Type} (get : Config R → α) {es fs : List (J → Found (Config R))}
    {path : List String} {convert : J → Option α} {set : α → Config R → Config R}
    (hentries : entries json = es ++ entry (json.at path) convert set :: fs)
    (hes : ∀ e ∈ es, Silent get e) (hfs : ∀ e ∈ fs, Silent get e)
    (hset : ∀ x c, get (set x c) = x) :
    get (read json file c) = (valueBehind json es path convert file).getD (get c) := by
  cases file with
  | notFound => rfl
  | malformed => rfl
  | parsed j =>
      rw [read, hentries]
      exact Layers.fill_get get hes hfs hset c

theorem read_threadPoolSize : (read json file c).server.threadPoolSize =
    (threadPoolSize json file : Option Int).getD c.server.threadPoolSize := by
  have hes : ∀ e ∈ databaseEntries json ++ portEntries json,
      Silent (fun c => c.server.threadPoolSize) e := by
    rw [List.forall_mem_append]
    refine ⟨silent_database fun _ _ => rfl, ?_⟩
    simp only [portEntries, List.forall_mem_cons, List.not_mem_nil, false_implies, implies_true,
      and_true]
    and_intros <;> exact .of_set fun _ _ => rfl
  have hfs : ∀ e ∈ alertEntries json ++ defaultCEntry json :: defaultMEntry json ::
      algorithmEntries json, Silent (fun c => c.server.threadPoolSize) e :=
    List.forall_mem_append.mpr ⟨silent_alerts fun _ _ => rfl, silent_lower fun _ _ => rfl⟩
  exact read_get json c (fun c => c.server.threadPoolSize) rfl hes hfs fun _ _ => rfl

theorem read_defaultC : (read json file c).algorithms.parisLaw.defaultC =
    (defaultC json file).getD c.algorithms.parisLaw.defaultC := by
  have hes : ∀ e ∈ upperEntries json, Silent (fun c => c.algorithms.parisLaw.defaultC) e :=
    silent_upper (fun _ _ => rfl) (fun _ _ => rfl) (fun _ _ => rfl)
  have hfs : ∀ e ∈ defaultMEntry json :: algorithmEntries json,
      Silent (fun c => c.algorithms.parisLaw.defaultC) e := by
    simp only [algorithmEntries, List.forall_mem_cons, List.not_mem_nil, false_implies,
      implies_true, and_true]
    and_intros <;> exact .of_set fun _ _ => rfl
  exact read_get json c (fun c => c.algorithms.parisLaw.defaultC) rfl hes hfs fun _ _ => rfl

theorem read_defaultM : (read json file c).algorithms.parisLaw.defaultM =
    (defaultM json file).getD c.algorithms.parisLaw.defaultM := by
  have hes : ∀ e ∈ upperEntries json ++ [defaultCEntry json],
      Silent (fun c => c.algorithms.parisLaw.defaultM) e := by
    rw [List.forall_mem_append, List.forall_mem_singleton]
    exact ⟨silent_upper (fun _ _ => rfl) (fun _ _ => rfl) (fun _ _ => rfl),
      .of_set fun _ _ => rfl⟩
  have hfs : ∀ e ∈ algorithmEntries json, Silent (fun c => c.algorithms.parisLaw.defaultM) e := by
    simp only [algorithmEntries, List.forall_mem_cons, List.not_mem_nil, false_implies,
      implies_true, and_true]
    and_intros <;> exact .of_set fun _ _ => rfl
  exact read_get json c (fun c => c.algorithms.parisLaw.defaultM) rfl hes hfs fun _ _ => rfl

section Absorption

variable (getenv : String → Option String) (atof : String → R)

theorem absorbed : ∀ e ∈ entries json, Absorbed (Config.applyEnv getenv atof) e := by
  simp only [entries, databaseEntries, portEntries, alertEntries, algorithmEntries,
    List.forall_mem_append, List.forall_mem_cons, List.not_mem_nil, false_implies, implies_true,
    and_true]
  and_intros <;>
    exact .of_set fun _ _ => by
      simp only [Config.applyEnv, DatabaseConfig.applyEnv, ServerConfig.applyEnv,
        AlertConfig.applyEnv, Layers.override_override]

/-- `apply_env` before the file is read makes no difference if it is repeated
after it. -/
theorem read_absorb : (read json file (c.applyEnv getenv atof)).applyEnv getenv atof =
    (read json file c).applyEnv getenv atof := by
  cases file with
  | notFound => exact c.applyEnv_applyEnv getenv atof
  | malformed => exact c.applyEnv_applyEnv getenv atof
  | parsed j =>
      exact Layers.fill_absorb (absorbed json getenv atof) (Config.applyEnv_applyEnv getenv atof) c

end Absorption

end ConfigLoader

end PorcelainMonitor.Settings
