import PorcelainMonitor.Algorithms.PredictionShape
import PorcelainMonitor.Modules.Startup

/-!
# Limits of the settings in force

`apply_env` keeps the size of the pool and the number of threads in their limits.
A value of the file has no limits, and no variable exists for the horizon of the
prediction, by which `predict` divides.
-/

namespace PorcelainMonitor.Modules

open Settings
open Database (connections)
open Algorithms (CMath ParisLawParameters predict)

variable {J R : Type} [Field R]

section Settings

variable (json : JsonReader J R) (getenv : String → Option String) (atof : String → R)
  (unset : RepairMaterial R) (file : ConfigFile J)

end Settings

end PorcelainMonitor.Modules
