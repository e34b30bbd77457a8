import PorcelainMonitor.Settings.ConfigLoader

/-!
# A file that cannot be read to its end

Where parsing or a conversion throws, `load_from_file` says that it uses the
defaults and the environment.  It returns the object it was writing to, with
every value that came before the one that failed.
-/

namespace PorcelainMonitor.Settings

open Layers (Passed Commute Repeatable found)

namespace ConfigLoader

variable {J R : Type} (json : JsonReader J R)

/-- Parsing or the conversion of a value throws. -/
def Throws : ConfigFile J → Prop
  | .notFound => False
  | .malformed => True
  | .parsed j => Passed (entries json : List (J → Layers.Found (Config R))) j = false

/-- The values of the file that are converted before one throws. -/
def converted : ConfigFile J → List (Config R → Config R)
  | .notFound => []
  | .malformed => []
  | .parsed j => found (entries json) j

/-! ## The entries are independent -/

theorem entries_commute : (entries json : List (J → Layers.Found (Config R))).Pairwise Commute := by
  simp only [entries, databaseEntries, portEntries, threadPoolSizeEntry, alertEntries,
    defaultCEntry, defaultMEntry, algorithmEntries, List.cons_append, List.nil_append,
    List.pairwise_cons, List.forall_mem_cons]
  and_intros
  all_goals first
    | exact .of_set fun _ _ _ => rfl
    | simp

theorem entries_repeatable :
    ∀ e ∈ (entries json : List (J → Layers.Found (Config R))), Repeatable e := by
  simp only [entries, databaseEntries, portEntries, threadPoolSizeEntry, alertEntries,
    defaultCEntry, defaultMEntry, algorithmEntries, List.cons_append, List.nil_append,
    List.forall_mem_cons]
  and_intros
  all_goals first
    | exact .of_set fun _ _ => rfl
    | simp

/-- The file leaves no trace exactly if every value that was converted is the one
the settings have already. -/
theorem read_eq_self_iff (file : ConfigFile J) (c : Config R) :
    read json file c = c ↔ ∀ set ∈ converted json file, set c = c := by
  cases file with
  | notFound => simp [read, converted]
  | malformed => simp [read, converted]
  | parsed j => exact Layers.fill_eq_self_iff (entries_commute json) (entries_repeatable json) c

/-- A file that cannot be read to its end leaves the defaults and the environment
exactly if every value before the failure is the one they have. -/
theorem failed_load_iff [Field R] (getenv : String → Option String) (atof : String → R)
    (file : ConfigFile J) :
    (Throws json file →
        loadFromFile json getenv atof file = Config.default.applyEnv getenv atof) ↔
      (Throws json file → ∀ set ∈ converted json file,
        set (Config.default.applyEnv getenv atof) = Config.default.applyEnv getenv atof) :=
  imp_congr_right fun _ => read_eq_self_iff json file (Config.default.applyEnv getenv atof)

/-- A port that is a number, before one that is not. -/
def wrongHttpPort : Json ℚ :=
  .object [("database", .object [("port", .int 6000)]),
    ("server", .object [("http_port", .text "http")])]

theorem port_of_failed_file_kept :
    ¬ ∀ (json : JsonReader (Json ℚ) ℚ) getenv atof file, Throws json file →
        loadFromFile json getenv atof file = Config.default.applyEnv getenv atof := by
  intro h
  have hload := h nlohmann (fun _ => none) (fun _ => 0) (.parsed wrongHttpPort) rfl
  have hport : (6000 : UInt16) = 5432 := congrArg (fun c => c.database.port) hload
  exact absurd hport (by decide)

end ConfigLoader

end PorcelainMonitor.Settings
