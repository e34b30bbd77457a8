import PorcelainMonitor.Database.ReadBack
import PorcelainMonitor.Http.AlertLife
import PorcelainMonitor.Profinet.PayloadCodec

/-!
# The simulated sensors and the installed ones

`main` of the simulator starts as many sensors as it is told to.  `init.sql` installs
twenty microscopes and forty vibration sensors, on two hundred porcelains, and nothing that
the server does installs another.  A reading whose sensor or porcelain is not there is
refused by the foreign keys.

So the sizes of the two fleets decide what becomes of the readings (`fleet_recorded_iff`).
A payload is looked at as it is built.  The frame around it, the queues behind the parser
and the `log_profinet_packet` before the `INSERT` are left out.
-/

namespace PorcelainMonitor.Simulator

open Database
open Http (Installation SystemEvent)
open Profinet

variable {R : Type}

/-! ## The fleet -/

structure SensorConfig where
  id : Int32
  name : String
  porcelainId : Int32
  type : String
  serverIp : String
  serverPort : UInt16
  intervalMs : Int32

/-- What the simulator is told by its environment and its arguments. -/
structure FleetOptions where
  serverIp : String
  serverPort : UInt16
  intervalMs : Int32
  laserCount : Int32
  vibrationCount : Int32

def laserConfig (options : FleetOptions) (i : Nat) : SensorConfig where
  id := Int32.ofNat i
  name := "激光共聚焦显微镜 #" ++ toString i
  porcelainId := Int32.ofNat i
  type := "LASER"
  serverIp := options.serverIp
  serverPort := options.serverPort
  intervalMs := options.intervalMs + Int32.ofNat (i % 5) * 1000

def vibrationConfig (options : FleetOptions) (i : Nat) : SensorConfig where
  id := Int32.ofNat i
  name := "微振动传感器 #" ++ toString i
  porcelainId := Int32.ofNat ((i - 1) % 200 + 1)
  type := "VIBRATION"
  serverIp := options.serverIp
  serverPort := options.serverPort
  intervalMs := options.intervalMs + Int32.ofNat (i % 5) * 1000

/-- The sensors that `main` starts.  Its loops count from one. -/
def fleet (options : FleetOptions) : List SensorConfig :=
  (List.range options.laserCount.toInt.toNat).map (fun k : Nat => laserConfig options (k + 1)) ++
    (List.range options.vibrationCount.toInt.toNat).map fun k : Nat =>
      vibrationConfig options (k + 1)

namespace SensorConfig

variable (c : SensorConfig)

/-- The reading that `build_laser_payload` lays out. -/
def laserReading (r : LaserReading) : LaserReading :=
  { r with sensorId := c.id, porcelainId := c.porcelainId }

/-- The reading that `build_vibration_payload` lays out. -/
def vibrationReading (r : VibrationReading) : VibrationReading :=
  { r with sensorId := c.id + 20, porcelainId := c.porcelainId }

def frameId : UInt16 := if c.type = "LASER" then 0x8001 else 0x8002

def payload (laser : LaserReading) (vibration : VibrationReading) : List UInt8 :=
  if c.type = "LASER" then buildLaserPayload (c.laserReading laser)
  else buildVibrationPayload (c.vibrationReading vibration)

end SensorConfig

/-- How the server records a payload: the decoder for the frame id, and then the operation
that inserts the reading. -/
def recordPayload (lib : Decoding R) (uninit : Uninit) (frameId : UInt16)
    (payload : List UInt8) : Option (Db R Int) :=
  if frameId = 0x8001 then
    (parseLaserData lib payload uninit).toOption.map insertLaserData
  else if frameId = 0x8002 then
    (parseVibrationData lib payload uninit).toOption.map insertVibrationData
  else none

/-! ## What is installed -/

/-- `LPAD(n::TEXT, width, '0')` of a number that fits. -/
def lpad (width n : Nat) : String :=
  String.ofList (List.replicate (width - (toString n).length) '0') ++ toString n

def porcelainName (i : Nat) : String :=
  if i % 4 = 0 then "青花缠枝莲纹梅瓶"
  else if i % 4 = 1 then "青花云龙纹玉壶春瓶"
  else if i % 4 = 2 then "青花鸳鸯戏水纹大盘"
  else "青花人物故事纹罐"

/-- The columns of a porcelain on which there is a constraint. -/
def seedPorcelain (i : Nat) : List (String × Value R) := [
  ("museum_id", .text ("PM-" ++ lpad 6 i)),
  ("name", .text (porcelainName i)),
  ("dynasty", .cast (if i ≤ 100 then "SONG" else "YUAN") "dynasty_type")]

/-- The columns of a sensor on which there is a constraint. -/
def seedLaser (i : Nat) : List (String × Value R) := [
  ("sensor_code", .text ("LCM-" ++ lpad 3 i)),
  ("type", .cast "LASER_CONFOCAL_MICROSCOPE" "sensor_type"),
  ("name", .text ("激光共聚焦显微镜 #" ++ toString i)),
  ("porcelain_id", .int i)]

def seedVibration (i : Nat) : List (String × Value R) := [
  ("sensor_code", .text ("MVS-" ++ lpad 3 i)),
  ("type", .cast "MICRO_VIBRATION_SENSOR" "sensor_type"),
  ("name", .text ("微振动传感器 #" ++ toString i)),
  ("porcelain_id", .int ((i - 1) % 200 + 1 : Nat))]

/-- The columns of a repair material on which there is a constraint. -/
def seedMaterials : List (List (String × Value R)) := [
  [("material_type", .cast "ZIRCONIA" "repair_material_type"),
    ("name", .text "纳米氧化锆修复材料 ZrO2-50")],
  [("material_type", .cast "SILICA" "repair_material_type"),
    ("name", .text "纳米二氧化硅修复材料 SiO2-30")],
  [("material_type", .cast "COMPOSITE" "repair_material_type"),
    ("name", .text "ZrO2-SiO2复合修复材料")]]

/-- New rows, one after the other. -/
def insertAll (table : String) (rows : List (List (String × Value R))) (s : Store R) : Store R :=
  rows.foldl (fun s values => s.add table values 0) s

/-- `SELECT ... FROM generate_series(1, n) AS i` -/
def generateSeries (n : Nat) (values : Nat → List (String × Value R)) :
    List (List (String × Value R)) :=
  (List.range n).map fun k : Nat => values (k + 1)

/-- The tables as `init.sql` leaves them. -/
def seeded : Store R :=
  insertAll "repair_materials" seedMaterials
    (insertAll "sensors" (generateSeries 20 seedLaser ++ generateSeries 40 seedVibration)
      (insertAll "porcelains" (generateSeries 200 seedPorcelain) .empty))

section Seeds

variable {s : Store R} {table : String}

theorem insertAll_rows (rows : List (List (String × Value R))) (s : Store R) :
    (insertAll table rows s).rows table = s.rows table ++
      rows.mapIdx fun i values => ⟨s.nextId table + i, values, 0⟩ := by
  induction rows generalizing s with
  | nil => exact (List.append_nil _).symm
  | cons values rows ih =>
      have hnext : (s.add table values 0).nextId table = s.nextId table + 1 := by
        rw [Store.add_nextId, Function.update_self]
      have hlast : (s.add table values 0).rows table =
          s.rows table ++ [⟨s.nextId table, values, 0⟩] := by
        rw [Store.add_rows, Function.update_self]
      have hstep := ih (s.add table values 0)
      rw [hnext, hlast, List.append_assoc] at hstep
      rw [List.mapIdx_cons, Int.natCast_zero, Int.add_zero]
      simp only [Int.add_assoc, Int.add_comm 1, ← Int.natCast_succ] at hstep
      exact hstep

theorem insertAll_rows_of_ne {other : String} (h : other ≠ table)
    (rows : List (List (String × Value R))) (s : Store R) :
    (insertAll table rows s).rows other = s.rows other ∧
      (insertAll table rows s).nextId other = s.nextId other := by
  induction rows generalizing s with
  | nil => exact ⟨rfl, rfl⟩
  | cons values rows ih =>
      obtain ⟨hrows, hnext⟩ := ih (s.add table values 0)
      refine ⟨hrows.trans ?_, hnext.trans ?_⟩
      · rw [Store.add_rows, Function.update_of_ne h]
      · rw [Store.add_nextId, Function.update_of_ne h]

/-- The columns of the sensor number `k`, from zero. -/
def seedSensor (k : Nat) : List (String × Value R) :=
  if k < 20 then seedLaser (k + 1) else seedVibration (k - 20 + 1)

theorem generateSeries_sensors :
    generateSeries 20 seedLaser ++ generateSeries 40 seedVibration =
      (List.range 60).map (seedSensor (R := R)) := by
  rw [show (60 : Nat) = 20 + 40 from rfl, List.range_add, List.map_append, List.map_map]
  refine congrArg₂ (· ++ ·) ?_ ?_
  · exact List.map_congr_left fun k hk => (if_pos (List.mem_range.mp hk)).symm
  · refine List.map_congr_left fun k _ => ?_
    rw [Function.comp_apply, seedSensor, if_neg (by omega), Nat.add_sub_cancel_left]

theorem sensors_seeded : (seeded : Store R).rows "sensors" =
    (generateSeries 20 seedLaser ++ generateSeries 40 seedVibration).mapIdx
      fun k values => ⟨1 + (k : Nat), values, 0⟩ := by
  have hporcelains := insertAll_rows_of_ne (show "sensors" ≠ "porcelains" by decide)
    (generateSeries 200 seedPorcelain) (.empty : Store R)
  have hrows : (Store.empty : Store R).rows "sensors" = [] := rfl
  have hnext : (Store.empty : Store R).nextId "sensors" = 1 := rfl
  rw [seeded, (insertAll_rows_of_ne (by decide) _ _).1, insertAll_rows, hporcelains.1,
    hporcelains.2, hrows, hnext, List.nil_append]

theorem mem_sensors {r : Record R} :
    r ∈ (seeded : Store R).rows "sensors" ↔ ∃ k < 60, r = ⟨1 + (k : Nat), seedSensor k, 0⟩ := by
  rw [sensors_seeded, generateSeries_sensors, List.mem_mapIdx]
  constructor
  · rintro ⟨k, hk, rfl⟩
    rw [List.length_map, List.length_range] at hk
    exact ⟨k, hk, by rw [List.getElem_map, List.getElem_range]⟩
  · rintro ⟨k, hk, rfl⟩
    refine ⟨k, by rwa [List.length_map, List.length_range], ?_⟩
    rw [List.getElem_map, List.getElem_range]

theorem mem_porcelains {r : Record R} : r ∈ (seeded : Store R).rows "porcelains" ↔
    ∃ k < 200, r = ⟨1 + (k : Nat), seedPorcelain (k + 1), 0⟩ := by
  have hrows : (Store.empty : Store R).rows "porcelains" = [] := rfl
  have hnext : (Store.empty : Store R).nextId "porcelains" = 1 := rfl
  rw [seeded, (insertAll_rows_of_ne (by decide) _ _).1, (insertAll_rows_of_ne (by decide) _ _).1,
    insertAll_rows, hrows, hnext, List.nil_append, List.mem_mapIdx]
  constructor
  · rintro ⟨k, hk, rfl⟩
    rw [generateSeries, List.length_map, List.length_range] at hk
    refine ⟨k, hk, ?_⟩
    simp only [generateSeries, List.getElem_map, List.getElem_range]
  · rintro ⟨k, hk, rfl⟩
    refine ⟨k, by rwa [generateSeries, List.length_map, List.length_range], ?_⟩
    simp only [generateSeries, List.getElem_map, List.getElem_range]

/-- The ids of rows that are numbered from one. -/
theorem hasId_iff {rows : Rows R} {n : Nat} {values : Nat → List (String × Value R)}
    (h : ∀ r, r ∈ rows table ↔ ∃ k < n, r = ⟨1 + (k : Nat), values k, 0⟩) (id : Int) :
    rows.hasId table id = true ↔ 1 ≤ id ∧ id ≤ n := by
  simp only [Rows.hasId, List.any_eq_true, h, decide_eq_true_eq]
  constructor
  · rintro ⟨_, ⟨k, hk, rfl⟩, rfl⟩
    dsimp only
    omega
  · intro hid
    exact ⟨_, ⟨(id - 1).toNat, by omega, rfl⟩, by dsimp only; omega⟩

end Seeds

/-! ## What is recorded -/

/-- A sensor of this type is installed at the porcelain. -/
def Installed (t : Store R) (sensorId : Int) (type : String) (porcelainId : Int) : Prop :=
  ∃ r ∈ t.rows "sensors", r.id = sensorId ∧ valueOf r.values "type" = .cast type "sensor_type" ∧
    valueOf r.values "porcelain_id" = .int porcelainId

/-- The rows that the foreign keys of a reading ask for. -/
def Referenced (t : Store R) (sensorId porcelainId : Int) : Prop :=
  t.rows.hasId "sensors" sensorId = true ∧ t.rows.hasId "porcelains" porcelainId = true

section Insert

variable {out : Output R} {t : Store R} {now id : Int}

theorem outcome_runOne_none {β : Type} {faults : Nat → Fate}
    {read : Option PGresult → Option β} :
    (t.outcome out faults now (runOne none read)).1 = none := rfl

/-- A reading is stored exactly if the rows are there that it refers to. -/
theorem insertLaserData_pos_iff {data : LaserMicroscopeData R}
    (hid : (t.outcome out (fun _ => .runs) now (insertLaserData data)).1 = some id) :
    0 < id ↔ Referenced t data.sensorId data.porcelainId := by
  cases hprocessed : dumpOrNull data.processedData with
  | none =>
      rw [insertLaserData, laserRow, hprocessed] at hid
      cases hid.symm.trans outcome_runOne_none
  | some processed =>
      rw [insertLaserData, laserRow, hprocessed] at hid
      rw [outcome_insert_pos_iff hid]
      simp [Rows.admits, constraints, rowValues, valueOf, Value.evaluate, List.lookup_cons,
        Value.isNull, Referenced]

theorem insertVibrationData_pos_iff {data : VibrationData R}
    (hid : (t.outcome out (fun _ => .runs) now (insertVibrationData data)).1 = some id) :
    0 < id ↔ Referenced t data.sensorId data.porcelainId := by
  cases hspectrum : dumpOrNull data.frequencySpectrum with
  | none =>
      rw [insertVibrationData, vibrationRow, hspectrum] at hid
      cases hid.symm.trans outcome_runOne_none
  | some spectrum =>
      rw [insertVibrationData, vibrationRow, hspectrum] at hid
      rw [outcome_insert_pos_iff hid]
      simp [Rows.admits, constraints, rowValues, valueOf, Value.evaluate, List.lookup_cons,
        Value.isNull, Referenced]

end Insert

section Payloads

variable {lib : Decoding R} {uninit : Uninit}

/-- The ids are decoded as they were sent. -/
theorem parseLaserData_ids {r : LaserReading} {data : LaserMicroscopeData R}
    (h : parseLaserData lib (buildLaserPayload r) uninit = .ok data) :
    data.sensorId = r.sensorId.toInt ∧ data.porcelainId = r.porcelainId.toInt := by
  rw [buildLaserPayload_eq_head, parseLaserData_head] at h
  cases hjson : (decodeJson lib (r.headBytes ++ r.rest)).run r.headBytes.length with
  | error failure =>
      rw [hjson] at h
      cases h
  | ok p =>
      rw [hjson] at h
      cases h
      simp only [LaserReading.head, LaserReading.flagged, LaserReading.scalars, toInt32_toUInt32,
        and_self]

theorem parseVibrationData_ids {r : VibrationReading} {data : VibrationData R}
    (h : parseVibrationData lib (buildVibrationPayload r) uninit = .ok data) :
    data.sensorId = r.sensorId.toInt ∧ data.porcelainId = r.porcelainId.toInt := by
  rw [buildVibrationPayload_eq, parseVibrationData_head] at h
  cases hjson : (decodeJson lib (r.headBytes ++ (countBytes r.json.length ++ r.json))).run
      r.headBytes.length with
  | error failure =>
      rw [hjson] at h
      cases h
  | ok p =>
      rw [hjson] at h
      cases h
      simp only [VibrationReading.head, toInt32_toUInt32, and_self]

/-- The sensor id that a client sends. -/
def SensorConfig.sentId (c : SensorConfig) : Int32 := if c.type = "LASER" then c.id else c.id + 20

/-- What becomes of a payload does not depend on what was measured. -/
theorem recordPayload_pos_iff {c : SensorConfig} {laser : LaserReading}
    {vibration : VibrationReading} {out : Output R} {t : Store R} {now id : Int} {p : Db R Int}
    (hp : recordPayload lib uninit c.frameId (c.payload laser vibration) = some p)
    (hid : (t.outcome out (fun _ => .runs) now p).1 = some id) :
    0 < id ↔ Referenced t c.sentId.toInt c.porcelainId.toInt := by
  by_cases htype : c.type = "LASER"
  · rw [SensorConfig.frameId, SensorConfig.payload, if_pos htype, if_pos htype, recordPayload,
      if_pos rfl] at hp
    rw [SensorConfig.sentId, if_pos htype]
    cases hdata : parseLaserData lib (buildLaserPayload (c.laserReading laser)) uninit with
    | error failure =>
        rw [hdata] at hp
        cases hp
    | ok data =>
        rw [hdata] at hp
        cases hp
        obtain ⟨hsensor, hporcelain⟩ := parseLaserData_ids hdata
        rw [insertLaserData_pos_iff hid, hsensor, hporcelain]
        rfl
  · rw [SensorConfig.frameId, SensorConfig.payload, if_neg htype, if_neg htype, recordPayload,
      if_neg (by decide), if_pos rfl] at hp
    rw [SensorConfig.sentId, if_neg htype]
    cases hdata : parseVibrationData lib
        (buildVibrationPayload (c.vibrationReading vibration)) uninit with
    | error failure =>
        rw [hdata] at hp
        cases hp
    | ok data =>
        rw [hdata] at hp
        cases hp
        obtain ⟨hsensor, hporcelain⟩ := parseVibrationData_ids hdata
        rw [insertVibrationData_pos_iff hid, hsensor, hporcelain]
        rfl

end Payloads

/-! ## The whole fleet -/

/-- No `int` that `main` computes overflows. -/
def FleetOptions.Bounded (options : FleetOptions) : Prop :=
  options.laserCount.toInt + 20 < 2 ^ 31 ∧ options.vibrationCount.toInt + 20 < 2 ^ 31

def SensorConfig.installedType (c : SensorConfig) : String :=
  if c.type = "LASER" then "LASER_CONFOCAL_MICROSCOPE" else "MICRO_VIBRATION_SENSOR"

/-- What a sensor measures is stored if its statement runs, whatever it is, and under that
sensor. -/
structure Recorded (lib : Decoding R) (uninit : Uninit) (out : Output R) (t : Store R)
    (c : SensorConfig) : Prop where
  stored : ∀ laser vibration p now id,
    recordPayload lib uninit c.frameId (c.payload laser vibration) = some p →
      (t.outcome out (fun _ => .runs) now p).1 = some id → 0 < id
  installed : Installed t c.sentId.toInt c.installedType c.porcelainId.toInt

section Fleet

variable {lib : Decoding R} {uninit : Uninit} {out : Output R} {t : Store R}
  {options : FleetOptions} {i : Nat}

theorem referenced_iff (hsensors : t.rows "sensors" = (seeded : Store R).rows "sensors")
    (hporcelains : t.rows "porcelains" = (seeded : Store R).rows "porcelains")
    (sensorId porcelainId : Int) : Referenced t sensorId porcelainId ↔
      (1 ≤ sensorId ∧ sensorId ≤ 60) ∧ 1 ≤ porcelainId ∧ porcelainId ≤ 200 := by
  have hsensor : ∀ r, r ∈ t.rows "sensors" ↔
      ∃ k < 60, r = ⟨1 + (k : Nat), seedSensor k, 0⟩ := fun r => by rw [hsensors, mem_sensors]
  have hporcelain : ∀ r, r ∈ t.rows "porcelains" ↔
      ∃ k < 200, r = ⟨1 + (k : Nat), seedPorcelain (k + 1), 0⟩ := fun r => by
    rw [hporcelains, mem_porcelains]
  exact and_congr (hasId_iff hsensor sensorId) (hasId_iff hporcelain porcelainId)

theorem installed_iff (hsensors : t.rows "sensors" = (seeded : Store R).rows "sensors")
    (sensorId : Int) (type : String) (porcelainId : Int) : Installed t sensorId type porcelainId ↔
      (1 ≤ sensorId ∧ sensorId ≤ 20 ∧ type = "LASER_CONFOCAL_MICROSCOPE" ∧
        porcelainId = sensorId) ∨
      (21 ≤ sensorId ∧ sensorId ≤ 60 ∧ type = "MICRO_VIBRATION_SENSOR" ∧
        porcelainId = sensorId - 20) := by
  have hlaser : ∀ k : Nat, valueOf (seedLaser (R := R) k) "type" =
      .cast "LASER_CONFOCAL_MICROSCOPE" "sensor_type" ∧
        valueOf (seedLaser (R := R) k) "porcelain_id" = .int k := fun k => ⟨rfl, rfl⟩
  have hvibration : ∀ k : Nat, valueOf (seedVibration (R := R) k) "type" =
      .cast "MICRO_VIBRATION_SENSOR" "sensor_type" ∧
        valueOf (seedVibration (R := R) k) "porcelain_id" = .int ((k - 1) % 200 + 1 : Nat) :=
    fun k => ⟨rfl, rfl⟩
  simp only [Installed, hsensors, mem_sensors]
  constructor
  · rintro ⟨_, ⟨k, hk, rfl⟩, rfl, htype, hporcelain⟩
    dsimp only at htype hporcelain ⊢
    by_cases hlt : k < 20
    · rw [seedSensor, if_pos hlt] at htype hporcelain
      rw [(hlaser _).1, Value.cast.injEq] at htype
      rw [(hlaser _).2, Value.int.injEq] at hporcelain
      exact .inl ⟨by omega, by omega, htype.1.symm, by omega⟩
    · rw [seedSensor, if_neg hlt] at htype hporcelain
      rw [(hvibration _).1, Value.cast.injEq] at htype
      rw [(hvibration _).2, Value.int.injEq] at hporcelain
      exact .inr ⟨by omega, by omega, htype.1.symm, by omega⟩
  · rintro (⟨hpos, hle, rfl, rfl⟩ | ⟨hpos, hle, rfl, rfl⟩)
    · refine ⟨_, ⟨(porcelainId - 1).toNat, by omega, rfl⟩, by dsimp only; omega, ?_⟩
      dsimp only
      rw [seedSensor, if_pos (by omega), (hlaser _).1, (hlaser _).2, Value.int.injEq]
      exact ⟨rfl, by omega⟩
    · refine ⟨_, ⟨(sensorId - 1).toNat, by omega, rfl⟩, by dsimp only; omega, ?_⟩
      dsimp only
      rw [seedSensor, if_neg (by omega), (hvibration _).1, (hvibration _).2, Value.int.injEq]
      exact ⟨rfl, by omega⟩

theorem laserConfig_ids (options : FleetOptions) (hi : i < 2 ^ 31) :
    (laserConfig options i).sentId.toInt = i ∧ (laserConfig options i).porcelainId.toInt = i :=
  ⟨Int32.toInt_ofNat_of_lt hi, Int32.toInt_ofNat_of_lt hi⟩

theorem vibrationConfig_ids (options : FleetOptions) (hi : i + 20 < 2 ^ 31) :
    (vibrationConfig options i).sentId.toInt = i + 20 ∧
      (vibrationConfig options i).porcelainId.toInt = ((i - 1) % 200 + 1 : Nat) := by
  have hsent : (vibrationConfig options i).sentId = Int32.ofNat (i + 20) :=
    (Int32.ofNat_add i 20).symm
  refine ⟨?_, Int32.toInt_ofNat_of_lt (by omega)⟩
  rw [hsent, Int32.toInt_ofNat_of_lt hi, Int.natCast_add]
  rfl

theorem mem_fleet {c : SensorConfig} : c ∈ fleet options ↔
    (∃ i : Nat, 0 < i ∧ (i : Int) ≤ options.laserCount.toInt ∧ c = laserConfig options i) ∨
      ∃ i : Nat, 0 < i ∧ (i : Int) ≤ options.vibrationCount.toInt ∧
        c = vibrationConfig options i := by
  have hloop : ∀ (n : Int) (config : Nat → SensorConfig),
      c ∈ (List.range n.toNat).map (fun k : Nat => config (k + 1)) ↔
        ∃ i : Nat, 0 < i ∧ (i : Int) ≤ n ∧ c = config i := by
    intro n config
    rw [List.mem_map]
    constructor
    · rintro ⟨k, hk, rfl⟩
      have hlt := List.mem_range.mp hk
      exact ⟨k + 1, by omega, by omega, rfl⟩
    · rintro ⟨i, hpos, hle, rfl⟩
      exact ⟨i - 1, List.mem_range.mpr (by omega), by rw [Nat.sub_add_cancel hpos]⟩
  rw [fleet, List.mem_append, hloop, hloop]

/-- The installed sensors and their porcelains are there to be referred to. -/
theorem recorded_iff (hsensors : t.rows "sensors" = (seeded : Store R).rows "sensors")
    (hporcelains : t.rows "porcelains" = (seeded : Store R).rows "porcelains")
    {c : SensorConfig} : Recorded lib uninit out t c ↔
      Installed t c.sentId.toInt c.installedType c.porcelainId.toInt := by
  refine ⟨Recorded.installed, fun h => ⟨fun laser vibration p now id hp hid => ?_, h⟩⟩
  rw [recordPayload_pos_iff hp hid, referenced_iff hsensors hporcelains]
  rcases (installed_iff hsensors _ _ _).mp h with ⟨hpos, hle, -, hat⟩ | ⟨hpos, hle, -, hat⟩
  · omega
  · omega

/-- The microscopes after the twentieth send the ids of vibration sensors. -/
theorem laserConfig_recorded_iff (hsensors : t.rows "sensors" = (seeded : Store R).rows "sensors")
    (hporcelains : t.rows "porcelains" = (seeded : Store R).rows "porcelains") (hpos : 0 < i)
    (hi : i < 2 ^ 31) : Recorded lib uninit out t (laserConfig options i) ↔ i ≤ 20 := by
  obtain ⟨hsensor, hporcelain⟩ := laserConfig_ids options hi
  rw [recorded_iff hsensors hporcelains, hsensor, hporcelain, installed_iff hsensors]
  constructor
  · rintro (⟨-, hle, -, -⟩ | ⟨-, -, htype, -⟩)
    · omega
    · exact absurd htype (show "LASER_CONFOCAL_MICROSCOPE" ≠ "MICRO_VIBRATION_SENSOR" by decide)
  · exact fun hle => .inl ⟨by omega, by omega, rfl, rfl⟩

theorem vibrationConfig_recorded_iff
    (hsensors : t.rows "sensors" = (seeded : Store R).rows "sensors")
    (hporcelains : t.rows "porcelains" = (seeded : Store R).rows "porcelains") (hpos : 0 < i)
    (hi : i + 20 < 2 ^ 31) : Recorded lib uninit out t (vibrationConfig options i) ↔ i ≤ 40 := by
  obtain ⟨hsensor, hporcelain⟩ := vibrationConfig_ids options hi
  rw [recorded_iff hsensors hporcelains, hsensor, hporcelain, installed_iff hsensors]
  constructor
  · rintro (⟨-, -, htype, -⟩ | ⟨-, hle, -, -⟩)
    · exact absurd htype (show "MICRO_VIBRATION_SENSOR" ≠ "LASER_CONFOCAL_MICROSCOPE" by decide)
    · omega
  · exact fun hle => .inr ⟨by omega, by omega, rfl, by omega⟩

end Fleet

/-- Whatever the server has been asked and has stored since `init.sql`, it records all
sensors of a fleet exactly if the fleet is no larger than the installed one. -/
theorem fleet_recorded_iff [Field R] [LinearOrder R] (inst : Installation R) (lib : Decoding R)
    (uninit : Uninit) {options : FleetOptions} (h : options.Bounded)
    (events : List (SystemEvent R)) :
    (∀ c ∈ fleet options, Recorded lib uninit inst.out (events.foldl inst.react seeded) c) ↔
      options.laserCount ≤ 20 ∧ options.vibrationCount ≤ 40 := by
  obtain ⟨hlasers, hvibrations⟩ := h
  have hsensors := inst.run_spares seeded events (show "sensors" ∉ writtenTables by decide)
  have hporcelains := inst.run_spares seeded events (show "porcelains" ∉ writtenTables by decide)
  simp only [mem_fleet, Int32.le_iff_toInt_le]
  constructor
  · intro hall
    constructor
    · by_contra hgt
      have hgt : 20 < options.laserCount.toInt := Int.not_le.mp hgt
      have hrecorded := hall _ (.inl ⟨21, by decide, by omega, rfl⟩)
      rw [laserConfig_recorded_iff hsensors hporcelains (by decide) (by decide)] at hrecorded
      omega
    · by_contra hgt
      have hgt : 40 < options.vibrationCount.toInt := Int.not_le.mp hgt
      have hrecorded := hall _ (.inr ⟨41, by decide, by omega, rfl⟩)
      rw [vibrationConfig_recorded_iff hsensors hporcelains (by decide) (by decide)] at hrecorded
      omega
  · rintro ⟨hlaser, hvibration⟩ c (⟨i, hpos, hle, rfl⟩ | ⟨i, hpos, hle, rfl⟩)
    · have hlaser : options.laserCount.toInt ≤ 20 := hlaser
      exact (laserConfig_recorded_iff hsensors hporcelains hpos (by omega)).mpr (by omega)
    · have hvibration : options.vibrationCount.toInt ≤ 40 := hvibration
      exact (vibrationConfig_recorded_iff hsensors hporcelains hpos (by omega)).mpr (by omega)

/-- What the simulator is told if it is told nothing. -/
def FleetOptions.defaults : FleetOptions where
  serverIp := "127.0.0.1"
  serverPort := 34964
  intervalMs := 10800000
  laserCount := 20
  vibrationCount := 40

/-- The number with an IEEE pattern.  Infinities and NaN are no rational numbers, and
their patterns are read like the others. -/
def ieee (exponentBits fractionBits bits : Nat) : ℚ :=
  let fraction := bits % 2 ^ fractionBits
  let exponent := bits / 2 ^ fractionBits % 2 ^ exponentBits
  let sign : ℚ := if bits / 2 ^ (fractionBits + exponentBits) = 0 then 1 else -1
  -- The subnormal numbers have the exponent of the smallest normal ones.
  let significand := if exponent = 0 then fraction else 2 ^ fractionBits + fraction
  let scale : Int := max 1 exponent + 1 - 2 ^ (exponentBits - 1) - fractionBits
  sign * significand * 2 ^ scale

/-- All objects are read as empty. -/
def ieeeDecoding : Decoding ℚ where
  double bits := ieee 11 52 bits.toNat
  float bits := ieee 8 23 bits.toNat
  jsonParse text := if text = [] then .error "unexpected end of input" else .ok (.object [])

example : ieeeDecoding.double 0xC004000000000000 = -5 / 2 ∧ ieeeDecoding.float 1 = 1 / 2 ^ 149 := by
  decide +kernel

theorem fleet_recorded_iff_defaults : FleetOptions.defaults.Bounded ∧
    ∀ c ∈ fleet .defaults, Recorded ieeeDecoding zeroed Http.plainInstallation.out
      (Http.acknowledgedRun.foldl Http.plainInstallation.react seeded) c := by
  have hbounded : FleetOptions.defaults.Bounded := ⟨by decide, by decide⟩
  exact ⟨hbounded, (fleet_recorded_iff Http.plainInstallation ieeeDecoding zeroed hbounded
    Http.acknowledgedRun).mpr ⟨by decide, by decide⟩⟩

end PorcelainMonitor.Simulator
