import PorcelainMonitor.Http.HttpServer

/-!
# `ApiClient`

The requests of the front end's `api-client.js`.  A target is what follows the
host in the URL that a method hands to `fetch`.
-/

namespace PorcelainMonitor.Http

/-- A number as a template literal prints it: `42`, `-1`, `0.5`, `1e+21`, `NaN`. -/
structure Number where
  text : Text
  nonempty : text ≠ []
  plain : ∀ c ∈ text, c.isAlphanum = true ∨ c = '+' ∨ c = '-' ∨ c = '.'

namespace Number

/-- A natural number in decimal. -/
def ofNat (n : Nat) : Number where
  text := Nat.toDigits 10 n
  nonempty := Nat.toDigits_ne_nil
  plain := fun c hc => by
    left
    rw [Char.isAlphanum, Nat.isDigit_of_mem_toDigits (by simp) (by simp) hc, Bool.or_true]

/-- The number is printed with digits only. -/
def isNatural (n : Number) : Bool := n.text.all Char.isDigit

/-- A letter that separates parts of a target is in no number. -/
theorem not_mem (n : Number) {c : Char} (hc : c.isAlphanum = false)
    (hsign : c ≠ '+' ∧ c ≠ '-' ∧ c ≠ '.') : c ∉ n.text := by
  intro h
  rcases n.plain c h with ha | hp | hm | hd
  · rw [hc] at ha
    cases ha
  · exact hsign.1 hp
  · exact hsign.2.1 hm
  · exact hsign.2.2 hd

theorem count_slash (n : Number) : n.text.count '/' = 0 :=
  List.count_eq_zero_of_not_mem (n.not_mem rfl (by simp))

theorem count_mark (n : Number) : n.text.count '?' = 0 :=
  List.count_eq_zero_of_not_mem (n.not_mem rfl (by simp))

theorem isNatural_ofNat (n : Nat) : (ofNat n).isNatural = true :=
  List.all_eq_true.mpr fun _ hc => Nat.isDigit_of_mem_toDigits (by simp) (by simp) hc

end Number

namespace ApiClient

/-- `baseUrl`, after the host. -/
def baseUrl : Text := "/api".toList

/-- `request`, for a method and the fields of a JSON body. -/
def request (endpoint : Text) (method : Verb := .get) (body : List (String × Text) := []) :
    Request where
  method := method
  target := baseUrl ++ endpoint
  body := body

def getPorcelains (page : Number := .ofNat 1) (pageSize : Number := .ofNat 200)
    (dynasty : Text := "all".toList) : Request :=
  let endpoint := "/porcelains?page=".toList ++ page.text ++ "&page_size=".toList ++ pageSize.text
  request (if dynasty ≠ "all".toList then endpoint ++ "&dynasty=".toList ++ dynasty else endpoint)

def getPorcelain (id : Number) : Request := request ("/porcelains/".toList ++ id.text)

def getPorcelainCracks (porcelainId : Number) (page : Number := .ofNat 1)
    (pageSize : Number := .ofNat 50) : Request :=
  request ("/porcelains/".toList ++ porcelainId.text ++ "/cracks?page=".toList ++ page.text ++
    "&page_size=".toList ++ pageSize.text)

def getCrack (crackId : Number) : Request := request ("/cracks/".toList ++ crackId.text)

def getCrackPoints (crackId : Number) : Request :=
  request ("/cracks/".toList ++ crackId.text ++ "/points".toList)

def predictCrack (crackId : Number) (horizonHours : Number := .ofNat 720) : Request :=
  request ("/cracks/".toList ++ crackId.text ++ "/predict?horizon_hours=".toList ++
    horizonHours.text) .post

def simulateRepair (crackId materialId : Number) (particleCount : Number := .ofNat 1000)
    (steps : Number := .ofNat 1000) : Request :=
  request ("/cracks/".toList ++ crackId.text ++ "/simulate/".toList ++ materialId.text ++
    "?particle_count=".toList ++ particleCount.text ++ "&steps=".toList ++ steps.text) .post

def getAlerts (status : Text := "ACTIVE".toList) (page : Number := .ofNat 1)
    (pageSize : Number := .ofNat 50) : Request :=
  request ("/alerts?status=".toList ++ status ++ "&page=".toList ++ page.text ++
    "&page_size=".toList ++ pageSize.text)

def updateAlertStatus (alertId : Number) (status : Text) (notes : Text := []) : Request :=
  request ("/alerts/".toList ++ alertId.text ++ "/status".toList) .put
    [("status", status), ("notes", notes)]

def getRepairMaterials : Request := request "/repair-materials".toList

/-- A time is appended if it is truthy, that is given and not empty. -/
def timeParameter (name : String) : Option Text → Text
  | some (c :: time) => "&".toList ++ name.toList ++ "=".toList ++ c :: time
  | _ => []

def getLaserData (porcelainId : Number) (startTime endTime : Option Text) : Request :=
  request ("/sensors/laser-data?porcelain_id=".toList ++ porcelainId.text ++
    timeParameter "start_time" startTime ++ timeParameter "end_time" endTime)

def getVibrationData (porcelainId : Number) (startTime endTime : Option Text) : Request :=
  request ("/sensors/vibration-data?porcelain_id=".toList ++ porcelainId.text ++
    timeParameter "start_time" startTime ++ timeParameter "end_time" endTime)

def getSystemStats : Request := request "/system/stats".toList

/-- `getActiveAlertsCount` reads the total of one page of one alert. -/
def getActiveAlertsCount : Request := getAlerts "ACTIVE".toList (.ofNat 1) (.ofNat 1)

end ApiClient

/-- A call of a method of the client. -/
inductive Call where
  | getPorcelains (page pageSize : Number) (dynasty : Text)
  | getPorcelain (id : Number)
  | getPorcelainCracks (porcelainId page pageSize : Number)
  | getCrack (crackId : Number)
  | getCrackPoints (crackId : Number)
  | predictCrack (crackId horizonHours : Number)
  | simulateRepair (crackId materialId particleCount steps : Number)
  | getAlerts (status : Text) (page pageSize : Number)
  | updateAlertStatus (alertId : Number) (status notes : Text)
  | getRepairMaterials
  | getLaserData (porcelainId : Number) (startTime endTime : Option Text)
  | getVibrationData (porcelainId : Number) (startTime endTime : Option Text)
  | getSystemStats
  | getActiveAlertsCount

/-- The request that a call sends. -/
def Call.request : Call → Request
  | getPorcelains page pageSize dynasty => ApiClient.getPorcelains page pageSize dynasty
  | getPorcelain id => ApiClient.getPorcelain id
  | getPorcelainCracks porcelainId page pageSize =>
      ApiClient.getPorcelainCracks porcelainId page pageSize
  | getCrack crackId => ApiClient.getCrack crackId
  | getCrackPoints crackId => ApiClient.getCrackPoints crackId
  | predictCrack crackId horizonHours => ApiClient.predictCrack crackId horizonHours
  | simulateRepair crackId materialId particleCount steps =>
      ApiClient.simulateRepair crackId materialId particleCount steps
  | getAlerts status page pageSize => ApiClient.getAlerts status page pageSize
  | updateAlertStatus alertId status notes => ApiClient.updateAlertStatus alertId status notes
  | getRepairMaterials => ApiClient.getRepairMaterials
  | getLaserData porcelainId startTime endTime =>
      ApiClient.getLaserData porcelainId startTime endTime
  | getVibrationData porcelainId startTime endTime =>
      ApiClient.getVibrationData porcelainId startTime endTime
  | getSystemStats => ApiClient.getSystemStats
  | getActiveAlertsCount => ApiClient.getActiveAlertsCount

end PorcelainMonitor.Http
