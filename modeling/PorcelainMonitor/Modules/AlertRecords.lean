import Mathlib.Tactic.NormNum
import PorcelainMonitor.Database.DatabaseManager
import PorcelainMonitor.Modules.CrackIdentity

/-!
# What the records of the alerts say

Each check fills a local `Alert` that it has not initialised.  The check of the
cracks assigns every field that `insert_alert` writes.  The check of a vibration
leaves `crack_id` as it was, and the check of a prediction `porcelain_id` and
`sensor_id`.

An alert shows a limit and the value that was compared with it.  The alert of a
vibration always shows those of the rms, also where the peak has raised it.
-/

namespace PorcelainMonitor.Modules

open Alerts
open Database (alertColumns)
open Effects (Alike)

variable {R : Type}

/-! ## Recorded alerts -/

/-- What is checked for alerts. -/
inductive Checked (R : Type) where
  | laser (data : LaserMicroscopeData R)
  | vibration (data : VibrationData R)
  | prediction (prediction : CrackPrediction R)

section Recorded

variable [Field R] [LinearOrder R] (mgr : AlertManager R) (ostream : R → String)
  (replies : Replies)

def Checked.run (unset : Alert R) : Checked R → Traced R Unit
  | .laser data => checkLaserData mgr ostream unset (tracing replies) data
  | .vibration data => checkVibrationData ostream unset (tracing replies) data
  | .prediction p => checkPrediction ostream unset (tracing replies) p

/-- The alerts that a check hands to `insert_alert`, in order. -/
def recorded (unset : Alert R) (event : Checked R) : List (Alert R) :=
  ((event.run mgr ostream replies unset).run Trace.empty).2.alerts

end Recorded

/-- The check assigns every column of the alerts it raises. -/
def Checked.Assigned [Field R] [LinearOrder R] : Checked R → Prop
  | .laser _ => True
  | .vibration data =>
      ¬ (data.rmsValue > vibrationRmsThreshold ∨ data.peakValue > vibrationPeakThreshold)
  | .prediction p => ¬ (p.riskLevel = "CRITICAL" ∨ p.riskLevel = "HIGH")

/-! ## Two runs of a check -/

/-- The traces agree in the columns of their alerts. -/
def SameColumns (s t : Trace R) : Prop :=
  s.calls = t.calls ∧ s.alerts.map alertColumns = t.alerts.map alertColumns

theorem alike_answer {α : Type} (reply : Nat → Except Failure α) :
    Alike SameColumns (answer reply fun _ => id : Traced R α) (answer reply fun _ => id) := by
  intro s t hst
  obtain ⟨hcalls, halerts⟩ := hst
  simp only [answer, hcalls]
  split
  · exact ⟨rfl, rfl, halerts⟩
  · exact ⟨rfl, rfl, halerts⟩

theorem alike_insertAlert (replies : Replies) {alert alert' : Alert R}
    (h : alertColumns alert = alertColumns alert') :
    Alike SameColumns ((tracing replies).insertAlert alert)
      ((tracing replies).insertAlert alert') := by
  intro s t hst
  obtain ⟨hcalls, halerts⟩ := hst
  refine alike_answer replies.insertAlert _ _ ⟨hcalls, ?_⟩
  rw [List.map_append, List.map_append, halerts, List.map_singleton, List.map_singleton, h]

theorem alike_saveAlert (replies : Replies) {alert alert' : Alert R}
    (h : alertColumns alert = alertColumns alert') :
    Alike SameColumns (saveAlert (tracing replies) alert) (saveAlert (tracing replies) alert') := by
  refine Alike.bind (alike_insertAlert replies h) fun id => ?_
  split
  · exact alike_answer _
  · exact Alike.pure _

section Laser

variable [LinearOrder R] (mgr : AlertManager R) (ostream : R → String) (replies : Replies)
  (unset unset' : Alert R)

theorem checkCrackThresholds_columns (depthNow widthNow sensorId : Int) (crack : CrackInfo R) :
    List.Forall₂ (fun alert alert' : Alert R => alertColumns { alert with sensorId := sensorId } =
        alertColumns { alert' with sensorId := sensorId })
      (checkCrackThresholds mgr ostream unset depthNow widthNow crack)
      (checkCrackThresholds mgr ostream unset' depthNow widthNow crack) := by
  rw [checkCrackThresholds, checkCrackThresholds]
  refine List.rel_append ?_ ?_
  · split
    · exact .cons rfl .nil
    · exact .nil
  · split
    · exact .cons rfl .nil
    · exact .nil

theorem alike_checkLaserData (data : LaserMicroscopeData R) :
    Alike SameColumns (checkLaserData mgr ostream unset (tracing replies) data)
      (checkLaserData mgr ostream unset' (tracing replies) data) := by
  have hnow : Alike SameColumns (tracing replies : Services (Traced R) R).now
      (tracing replies : Services (Traced R) R).now := alike_answer fun n => .ok (replies.now n)
  rw [checkLaserData, checkLaserData]
  split
  · refine Alike.forM (fun crack => ?_) data.cracks
    refine Alike.bind hnow fun depthNow => Alike.bind hnow fun widthNow => Alike.forM₂ ?_
    refine (checkCrackThresholds_columns mgr ostream unset unset' depthNow widthNow
      data.sensorId crack).imp fun alert alert' h => ?_
    exact alike_saveAlert replies h
  · exact Alike.pure ()

end Laser

/-! ## One alert -/

/-- A call that hands over no alert. -/
theorem keeps_alerts_answer {α : Type} (reply : Nat → Except Failure α) :
    Effects.Keeps Trace.alerts (answer reply fun _ => id : Traced R α) := by
  intro tr
  simp only [answer]
  split <;> rfl

/-- If the condition holds, the clock is read and one alert is handed over. -/
theorem alerts_saveAlert (replies : Replies) {c : Prop} [Decidable c] (alert : Int → Alert R) :
    ((if c then do
        let now ← (tracing replies : Services (Traced R) R).now
        saveAlert (tracing replies) (alert now)
      else pure ()).run Trace.empty).2.alerts = if c then [alert (replies.now 0)] else [] := by
  split
  · have hnow : (tracing replies : Services (Traced R) R).now.run Trace.empty =
        (.ok (replies.now 0), { Trace.empty with calls := 1 }) := rfl
    rw [Effects.Comp.bind_ok hnow]
    refine (Effects.Keeps.after (f := Trace.alerts) (fun id => ?_) _).trans ?_
    · split
      · exact keeps_alerts_answer _
      · exact Effects.Keeps.pure _
    · exact keeps_alerts_answer replies.insertAlert _
  · rfl

section Checks

variable [Field R] [LinearOrder R] (mgr : AlertManager R) (ostream : R → String)
  (replies : Replies) (unset : Alert R)

theorem recorded_vibration (data : VibrationData R) :
    ∃ alert, recorded mgr ostream replies unset (.vibration data) =
        (if data.rmsValue > vibrationRmsThreshold ∨ data.peakValue > vibrationPeakThreshold
          then [alert] else []) ∧
      alert.crackId = unset.crackId ∧ alert.type = .vibrationAnomaly ∧
        alert.thresholdValue = vibrationRmsThreshold ∧ alert.actualValue = data.rmsValue :=
  ⟨_, alerts_saveAlert replies _, rfl, rfl, rfl, rfl⟩

theorem recorded_prediction (p : CrackPrediction R) :
    ∃ alert, recorded mgr ostream replies unset (.prediction p) =
        (if p.riskLevel = "CRITICAL" ∨ p.riskLevel = "HIGH" then [alert] else []) ∧
      alert.porcelainId = unset.porcelainId ∧ alert.type = .crackPropagationRisk ∧
        alert.thresholdValue = 0 ∧ alert.actualValue = p.predictedDepth :=
  ⟨_, alerts_saveAlert replies _, rfl, rfl, rfl, rfl⟩

end Checks

/-! ## What the records depend on -/

/-- A local `Alert` in which this number stands where the references will. -/
def unassigned [Zero R] (n : Int) : Alert R :=
  ⟨0, .vibrationAnomaly, n, n, n, 0, 0, "", "", .pending, false, false, 0⟩

/-- The columns of the alerts of a check are the same for any two contents of the
local `Alert` exactly if the check assigns them all. -/
theorem columns_determined_iff [Field R] [LinearOrder R] (mgr : AlertManager R)
    (ostream : R → String) (replies : Replies) (event : Checked R) :
    (∀ unset unset',
        (recorded mgr ostream replies unset event).map alertColumns =
          (recorded mgr ostream replies unset' event).map alertColumns) ↔
      event.Assigned := by
  cases event with
  | laser data =>
      refine ⟨fun _ => trivial, fun _ unset unset' => ?_⟩
      exact (alike_checkLaserData mgr ostream replies unset unset' data Trace.empty Trace.empty
        ⟨rfl, rfl⟩).2.2
  | vibration data =>
      constructor
      · intro hsame hexceeded
        have h := hsame (unassigned 0) (unassigned 1)
        obtain ⟨zero, hzero, hcrack, -⟩ :=
          recorded_vibration mgr ostream replies (unassigned 0) data
        obtain ⟨one, hone, hcrack', -⟩ :=
          recorded_vibration mgr ostream replies (unassigned 1) data
        rw [hzero, hone, if_pos hexceeded, if_pos hexceeded] at h
        simp [alertColumns, hcrack, hcrack', unassigned] at h
      · intro hwithin unset unset'
        obtain ⟨alert, halert, -⟩ := recorded_vibration mgr ostream replies unset data
        obtain ⟨alert', halert', -⟩ := recorded_vibration mgr ostream replies unset' data
        rw [halert, halert', if_neg hwithin, if_neg hwithin]
  | prediction p =>
      constructor
      · intro hsame hrisk
        have h := hsame (unassigned 0) (unassigned 1)
        obtain ⟨zero, hzero, hporcelain, -⟩ :=
          recorded_prediction mgr ostream replies (unassigned 0) p
        obtain ⟨one, hone, hporcelain', -⟩ :=
          recorded_prediction mgr ostream replies (unassigned 1) p
        rw [hzero, hone, if_pos hrisk, if_pos hrisk] at h
        simp [alertColumns, hporcelain, hporcelain', unassigned] at h
      · intro hlow unset unset'
        obtain ⟨alert, halert, -⟩ := recorded_prediction mgr ostream replies unset p
        obtain ⟨alert', halert', -⟩ := recorded_prediction mgr ostream replies unset' p
        rw [halert, halert', if_neg hlow, if_neg hlow]

/-- A vibration with an rms above its limit. -/
def strongVibration : VibrationData ℚ :=
  ⟨0, 1, 1, 0, .null, [], 1, 1, 0, 0, 0⟩

theorem vibration_crack_id_unassigned :
    ¬ ∀ (mgr : AlertManager ℚ) ostream replies event unset unset',
        (recorded mgr ostream replies unset event).map alertColumns =
          (recorded mgr ostream replies unset' event).map alertColumns := by
  intro h
  have hrms : (vibrationRmsThreshold : ℚ) < strongVibration.rmsValue := by
    norm_num [strongVibration, vibrationRmsThreshold]
  let mgr : AlertManager ℚ := ⟨200, 50⟩
  have hsame := h mgr (fun _ => "") sevenReplies (.vibration strongVibration) (unassigned 0)
    (unassigned 1)
  obtain ⟨zero, hzero, hcrack, -⟩ :=
    recorded_vibration mgr (fun _ => "") sevenReplies (unassigned 0) strongVibration
  obtain ⟨one, hone, hcrack', -⟩ :=
    recorded_vibration mgr (fun _ => "") sevenReplies (unassigned 1) strongVibration
  rw [hzero, hone, if_pos (.inl hrms), if_pos (.inl hrms)] at hsame
  simp [alertColumns, hcrack, hcrack', unassigned] at hsame

/-! ## What an alert shows -/

/-- What raises alerts. -/
inductive Cause (R : Type) where
  | crack (crack : CrackInfo R)
  | vibration (data : VibrationData R)
  | prediction (prediction : CrackPrediction R)

section Shown

variable [Field R] [LinearOrder R] (mgr : AlertManager R)

/-- The alerts that are raised. -/
def Cause.alerts (ostream : R → String) (replies : Replies) (unset : Alert R) :
    Cause R → List (Alert R)
  | .crack c => checkCrackThresholds mgr ostream unset (replies.now 0) (replies.now 1) c
  | .vibration data => recorded mgr ostream replies unset (.vibration data)
  | .prediction p => recorded mgr ostream replies unset (.prediction p)

/-- The limits of the check, each with the value that it bounds. -/
def Cause.limits : Cause R → List (AlertType × R × R)
  | .crack c => [(.crackDepthExceeded, mgr.depthThreshold, c.maxDepth),
      (.crackWidthExceeded, mgr.widthThreshold, c.maxWidth)]
  | .vibration data => [(.vibrationAnomaly, vibrationRmsThreshold, data.rmsValue),
      (.vibrationAnomaly, vibrationPeakThreshold, data.peakValue)]
  | .prediction p => [(.crackPropagationRisk, 0, p.predictedDepth)]

/-- The alert shows a limit of the check, and a value that exceeds it. -/
def Exceedance (cause : Cause R) (alert : Alert R) : Prop :=
  (alert.type, alert.thresholdValue, alert.actualValue) ∈ cause.limits mgr ∧
    alert.thresholdValue < alert.actualValue

/-- A prediction has a positive depth. -/
def Cause.PositiveDepth : Cause R → Prop
  | .crack _ => True
  | .vibration _ => True
  | .prediction p => 0 < p.predictedDepth

/-- A peak above its limit comes with an rms above its own. -/
def Cause.PeakWithRms : Cause R → Prop
  | .crack _ => True
  | .vibration data => vibrationPeakThreshold < data.peakValue →
      vibrationRmsThreshold < data.rmsValue
  | .prediction _ => True

variable (ostream : R → String) (replies : Replies) (unset : Alert R)

theorem exceedance_crack (c : CrackInfo R) :
    ∀ alert ∈ (Cause.crack c).alerts mgr ostream replies unset,
      Exceedance mgr (.crack c) alert := by
  intro alert halert
  rcases List.mem_append.mp halert with hdepth | hwidth
  · split at hdepth
    · next hexceeded =>
        rw [List.mem_singleton.mp hdepth]
        exact ⟨List.mem_cons_self, hexceeded⟩
    · cases hdepth
  · split at hwidth
    · next hexceeded =>
        rw [List.mem_singleton.mp hwidth]
        exact ⟨List.mem_cons_of_mem _ List.mem_cons_self, hexceeded⟩
    · cases hwidth

theorem exceedance_prediction (p : CrackPrediction R) (hdepth : 0 < p.predictedDepth) :
    ∀ alert ∈ (Cause.prediction p).alerts mgr ostream replies unset,
      Exceedance mgr (.prediction p) alert := by
  intro alert halert
  obtain ⟨one, hone, -, htype, hthreshold, hactual⟩ :=
    recorded_prediction mgr ostream replies unset p
  rw [Cause.alerts, hone] at halert
  split at halert
  · rw [List.mem_singleton.mp halert, Exceedance, htype, hthreshold, hactual]
    exact ⟨List.mem_cons_self, hdepth⟩
  · cases halert

theorem exceedance_vibration_iff (data : VibrationData R) :
    (∀ alert ∈ (Cause.vibration data).alerts mgr ostream replies unset,
        Exceedance mgr (.vibration data) alert) ↔
      (Cause.vibration data).PeakWithRms := by
  obtain ⟨alert, halert, -, htype, hthreshold, hactual⟩ :=
    recorded_vibration mgr ostream replies unset data
  rw [Cause.alerts, halert]
  split
  · next hexceeded =>
      rw [List.forall_mem_singleton, Exceedance, htype, hthreshold, hactual]
      constructor
      · intro h _
        exact h.2
      · intro h
        exact ⟨List.mem_cons_self, hexceeded.elim id h⟩
  · next hwithin =>
      refine ⟨fun _ hpeak => absurd (Or.inr hpeak) hwithin, fun _ one hone => ?_⟩
      cases hone

end Shown

/-- Every alert shows a limit that has been exceeded, exactly if the peak of a
vibration does not exceed its limit alone. -/
theorem alerts_exceed_iff [Field R] [LinearOrder R] (mgr : AlertManager R) (ostream : R → String)
    (replies : Replies) (unset : Alert R) (cause : Cause R) :
    (cause.PositiveDepth → ∀ alert ∈ cause.alerts mgr ostream replies unset,
        Exceedance mgr cause alert) ↔
      cause.PeakWithRms := by
  cases cause with
  | crack c =>
      exact iff_of_true (fun _ => exceedance_crack mgr ostream replies unset c) trivial
  | vibration data =>
      exact (forall_prop_of_true trivial).trans
        (exceedance_vibration_iff mgr ostream replies unset data)
  | prediction p =>
      exact iff_of_true (fun hdepth => exceedance_prediction mgr ostream replies unset p hdepth)
        trivial

/-- A knock: a high peak, and nearly no rms. -/
def knock : VibrationData ℚ := ⟨0, 1, 1, 0, .null, [], 0, 1, 0, 0, 0⟩

theorem knock_alert_shows_rms :
    ¬ ∀ (mgr : AlertManager ℚ) ostream replies unset (cause : Cause ℚ), cause.PositiveDepth →
        ∀ alert ∈ cause.alerts mgr ostream replies unset, Exceedance mgr cause alert := by
  intro h
  let mgr : AlertManager ℚ := ⟨200, 50⟩
  have hrms := (exceedance_vibration_iff mgr (fun _ => "") sevenReplies blankAlert knock).mp
    (h mgr (fun _ => "") sevenReplies blankAlert (.vibration knock) trivial)
  have hpeak : (vibrationPeakThreshold : ℚ) < knock.peakValue := by
    norm_num [knock, vibrationPeakThreshold]
  have hneg := hrms hpeak
  norm_num [knock, vibrationRmsThreshold] at hneg

end PorcelainMonitor.Modules
