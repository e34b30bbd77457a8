import PorcelainMonitor.Database.DatabaseManager
import PorcelainMonitor.Modules.AlertWs

/-!
# The rounds of the worker

A handler stores, checks and at last broadcasts what a round has taken.  Whatever its
services do and whichever of them throw, it broadcasts at most once, and only the message
about what was taken (`broadcasts_sublist`).
-/

namespace PorcelainMonitor.Modules

open Effects (Comp Maintains)

variable {R : Type} [Field R] [LinearOrder R]

/-- The handler for what a round took.  An alert starts as `unset`. -/
def Taken.handle {m : Type → Type} [Monad m] [MonadExceptOf Failure m] (services : Services m R)
    (mgr : Alerts.AlertManager R) (ostream : R → String) (unset : Alert R) : Taken R → m Bool
  | .laser msg => handleLaser services mgr ostream unset msg
  | .vibration msg => handleVibration services ostream unset msg
  | .prediction msg => handlePrediction services ostream unset msg
  | .dem msg => handleDem services msg
  | .nothing => return false

/-- What the handler broadcasts. -/
def Taken.json : Taken R → Option (Json R)
  | .laser msg => some (laserBroadcast msg)
  | .vibration msg => some (vibrationBroadcast msg)
  | .prediction msg => some (predictionBroadcast msg)
  | .dem msg => some (demBroadcast msg)
  | .nothing => none

section Rounds

variable {σ : Type} (services : Services (Comp Failure σ) R) (mgr : Alerts.AlertManager R)
  (ostream : R → String)

/-- Rounds of the worker, one after the other. -/
def handleRounds (w : σ) (rounds : List (Alert R × Taken R)) : σ :=
  rounds.foldl (fun w round => ((round.2.handle services mgr ostream round.1).run w).2) w

/-! ## What a handler maintains -/

/-- An invariant that holds across all services but the broadcast. -/
structure MaintainedBy (Inv : σ → Prop) : Prop where
  logProfinetPacket : ∀ sourceIp destinationIp frameId payload,
    Maintains Inv (services.logProfinetPacket sourceIp destinationIp frameId payload)
  insertLaserData : ∀ data, Maintains Inv (services.insertLaserData data)
  insertVibrationData : ∀ data, Maintains Inv (services.insertVibrationData data)
  insertCrack : ∀ crack porcelainId, Maintains Inv (services.insertCrack crack porcelainId)
  insertCrackPoints : ∀ crackId points, Maintains Inv (services.insertCrackPoints crackId points)
  saveAlert : ∀ alert, Maintains Inv (Alerts.saveAlert services alert)
  now : Maintains Inv services.now

namespace MaintainedBy

variable {services mgr ostream} {Inv P : σ → Prop} (h : MaintainedBy services Inv)

include h

omit [Field R] in
theorem checkLaserData (unset : Alert R) (data : LaserMicroscopeData R) :
    Maintains Inv (Alerts.checkLaserData mgr ostream unset services data) := by
  rw [Alerts.checkLaserData]
  split
  · exact .forM (fun crack => .bind h.now fun _ => .bind h.now fun _ =>
      .forM (fun alert => h.saveAlert _) _) _
  · exact .pure _

theorem checkVibrationData (unset : Alert R) (data : VibrationData R) :
    Maintains Inv (Alerts.checkVibrationData ostream unset services data) := by
  rw [Alerts.checkVibrationData]
  split
  · exact .bind h.now fun _ => h.saveAlert _
  · exact .pure _

omit [LinearOrder R] in
theorem checkPrediction (unset : Alert R) (prediction : CrackPrediction R) :
    Maintains Inv (Alerts.checkPrediction ostream unset services prediction) := by
  rw [Alerts.checkPrediction]
  split
  · exact .bind h.now fun _ => h.saveAlert _
  · exact .pure _

omit [Field R] [LinearOrder R] in
theorem storeCracks (data : LaserMicroscopeData R) :
    Maintains Inv (Modules.storeCracks services data) := by
  rw [Modules.storeCracks]
  split
  · refine .forM (fun crack => .bind h.now fun now => .bind (h.insertCrack _ _) fun id => ?_) _
    split
    · exact .bind (h.insertCrackPoints _ _) fun _ => .pure _
    · exact .pure _
  · exact .pure _

/-- All that a handler does before it broadcasts maintains the invariant, and
`try`/`catch` does not undo anything. -/
theorem handle (unset : Alert R) (taken : Taken R) (hP : ∀ s, Inv s → P s)
    (hbroadcast : ∀ j, taken.json = some j → ∀ s, Inv s → P ((services.broadcastJson j).run s).2)
    (s : σ) (hs : Inv s) : P ((taken.handle services mgr ostream unset).run s).2 := by
  cases taken with
  | laser msg =>
      rw [Taken.handle, handleLaser, guarded_state]
      refine (h.logProfinetPacket _ _ _ _).first hP (fun _ => ?_) s hs
      refine (h.insertLaserData _).first hP fun _ => ?_
      refine (h.storeCracks _).first hP fun _ => ?_
      exact (h.checkLaserData unset _).first hP fun _ => hbroadcast _ rfl
  | vibration msg =>
      rw [Taken.handle, handleVibration, guarded_state]
      refine (h.logProfinetPacket _ _ _ _).first hP (fun _ => ?_) s hs
      refine (h.insertVibrationData _).first hP fun _ => ?_
      exact (h.checkVibrationData unset _).first hP fun _ => hbroadcast _ rfl
  | prediction msg =>
      rw [Taken.handle, handlePrediction, guarded_state]
      exact (h.checkPrediction unset _).first hP (fun _ => hbroadcast _ rfl) s hs
  | dem msg =>
      rw [Taken.handle, handleDem, guarded_state]
      exact hbroadcast _ rfl s hs
  | nothing => exact hP s hs

end MaintainedBy

end Rounds

/-! ## What is broadcast -/

section Broadcasts

variable {σ : Type} (services : Services (Comp Failure σ) R)

/-- The services, and a list of what they have broadcast. -/
def broadcasting : Services (Comp Failure (σ × List (Json R))) R where
  logProfinetPacket sourceIp destinationIp frameId payload :=
    (services.logProfinetPacket sourceIp destinationIp frameId payload).onFirst
  insertLaserData data := (services.insertLaserData data).onFirst
  insertVibrationData data := (services.insertVibrationData data).onFirst
  insertCrack crack porcelainId := (services.insertCrack crack porcelainId).onFirst
  insertCrackPoints crackId points := (services.insertCrackPoints crackId points).onFirst
  insertAlert alert := (services.insertAlert alert).onFirst
  enqueueAlert alert := (services.enqueueAlert alert).onFirst
  broadcastJson j := do
    (services.broadcastJson j).onFirst
    Comp.note j
  now := services.now.onFirst

variable {services} {mgr : Alerts.AlertManager R} {ostream : R → String}

omit [Field R] [LinearOrder R] in
theorem maintainedBy_broadcasting (log : List (Json R)) :
    MaintainedBy (broadcasting services) fun w => w.2 = log := by
  have hfirst : ∀ {α : Type} (x : Comp Failure σ α),
      Maintains (fun w : σ × List (Json R) => w.2 = log) x.onFirst := fun _ _ h => h
  refine ⟨fun _ _ _ _ => hfirst _, fun _ => hfirst _, fun _ => hfirst _, fun _ _ => hfirst _,
    fun _ _ => hfirst _, fun alert => .bind (hfirst _) fun id => ?_, hfirst _⟩
  split
  · exact hfirst _
  · exact .pure _

variable (services mgr ostream)

/-- A round broadcasts nothing, or once what was taken. -/
theorem handle_broadcasts (unset : Alert R) (taken : Taken R) (w : σ × List (Json R)) :
    ((taken.handle (broadcasting services) mgr ostream unset).run w).2.2 = w.2 ∨
      ∃ j, taken.json = some j ∧
        ((taken.handle (broadcasting services) mgr ostream unset).run w).2.2 = w.2 ++ [j] := by
  refine (maintainedBy_broadcasting w.2).handle (P := fun t => t.2 = w.2 ∨
    ∃ j, taken.json = some j ∧ t.2 = w.2 ++ [j]) unset taken (fun _ => .inl) ?_ w rfl
  intro j hj t ht
  have hsend : Maintains (fun t : σ × List (Json R) => t.2 = w.2)
    (services.broadcastJson j).onFirst := fun _ h => h
  refine hsend.first (P := fun t => t.2 = w.2 ∨ ∃ j, taken.json = some j ∧ t.2 = w.2 ++ [j])
    (fun _ => .inl) (fun _ t ht => .inr ⟨j, hj, ?_⟩) t ht
  rw [← ht]
  rfl

/-- Over any rounds, each message goes out at most once, in the order of the rounds. -/
theorem broadcasts_sublist (rounds : List (Alert R × Taken R)) (w : σ × List (Json R)) :
    ∃ new, (handleRounds (broadcasting services) mgr ostream w rounds).2 = w.2 ++ new ∧
      new.Sublist (rounds.filterMap fun round => round.2.json) := by
  induction rounds generalizing w with
  | nil => exact ⟨[], (List.append_nil _).symm, .slnil⟩
  | cons round rounds ih =>
      obtain ⟨new, hnew, hsub⟩ :=
        ih ((round.2.handle (broadcasting services) mgr ostream round.1).run w).2
      rcases handle_broadcasts services mgr ostream round.1 round.2 w with hnone | ⟨j, hj, hone⟩
      · refine ⟨new, hnew.trans (by rw [hnone]), hsub.trans ?_⟩
        exact (List.sublist_cons_self round rounds).filterMap _
      · refine ⟨j :: new, hnew.trans (by rw [hone, List.append_assoc]; rfl), ?_⟩
        rw [List.filterMap_cons, hj]
        exact hsub.cons_cons j

end Broadcasts

/-- What `send_websocket` broadcasts. -/
def alertJson (alert : Alert R) : Json R := .object [
  ("type", .text "alert"),
  ("data", .object [
    ("id", .int alert.id),
    ("alert_type", .text (Database.alertTypeName alert.type)),
    ("porcelain_id", .int alert.porcelainId),
    ("crack_id", .int alert.crackId),
    ("sensor_id", .int alert.sensorId),
    ("threshold", .float alert.thresholdValue),
    ("actual", .float alert.actualValue),
    ("unit", .text alert.unit),
    ("message", .text alert.message),
    ("status", .text "PENDING")])]

end PorcelainMonitor.Modules
