import Mathlib.Algebra.Field.Rat
import Mathlib.Algebra.Order.Ring.Unbundled.Rat
import PorcelainMonitor.Modules.Wiring

/-!
# What reaches `AlertWsModule`

With the references that `wire_pipeline` sets, the first laser message ends the
process.  Until then no queue but the one for vibration messages ever holds a
message.  So the pipeline delivers a sequence of laser messages exactly if it is
empty.
-/

namespace PorcelainMonitor.Modules

variable {R : Type}

/-! ## Queues that stay empty -/

namespace Queues

/-- Only the vibration queues hold messages. -/
def OnlyVibration (qs : Queues R) : Prop := ∀ t q, t ≠ .vibration → qs t q = []

theorem OnlyVibration.tryPop {qs : Queues R} (h : qs.OnlyVibration) {t : Topic}
    (ht : t ≠ .vibration) (input : SharedQueue t) : qs.tryPop input = none := by
  cases input with
  | none => rfl
  | some q => simp [Queues.tryPop, h t q ht]

/-- An update of the vibration queues leaves the others empty. -/
theorem OnlyVibration.update {qs : Queues R} (h : qs.OnlyVibration)
    (f : Nat → List (Msg R .vibration)) :
    OnlyVibration (Function.update qs .vibration f : Queues R) := by
  intro t q ht
  rw [Function.update_of_ne ht]
  exact h t q ht

theorem OnlyVibration.of_tryPop {qs qs' : Queues R} (h : qs.OnlyVibration)
    {input : SharedQueue .vibration} {m : Msg R .vibration}
    (hpop : qs.tryPop input = some (m, qs')) : qs'.OnlyVibration := by
  cases input with
  | none => cases hpop
  | some q =>
      rw [Queues.tryPop] at hpop
      split at hpop
      · cases hpop
      · cases hpop
        exact h.update _

end Queues

/-- With only vibration messages about, that is all a round takes. -/
theorem AlertWsModule.take_onlyVibration {a : AlertWsModule} {qs qs' : Queues R} {x : Taken R}
    (h : qs.OnlyVibration) (htake : a.take qs = (x, qs')) :
    qs'.OnlyVibration ∧ (x = .nothing ∨ ∃ msg, x = .vibration msg) := by
  rw [AlertWsModule.take, h.tryPop (by decide)] at htake
  cases hv : qs.tryPop a.vibrationIn with
  | some p =>
      rw [hv] at htake
      cases htake
      exact ⟨h.of_tryPop hv, .inr ⟨_, rfl⟩⟩
  | none =>
      rw [hv] at htake
      simp only [h.tryPop (show Topic.prediction ≠ .vibration by decide),
        h.tryPop (show Topic.dem ≠ .vibration by decide)] at htake
      cases htake
      exact ⟨h, .inl rfl⟩

/-! ## Without laser messages -/

namespace Pipeline

variable [Field R] [LinearOrder R]

/-- A module that takes no vibration finds its input empty. -/
theorem step_onlyVibration {env : Env R} {s : Pipeline R} {e : Event R}
    (h : s.queues.OnlyVibration) (hc : s.crashed = false) (hlaser : e ≠ .laserCallback)
    (hvibration : e ≠ .vibrationCallback) (halert : e ≠ .alertWs) : step env s e = some s := by
  have hl := h.tryPop (show Topic.laser ≠ .vibration by decide)
  have hk := h.tryPop (show Topic.crack ≠ .vibration by decide)
  cases e with
  | laserFanOut => simp only [step, hc, hl]; rfl
  | crackRouter => simp only [step, hc, hl]; rfl
  | crackFanOut => simp only [step, hc, hk]; rfl
  | fatiguePredictor => simp only [step, hc, hk]; rfl
  | demSimulator outcomes => simp only [step, hc, hk]; rfl
  | laserCallback => exact absurd rfl hlaser
  | vibrationCallback => exact absurd rfl hvibration
  | alertWs => exact absurd rfl halert

/-- No laser message has come or will come, and nothing has come of one. -/
structure Quiet (s : Pipeline R) : Prop where
  laserPending : s.laserPending = []
  queues : s.queues.OnlyVibration
  laser : s.received.laser = []
  predictions : s.received.predictions = []
  dems : s.received.dems = []

omit [Field R] [LinearOrder R] in
theorem Quiet.delivered {s : Pipeline R} (h : Quiet s) : Delivered [] s := by
  refine ⟨h.laser, ?_, ?_⟩
  · rw [h.predictions]
    rfl
  · rw [h.dems]
    rfl

theorem Quiet.step {env : Env R} {s t : Pipeline R} {e : Event R} (h : Quiet s)
    (hst : step env s e = some t) : Quiet t := by
  cases hc : s.crashed with
  | true =>
      simp [Pipeline.step, hc] at hst
  | false =>
      cases e with
      | laserCallback =>
          simp only [Pipeline.step, hc, h.laserPending] at hst
          cases hst
      | vibrationCallback =>
          cases hp : s.vibrationPending with
          | nil =>
              simp only [Pipeline.step, hc, hp] at hst
              cases hst
          | cons msg rest =>
              cases hout : s.server.profinetParser.vibrationOut with
              | none =>
                  simp only [Pipeline.step, hc, hp, hout] at hst
                  cases hst
                  exact ⟨h.laserPending, h.queues, h.laser, h.predictions, h.dems⟩
              | some q =>
                  simp only [Pipeline.step, hc, hp, hout] at hst
                  cases hst
                  exact ⟨h.laserPending, h.queues.update _, h.laser, h.predictions, h.dems⟩
      | alertWs =>
          cases htake : s.server.alertWs.take s.queues with
          | mk x qs =>
              obtain ⟨hqs, hx⟩ := AlertWsModule.take_onlyVibration h.queues htake
              simp only [Pipeline.step, hc, htake] at hst
              rcases hx with rfl | ⟨msg, rfl⟩
              · cases hst
                exact ⟨h.laserPending, hqs, h.laser, h.predictions, h.dems⟩
              · cases hst
                exact ⟨h.laserPending, hqs, h.laser, h.predictions, h.dems⟩
      | _ =>
          rw [step_onlyVibration h.queues hc (by simp) (by simp) (by simp)] at hst
          cases hst
          exact h

/-! ## With a laser message -/

/-- The first laser callback ends the process. -/
theorem laserCallback_crashes (env : Env R) (unset : RepairMaterial R)
    (msg : ParsedLaserMessage R) (laser : List (ParsedLaserMessage R))
    (vibration : List (ParsedVibrationMessage R)) :
    step env (start unset (msg :: laser) vibration) .laserCallback =
      some { start unset laser vibration with crashed := true } := rfl

/-- After a crash nothing happens any more. -/
theorem idle_of_crashed (env : Env R) {s : Pipeline R} (h : s.crashed = true) : Idle env s := by
  intro e
  left
  unfold Pipeline.step
  rw [if_pos h]

/-- A sequence of laser messages is delivered, whatever the order of the callbacks
and rounds and whatever vibration messages come between them, exactly if it is
empty. -/
theorem delivered_iff_nil (env : Env R) (unset : RepairMaterial R)
    (msgs : List (ParsedLaserMessage R)) :
    (∀ vibration es s, Steps.exec (step env) (start unset msgs vibration) es = some s →
      Idle env s → Delivered msgs s) ↔ msgs = [] := by
  constructor
  · intro h
    cases msgs with
    | nil => rfl
    | cons msg rest =>
        have hrun : Steps.exec (step env) (start unset (msg :: rest) []) [.laserCallback] =
            some { start unset rest [] with crashed := true } := by
          rw [Steps.exec_cons, laserCallback_crashes]
          rfl
        have hdelivered := h [] _ _ hrun (idle_of_crashed env rfl)
        cases hdelivered.laser
  · rintro rfl vibration es s hrun _
    have hquiet : Quiet (start unset [] vibration) := ⟨rfl, fun _ _ _ => rfl, rfl, rfl, rfl⟩
    exact (Steps.exec_invariant (fun _ _ _ h hst => h.step hst) hquiet hrun).delivered

/-! ## One message -/

/-- A laser reading without cracks. -/
def blankReading : ParsedLaserMessage ℚ where
  packet := ⟨"10.0.0.1", "10.0.0.2", "LASER_DATA", 0x8001, []⟩
  data := ⟨0, 1, 1, 0, (0, 0, 0, 0), 1, false, 0, [], .null⟩

/-- One laser message is enough to end the process before anything arrives. -/
theorem one_message_is_lost :
    ¬ ∀ (env : Env ℚ) (unset : RepairMaterial ℚ) (msgs : List (ParsedLaserMessage ℚ))
        vibration es s,
      Steps.exec (step env) (start unset msgs vibration) es = some s → Idle env s →
      Delivered msgs s := by
  intro h
  let env : Env ℚ := ⟨⟨3, id, fun x _ => x, id, id⟩, 720⟩
  let unset : RepairMaterial ℚ := ⟨1, .zirconia, "", "", 25, 0, 0, 0, 0, .null⟩
  have hdelivered := h env unset [blankReading] [] [.laserCallback] _ rfl (idle_of_crashed env rfl)
  cases hdelivered.laser

end Pipeline

end PorcelainMonitor.Modules
