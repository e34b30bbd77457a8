import PorcelainMonitor.Lib.PriorityPolling
import PorcelainMonitor.Modules.WireToWorker

/-!
# How long an input of `AlertWsModule` waits

The worker of `AlertWsModule` tries its four inputs by priority: laser messages,
vibrations, predictions, simulations.  Whoever pushes to its queues, with whatever
references, the numbers of the messages that wait and that it has taken change as
those of `PriorityPolling` (`Polls.step`).

So the messages at an input are taken within a number of moves that depends on
what waits there and before and on what arrives before (`inputs_served`), and
laser messages can keep the worker from the other inputs for ever
(`laser_starves`).  In the wired server only vibrations arrive, and each is taken
in time, whatever the other threads do (`vibrations_served`).
-/

namespace PorcelainMonitor.Modules

open PriorityPolling (Worker Pc arrivalsBefore)

/-! ## The inputs -/

/-- The inputs, in the order in which a round tries them. -/
inductive AlertInput where
  | laser
  | vibration
  | prediction
  | dem
deriving DecidableEq, Repr

namespace AlertInput

def topic : AlertInput → Topic
  | .laser => .laser
  | .vibration => .vibration
  | .prediction => .prediction
  | .dem => .dem

/-- The number of inputs of higher priority. -/
def rank : AlertInput → Nat
  | .laser => 0
  | .vibration => 1
  | .prediction => 2
  | .dem => 3

def all : List AlertInput := [.laser, .vibration, .prediction, .dem]

theorem topic_injective : Function.Injective topic := by
  intro j k h
  cases j <;> cases k <;> simp [topic] at h ⊢

theorem rank_injective : Function.Injective rank := by
  intro j k h
  cases j <;> cases k <;> simp [rank] at h ⊢

theorem all_rank (k : AlertInput) : all[k.rank]? = some k := by
  cases k <;> rfl

theorem rank_lt (k : AlertInput) : k.rank < 4 := by
  cases k <;> decide

theorem exists_rank {i : Nat} (hi : i < 4) : ∃ k : AlertInput, k.rank = i := by
  have h : i = 0 ∨ i = 1 ∨ i = 2 ∨ i = 3 := by omega
  rcases h with rfl | rfl | rfl | rfl
  · exact ⟨.laser, rfl⟩
  · exact ⟨.vibration, rfl⟩
  · exact ⟨.prediction, rfl⟩
  · exact ⟨.dem, rfl⟩

end AlertInput

def AlertWsModule.input (a : AlertWsModule) : (k : AlertInput) → SharedQueue k.topic
  | .laser => a.laserIn
  | .vibration => a.vibrationIn
  | .prediction => a.predictionIn
  | .dem => a.demIn

/-- The messages taken from an input. -/
def Received.at {R : Type} (r : Received R) : (k : AlertInput) → List (Msg R k.topic)
  | .laser => r.laser
  | .vibration => r.vibration
  | .prediction => r.predictions
  | .dem => r.dems

/-- What a handler gets from an input. -/
def AlertInput.taken {R : Type} : (k : AlertInput) → Msg R k.topic → Taken R
  | .laser => .laser
  | .vibration => .vibration
  | .prediction => .prediction
  | .dem => .dem

/-! ## The worker and its producers -/

/-- A move of the worker, or a push to any queue. -/
inductive PollEvent (R : Type) where
  | work
  | push (t : Topic) (q : Nat) (msg : Msg R t)

def PollEvent.isWork {R : Type} : PollEvent R → Bool
  | .work => true
  | .push _ _ _ => false

/-- A move of the worker of `AlertWsModule`. -/
def ServerEvent.isAlertWs {R : Type} : ServerEvent R → Bool
  | .alertWs => true
  | _ => false

namespace ServerRun

variable {R : Type}

def pollStep (s : ServerRun R) : PollEvent R → Option (ServerRun R)
  | .work => s.alertWsStep
  | .push _ q msg => some { s with pipeline.queues := s.pipeline.queues.push q msg }

/-- The messages that wait at an input. -/
def waitingAt (s : ServerRun R) (k : AlertInput) : List (Msg R k.topic) :=
  match s.pipeline.server.alertWs.input k with
  | none => []
  | some q => s.pipeline.queues k.topic q

/-- The messages that the worker has taken from an input. -/
def takenFrom (s : ServerRun R) (k : AlertInput) : List (Msg R k.topic) :=
  s.pipeline.received.at k

end ServerRun

/-- What is pushed to the queue of an input arrives there. -/
def PollEvent.arrivals {R : Type} (a : AlertWsModule) :
    PollEvent R → List PriorityPolling.Event
  | .work => [.work]
  | .push t q _ => (AlertInput.all.filter fun k => k.topic = t ∧ a.input k = some q).map
      fun k => .arrive k.rank

/-! ## What a move does -/

/-- The worker before it tries an input. -/
def AlertInput.pc {R : Type} : AlertInput → AlertWsPc R
  | .laser => .laser
  | .vibration => .vibration
  | .prediction => .prediction
  | .dem => .dem

/-- Where the worker goes on after an empty input. -/
def AlertInput.next {R : Type} : AlertInput → AlertWsPc R
  | .laser => .vibration
  | .vibration => .prediction
  | .prediction => .dem
  | .dem => .test

namespace ServerRun

variable {R : Type} {s t : ServerRun R} {a : AlertWsModule}

/-- The worker has taken a message and left the others. -/
def took (s : ServerRun R) (k : AlertInput) (q : Nat) (msg : Msg R k.topic)
    (rest : List (Msg R k.topic)) : ServerRun R :=
  { s with
    pipeline.queues := Function.update s.pipeline.queues k.topic
      (Function.update (s.pipeline.queues k.topic) q rest)
    pipeline.received := s.pipeline.received.add (k.taken msg)
    alertWs := .handle (k.taken msg) }

/-- What the worker does while its flag is set. -/
inductive PollTurn (s : ServerRun R) : ServerRun R → Prop where
  | test (hpc : s.alertWs = .test) : PollTurn s { s with alertWs := .laser }
  | empty (k : AlertInput) (hpc : s.alertWs = k.pc) (hwaiting : s.waitingAt k = []) :
      PollTurn s { s with alertWs := k.next }
  | take (k : AlertInput) {q : Nat} {msg : Msg R k.topic} {rest : List (Msg R k.topic)}
      (hpc : s.alertWs = k.pc) (hinput : s.pipeline.server.alertWs.input k = some q)
      (hwaiting : s.waitingAt k = msg :: rest) : PollTurn s (s.took k q msg rest)
  | handled {taken : Taken R} (hpc : s.alertWs = .handle taken) :
      PollTurn s { s with handled := s.handled.add taken, alertWs := .test }

theorem pollTurn_tryTake (k : AlertInput) (hpc : s.alertWs = k.pc) :
    PollTurn s (s.tryTake (s.pipeline.server.alertWs.input k) k.taken k.next) := by
  rw [tryTake]
  cases hinput : s.pipeline.server.alertWs.input k with
  | none =>
      have hwaiting : s.waitingAt k = [] := by rw [waitingAt, hinput]
      exact .empty k hpc hwaiting
  | some q =>
      have hqueue : s.waitingAt k = s.pipeline.queues k.topic q := by rw [waitingAt, hinput]
      rw [Queues.tryPop]
      dsimp only
      cases hwaiting : s.pipeline.queues k.topic q with
      | nil => exact .empty k hpc (hqueue.trans hwaiting)
      | cons msg rest => exact .take k hpc hinput (hqueue.trans hwaiting)

theorem pollTurn (hrunning : s.alertWsRunning = true) (hst : s.alertWsStep = some t) :
    PollTurn s t := by
  rw [alertWsStep] at hst
  cases hpc : s.alertWs with
  | test =>
      have hnext : (if s.alertWsRunning then AlertWsPc.laser else .exited) =
          (.laser : AlertWsPc R) := if_pos hrunning
      simp only [hpc, hnext] at hst
      cases hst
      exact .test hpc
  | laser =>
      simp only [hpc] at hst
      cases hst
      exact pollTurn_tryTake .laser hpc
  | vibration =>
      simp only [hpc] at hst
      cases hst
      exact pollTurn_tryTake .vibration hpc
  | prediction =>
      simp only [hpc] at hst
      cases hst
      exact pollTurn_tryTake .prediction hpc
  | dem =>
      simp only [hpc] at hst
      cases hst
      exact pollTurn_tryTake .dem hpc
  | handle taken =>
      simp only [hpc] at hst
      cases hst
      exact .handled hpc
  | exited => simp [hpc] at hst

/-! ## The messages at the inputs -/

theorem waitingAt_took_self {k : AlertInput} {q : Nat} {msg : Msg R k.topic}
    {rest : List (Msg R k.topic)} (hinput : s.pipeline.server.alertWs.input k = some q) :
    (s.took k q msg rest).waitingAt k = rest := by
  simp [waitingAt, took, hinput]

theorem waitingAt_took_of_ne {j k : AlertInput} (hjk : j ≠ k) {q : Nat} {msg : Msg R k.topic}
    {rest : List (Msg R k.topic)} : (s.took k q msg rest).waitingAt j = s.waitingAt j := by
  have htopic : j.topic ≠ k.topic := fun h => hjk (AlertInput.topic_injective h)
  simp only [waitingAt, took]
  rw [Function.update_of_ne htopic]

theorem takenFrom_took_self {k : AlertInput} {q : Nat} {msg : Msg R k.topic}
    {rest : List (Msg R k.topic)} :
    (s.took k q msg rest).takenFrom k = s.takenFrom k ++ [msg] := by
  cases k <;> rfl

theorem takenFrom_took_of_ne {j k : AlertInput} (hjk : j ≠ k) {q : Nat} {msg : Msg R k.topic}
    {rest : List (Msg R k.topic)} : (s.took k q msg rest).takenFrom j = s.takenFrom j := by
  cases j <;> cases k <;> first | rfl | exact absurd rfl hjk

/-- A push to any queue. -/
def pushed (s : ServerRun R) (topic : Topic) (q : Nat) (msg : Msg R topic) : ServerRun R :=
  { s with pipeline.queues := s.pipeline.queues.push q msg }

theorem waitingAt_pushed_self {k : AlertInput} {q : Nat} {msg : Msg R k.topic}
    (hinput : s.pipeline.server.alertWs.input k = some q) :
    (s.pushed k.topic q msg).waitingAt k = s.waitingAt k ++ [msg] := by
  simp [waitingAt, pushed, hinput, Queues.push]

theorem waitingAt_pushed_of_ne {k : AlertInput} {topic : Topic} {q : Nat} {msg : Msg R topic}
    (hinput : k.topic = topic → s.pipeline.server.alertWs.input k ≠ some q) :
    (s.pushed topic q msg).waitingAt k = s.waitingAt k := by
  simp only [waitingAt, pushed]
  cases hk : s.pipeline.server.alertWs.input k with
  | none => rfl
  | some p =>
      by_cases htopic : k.topic = topic
      · subst htopic
        have hpq : p ≠ q := fun h => hinput rfl (hk.trans (congrArg some h))
        simp [Queues.push, Function.update_of_ne hpq]
      · simp [Queues.push, Function.update_of_ne htopic]

/-! ## The numbers of the messages -/

/-- A number for each input. -/
def perInput (f : AlertInput → Nat) (i : Nat) : Nat := (AlertInput.all[i]?).elim 0 f

theorem perInput_rank (f : AlertInput → Nat) (k : AlertInput) : perInput f k.rank = f k := by
  rw [perInput, AlertInput.all_rank]
  rfl

/-- Only the number for one input changes. -/
theorem perInput_update {f g : AlertInput → Nat} {k : AlertInput} (h : ∀ j, j ≠ k → g j = f j) :
    perInput g = Function.update (perInput f) k.rank (g k) := by
  funext i
  rcases Nat.lt_or_ge i 4 with hi | hi
  · obtain ⟨j, rfl⟩ := AlertInput.exists_rank hi
    rw [perInput_rank]
    by_cases hjk : j = k
    · subst hjk
      rw [Function.update_self]
    · rw [Function.update_of_ne fun hr => hjk (AlertInput.rank_injective hr), perInput_rank,
        h j hjk]
  · have hnone : AlertInput.all[i]? = none := List.getElem?_eq_none hi
    have hik : i ≠ k.rank := (Nat.lt_of_lt_of_le k.rank_lt hi).ne'
    rw [Function.update_of_ne hik, perInput, perInput, hnone]
    rfl

/-- Where the worker of `PriorityPolling` stands. -/
def pollPc : AlertWsPc R → Pc
  | .test => .test
  | .laser => .trying 0
  | .vibration => .trying 1
  | .prediction => .trying 2
  | .dem => .trying 3
  | .handle _ => .handle
  | .exited => .test

def counts (s : ServerRun R) : Worker where
  waiting := perInput fun k => (s.waitingAt k).length
  taken := perInput fun k => (s.takenFrom k).length
  pc := pollPc s.alertWs

theorem pollPc_pc (k : AlertInput) : pollPc (k.pc : AlertWsPc R) = .trying k.rank := by
  cases k <;> rfl

theorem pollPc_next (k : AlertInput) : pollPc (k.next : AlertWsPc R) =
    if k.rank + 1 < 4 then .trying (k.rank + 1) else .test := by
  cases k <;> rfl

theorem counts_taken (s : ServerRun R) (k : AlertInput) :
    s.counts.taken k.rank = (s.takenFrom k).length := perInput_rank _ k

theorem counts_waiting (s : ServerRun R) (k : AlertInput) :
    s.counts.waiting k.rank = (s.waitingAt k).length := perInput_rank _ k

/-- What no move and no push changes. -/
structure PollKept (s t : ServerRun R) : Prop where
  alertWs : t.pipeline.server.alertWs = s.pipeline.server.alertWs
  running : t.alertWsRunning = s.alertWsRunning
  /-- What was taken from an input and what waits there only gets longer. -/
  order : ∀ k, s.takenFrom k ++ s.waitingAt k <+: t.takenFrom k ++ t.waitingAt k

theorem PollTurn.counts_eq (h : PollTurn s t) : t.counts = s.counts.work 4 := by
  cases h with
  | test hpc =>
      simp only [Worker.work, counts, hpc]
      rfl
  | empty k hpc hwaiting =>
      have hzero : perInput (fun k => (s.waitingAt k).length) k.rank = 0 := by
        rw [perInput_rank, hwaiting]
        rfl
      simp only [Worker.work, counts, hpc, pollPc_pc, hzero, if_true]
      congr 1
      exact pollPc_next k
  | @take k q msg rest hpc hinput hwaiting =>
      have hsome : perInput (fun k => (s.waitingAt k).length) k.rank = rest.length + 1 := by
        rw [perInput_rank, hwaiting]
        rfl
      have hrest : perInput (fun j => ((s.took k q msg rest).waitingAt j).length) =
          Function.update (perInput fun j => (s.waitingAt j).length) k.rank rest.length := by
        rw [perInput_update fun j hjk => congrArg List.length (waitingAt_took_of_ne hjk),
          waitingAt_took_self hinput]
      have htaken : perInput (fun j => ((s.took k q msg rest).takenFrom j).length) =
          Function.update (perInput fun j => (s.takenFrom j).length) k.rank
            (perInput (fun j => (s.takenFrom j).length) k.rank + 1) := by
        rw [perInput_update fun j hjk => congrArg List.length (takenFrom_took_of_ne hjk),
          takenFrom_took_self, List.length_append, perInput_rank]
        rfl
      simp only [Worker.work, counts, hpc, pollPc_pc, hsome, hrest, htaken]
      rfl
  | handled hpc =>
      simp only [Worker.work, counts, hpc]
      rfl

theorem PollTurn.kept (h : PollTurn s t) : PollKept s t ∧ t.alertWs ≠ .exited := by
  cases h with
  | test hpc => exact ⟨⟨rfl, rfl, fun _ => List.prefix_rfl⟩, by simp⟩
  | empty k hpc hwaiting =>
      exact ⟨⟨rfl, rfl, fun _ => List.prefix_rfl⟩, by cases k <;> simp [AlertInput.next]⟩
  | @take k q msg rest hpc hinput hwaiting =>
      refine ⟨⟨rfl, rfl, fun j => ?_⟩, by simp [took]⟩
      by_cases hjk : j = k
      · subst hjk
        rw [takenFrom_took_self, waitingAt_took_self hinput, hwaiting, List.append_assoc]
        exact List.prefix_rfl
      · rw [takenFrom_took_of_ne hjk, waitingAt_took_of_ne hjk]
  | handled hpc => exact ⟨⟨rfl, rfl, fun _ => List.prefix_rfl⟩, by simp⟩

/-! ## Pushes -/

theorem arrivals_self {k : AlertInput} {q : Nat} {msg : Msg R k.topic}
    (hinput : a.input k = some q) :
    (PollEvent.push k.topic q msg).arrivals a = [.arrive k.rank] := by
  have hfilter : (AlertInput.all.filter fun j => j.topic = k.topic ∧ a.input j = some q) = [k] := by
    cases k <;> simp [AlertInput.all, AlertInput.topic, hinput]
  rw [PollEvent.arrivals, hfilter]
  rfl

theorem arrivals_nil {topic : Topic} {q : Nat} {msg : Msg R topic}
    (hnone : ∀ k : AlertInput, k.topic = topic → a.input k ≠ some q) :
    (PollEvent.push topic q msg).arrivals a = [] := by
  rw [PollEvent.arrivals, List.map_eq_nil_iff, List.filter_eq_nil_iff]
  intro k _
  simpa using hnone k

theorem pushed_counts (s : ServerRun R) (topic : Topic) (q : Nat) (msg : Msg R topic) :
    (s.pushed topic q msg).counts = s.counts.run 4
      ((PollEvent.push topic q msg).arrivals s.pipeline.server.alertWs) := by
  by_cases hsome : ∃ k : AlertInput, k.topic = topic ∧
      s.pipeline.server.alertWs.input k = some q
  · obtain ⟨k, rfl, hinput⟩ := hsome
    have hother : ∀ j, j ≠ k → ((s.pushed k.topic q msg).waitingAt j).length =
        (s.waitingAt j).length := by
      intro j hjk
      rw [waitingAt_pushed_of_ne fun h => absurd (AlertInput.topic_injective h) hjk]
    rw [arrivals_self hinput]
    simp only [counts, Worker.run, List.foldl_cons, List.foldl_nil, Worker.step,
      perInput_update hother, waitingAt_pushed_self hinput, perInput_rank, List.length_append]
    rfl
  · have hnone : ∀ k : AlertInput, k.topic = topic →
        s.pipeline.server.alertWs.input k ≠ some q := fun k hk hq => hsome ⟨k, hk, hq⟩
    rw [arrivals_nil hnone]
    have hsame : ∀ k, (s.pushed topic q msg).waitingAt k = s.waitingAt k :=
      fun k => waitingAt_pushed_of_ne (hnone k)
    simp only [counts, hsame]
    rfl

theorem pushed_kept (s : ServerRun R) (topic : Topic) (q : Nat) (msg : Msg R topic) :
    PollKept s (s.pushed topic q msg) := by
  refine ⟨rfl, rfl, fun k => ?_⟩
  have htaken : (s.pushed topic q msg).takenFrom k = s.takenFrom k := rfl
  rw [htaken, List.prefix_append_right_inj]
  by_cases h : k.topic = topic ∧ s.pipeline.server.alertWs.input k = some q
  · obtain ⟨rfl, hinput⟩ := h
    rw [waitingAt_pushed_self hinput]
    exact List.prefix_append _ _
  · rw [waitingAt_pushed_of_ne fun hk hq => h ⟨hk, hq⟩]

/-! ## Runs -/

/-- The worker is in its loop, and its flag is set. -/
structure Polls (s : ServerRun R) : Prop where
  running : s.alertWsRunning = true
  loop : s.alertWs ≠ .exited

theorem Polls.step (h : Polls s) (e : PollEvent R) : ∃ t, s.pollStep e = some t ∧ Polls t ∧
    t.counts = s.counts.run 4 (e.arrivals s.pipeline.server.alertWs) ∧ PollKept s t := by
  cases e with
  | push topic q msg =>
      exact ⟨s.pushed topic q msg, rfl, ⟨h.running, h.loop⟩, s.pushed_counts topic q msg,
        s.pushed_kept topic q msg⟩
  | work =>
      have hsome : s.alertWsStep.isSome := by
        rw [alertWsStep]
        cases hpc : s.alertWs with
        | exited => exact absurd hpc h.loop
        | _ => rfl
      obtain ⟨t, ht⟩ := Option.isSome_iff_exists.mp hsome
      have hturn := pollTurn h.running ht
      obtain ⟨hkept, hloop⟩ := hturn.kept
      exact ⟨t, ht, ⟨hkept.running.trans h.running, hloop⟩, hturn.counts_eq, hkept⟩

/-- Every run of the worker and its producers, counted. -/
theorem Polls.run (h : Polls s) (es : List (PollEvent R)) :
    ∃ t, Steps.exec pollStep s es = some t ∧ Polls t ∧
      t.counts = s.counts.run 4 (es.flatMap fun e => e.arrivals s.pipeline.server.alertWs) ∧
      PollKept s t := by
  induction es generalizing s with
  | nil => exact ⟨s, rfl, h, rfl, ⟨rfl, rfl, fun _ => List.prefix_rfl⟩⟩
  | cons e es ih =>
      obtain ⟨u, hu, hpolls, hcounts, hkept⟩ := h.step e
      obtain ⟨t, ht, hend, hrest, hmore⟩ := ih hpolls
      refine ⟨t, Steps.exec_cons_some.mpr ⟨u, hu, ht⟩, hend, ?_, ?_⟩
      · rw [hrest, hcounts, hkept.alertWs, List.flatMap_cons, Worker.run, Worker.run, Worker.run,
          List.foldl_append]
      · exact ⟨hmore.alertWs.trans hkept.alertWs, hmore.running.trans hkept.running,
          fun k => (hkept.order k).trans (hmore.order k)⟩

theorem counts_valid (s : ServerRun R) : s.counts.Valid 4 := by
  intro i hi
  rw [counts] at hi
  cases hpc : s.alertWs with
  | laser | vibration | prediction | dem =>
      simp only [hpc, pollPc] at hi
      cases hi
      decide
  | test | handle | exited => simp [hpc, pollPc] at hi

/-- What was at an input and has been taken since. -/
theorem served_of_counts {k : AlertInput} (hkept : PollKept s t)
    (hcount : s.counts.taken k.rank + s.counts.waiting k.rank ≤ t.counts.taken k.rank) :
    s.takenFrom k ++ s.waitingAt k <+: t.takenFrom k := by
  refine List.prefix_of_prefix_length_le (hkept.order k) (List.prefix_append _ _) ?_
  rw [List.length_append, ← counts_taken, ← counts_waiting, ← counts_taken]
  exact hcount

theorem count_work (a : AlertWsModule) (es : List (PollEvent R)) :
    (es.flatMap fun e => e.arrivals a).count .work = es.countP PollEvent.isWork := by
  induction es with
  | nil => rfl
  | cons e es ih =>
      rw [List.flatMap_cons, List.count_append, ih, List.countP_cons, Nat.add_comm]
      congr 1
      cases e with
      | work => rfl
      | push topic q msg =>
          refine List.count_eq_zero.mpr fun hmem => ?_
          obtain ⟨k, _, hk⟩ := List.mem_map.mp hmem
          cases hk

/-- The messages at an input are taken after so many moves of the worker, whatever
is pushed meanwhile to the inputs behind it. -/
theorem inputs_served (hpolls : Polls s) (k : AlertInput) (es : List (PollEvent R))
    (hmoves : (k.rank + 3) * (((AlertInput.all.take (k.rank + 1)).map fun j =>
        (s.waitingAt j).length).sum + arrivalsBefore k.rank
          (es.flatMap fun e => e.arrivals s.pipeline.server.alertWs)) + 5 ≤
      es.countP PollEvent.isWork) :
    ∃ t, Steps.exec pollStep s es = some t ∧ Polls t ∧
      s.takenFrom k ++ s.waitingAt k <+: t.takenFrom k := by
  obtain ⟨t, ht, hend, hcounts, hkept⟩ := hpolls.run es
  refine ⟨t, ht, hend, served_of_counts hkept ?_⟩
  have hsum : ∑ j ∈ Finset.range (k.rank + 1), s.counts.waiting j =
      ((AlertInput.all.take (k.rank + 1)).map fun j => (s.waitingAt j).length).sum := by
    cases k <;> simp [Finset.sum_range_succ, counts, perInput, AlertInput.all, AlertInput.rank,
      Nat.add_assoc]
  rw [hcounts]
  refine PriorityPolling.taken_of_works k.rank_lt s.counts_valid ?_
  rw [count_work, hsum]
  exact hmoves

/-- A reading of zeros. -/
def zeroReading : ParsedVibrationMessage ℚ :=
  ⟨⟨"", "", "", 0, []⟩, ⟨0, 0, 0, 0, .null, [], 0, 0, 0, 0, 0⟩⟩

/-- The wired server with one reading in the queue. -/
def oneReading : ServerRun ℚ :=
  (start zeroSite zeroMaterial "10.0.0.1").pushed .vibration vibrationQ zeroReading

theorem polls_oneReading : Polls oneReading :=
  ⟨rfl, fun h => by cases h⟩

/-- One reading is taken within nine moves. -/
theorem inputs_served_reading :
    ∃ t, Steps.exec pollStep oneReading (List.replicate 9 .work) = some t ∧ Polls t ∧
      oneReading.takenFrom .vibration ++ oneReading.waitingAt .vibration <+:
        t.takenFrom .vibration :=
  inputs_served polls_oneReading .vibration _ (le_of_eq rfl)

/-- Three moves for each laser message, and the worker takes nothing else. -/
theorem laser_starves (hpolls : Polls s) (hpc : s.alertWs = .test) {q : Nat}
    (hinput : s.pipeline.server.alertWs.laserIn = some q) (msg : ParsedLaserMessage R) (n : Nat) :
    ∃ es t, Steps.exec pollStep s es = some t ∧ es.countP PollEvent.isWork = 3 * n ∧
      (t.takenFrom .laser).length = (s.takenFrom .laser).length + n ∧
      ∀ k, k ≠ .laser → t.takenFrom k = s.takenFrom k := by
  let turn : List (PollEvent R) := [.push .laser q msg, .work, .work, .work]
  let arrivals : PollEvent R → List PriorityPolling.Event :=
    fun e => e.arrivals s.pipeline.server.alertWs
  have hturn : turn.flatMap arrivals = PriorityPolling.firstRound := by
    have hpush : arrivals (.push .laser q msg) = [.arrive 0] := arrivals_self (k := .laser) hinput
    simp only [turn, List.flatMap_cons, hpush]
    rfl
  have harrivals : ∀ n, (List.replicate n turn).flatten.flatMap arrivals =
      (List.replicate n PriorityPolling.firstRound).flatten := by
    intro n
    induction n with
    | zero => rfl
    | succ n ih =>
        simp only [List.replicate_succ, List.flatten_cons, List.flatMap_append, hturn, ih]
  have hworks : ∀ n, (List.replicate n turn).flatten.countP PollEvent.isWork = 3 * n := by
    intro n
    induction n with
    | zero => rfl
    | succ n ih =>
        have hthree : turn.countP PollEvent.isWork = 3 := rfl
        rw [List.replicate_succ, List.flatten_cons, List.countP_append, ih, hthree]
        omega
  obtain ⟨t, ht, -, hcounts, hkept⟩ := hpolls.run (List.replicate n turn).flatten
  have hstart : s.counts.pc = .test := by
    rw [counts, hpc]
    rfl
  rw [harrivals, PriorityPolling.starves hstart] at hcounts
  refine ⟨_, t, ht, hworks n, ?_, fun k hk => ?_⟩
  · rw [← counts_taken, ← counts_taken, hcounts]
    simp [AlertInput.rank]
  · have hsame : (t.takenFrom k).length = (s.takenFrom k).length := by
      have hrank : k.rank ≠ 0 := fun h => hk (AlertInput.rank_injective h)
      rw [← counts_taken, ← counts_taken, hcounts]
      exact Function.update_of_ne hrank _ _
    have hfirst : s.takenFrom k <+: t.takenFrom k ++ t.waitingAt k :=
      (List.prefix_append _ _).trans (hkept.order k)
    exact ((List.prefix_of_prefix_length_le hfirst (List.prefix_append _ _) hsame.ge).eq_of_length
      hsame.symm).symm

/-- A scan of nothing. -/
def zeroScan : ParsedLaserMessage ℚ :=
  ⟨⟨"", "", "", 0, []⟩, ⟨0, 0, 0, 0, (0, 0, 0, 0), 0, false, 0, [], .null⟩⟩

/-- The reading is still there after a thousand laser messages. -/
theorem laser_starves_reading :
    ∃ es t, Steps.exec pollStep oneReading es = some t ∧
      es.countP PollEvent.isWork = 3 * 1000 ∧
      (t.takenFrom .laser).length = (oneReading.takenFrom .laser).length + 1000 ∧
      ∀ k, k ≠ .laser → t.takenFrom k = oneReading.takenFrom k :=
  laser_starves polls_oneReading rfl rfl zeroScan 1000

/-! ## The wired server -/

section Wired

variable [Field R] [LinearOrder R] {site : Site R} {unset : RepairMaterial R}
  {e : ServerEvent R}

omit [LinearOrder R] in
theorem RunInv.waitingAt_vibration (hi : RunInv unset s) :
    s.waitingAt .vibration = s.waiting := by
  have hinput : s.pipeline.server.alertWs.input .vibration = some vibrationQ := by
    rw [hi.server]
    rfl
  rw [waitingAt, hinput]
  rfl

omit [LinearOrder R] in
theorem RunInv.waitingAt_nil (hi : RunInv unset s) {k : AlertInput} (hk : k ≠ .vibration) :
    s.waitingAt k = [] := by
  have htopic : k.topic ≠ .vibration := by
    intro h
    have hsame : k.topic = AlertInput.vibration.topic := h
    exact hk (AlertInput.topic_injective hsame)
  rw [waitingAt]
  split
  · rfl
  · exact hi.queues k.topic _ htopic

omit [LinearOrder R] in
/-- A worker of the wired server is one whose other inputs are empty. -/
theorem RunInv.pollTurn (hi : RunInv unset s) (hrunning : s.alertWsRunning = true)
    (hst : WorkerTurn s t) : PollTurn s t := by
  cases hst with
  | test hpc =>
      have hnext : (if s.alertWsRunning then AlertWsPc.laser else .exited) =
          (.laser : AlertWsPc R) := if_pos hrunning
      rw [hnext]
      exact .test hpc
  | skip hpc =>
      rcases hpc with ⟨hpc, rfl⟩ | ⟨hpc, rfl⟩ | ⟨hpc, rfl⟩
      · exact .empty .laser hpc (hi.waitingAt_nil (by decide))
      · exact .empty .prediction hpc (hi.waitingAt_nil (by decide))
      · exact .empty .dem hpc (hi.waitingAt_nil (by decide))
  | none hpc hwaiting => exact .empty .vibration hpc (hi.waitingAt_vibration.trans hwaiting)
  | @take msg rest hpc hwaiting =>
      have hinput : s.pipeline.server.alertWs.input .vibration = some vibrationQ := by
        rw [hi.server]
        rfl
      exact .take .vibration hpc hinput (hi.waitingAt_vibration.trans hwaiting)
  | handled hpc => exact .handled hpc

omit [LinearOrder R] in
/-- What does not concern the worker only lets vibrations arrive. -/
theorem RunInv.counts_aside (hi : RunInv unset s) (ht : RunInv unset t) (h : Aside s t)
    (hcalls : s.vibrationCalls <+: t.vibrationCalls) :
    ∃ n, t.counts = s.counts.run 4 (List.replicate n (.arrive 1)) := by
  obtain ⟨new, hnew⟩ := hcalls
  have hwaiting : t.waiting = s.waiting ++ new := by
    rw [← hi.fifo, ← ht.fifo, h.received, List.append_assoc] at hnew
    exact (List.append_cancel_left hnew).symm
  have hother : ∀ k, k ≠ AlertInput.vibration →
      (t.waitingAt k).length = (s.waitingAt k).length := by
    intro k hk
    rw [hi.waitingAt_nil hk, ht.waitingAt_nil hk]
  have hrun : ∀ (n : Nat) (w : Worker), w.run 4 (List.replicate n (.arrive 1)) =
      { w with waiting := Function.update w.waiting 1 (w.waiting 1 + n) } := by
    intro n
    induction n with
    | zero => intro w; simp [Worker.run]
    | succ n ih =>
        intro w
        rw [List.replicate_succ, Worker.run, List.foldl_cons]
        refine (ih _).trans ?_
        simp only [Worker.step, Function.update_self, Function.update_idem, Nat.add_assoc,
          Nat.add_comm 1 n]
  refine ⟨new.length, ?_⟩
  have hlength : (t.waitingAt .vibration).length =
      (s.waitingAt .vibration).length + new.length := by
    rw [hi.waitingAt_vibration, ht.waitingAt_vibration, hwaiting]
    exact List.length_append
  have hwait : perInput (fun k => (t.waitingAt k).length) =
      Function.update s.counts.waiting 1 (s.counts.waiting 1 + new.length) := by
    rw [perInput_update hother, hlength, ← counts_waiting]
    rfl
  have htaken : perInput (fun k => (t.takenFrom k).length) = s.counts.taken := by
    simp only [counts, takenFrom, h.received]
  rw [hrun, counts, hwait, htaken, h.alertWs]
  rfl

/-- The events of `PriorityPolling` behind a step of the server. -/
theorem RunInv.counts_step (hi : RunInv unset s) (hst : ServerRun.step site s e = some t)
    (hrunning : t.alertWsRunning = true) : ∃ events : List PriorityPolling.Event,
      t.counts = s.counts.run 4 events ∧ arrivalsBefore 1 events = 0 ∧
      (e = .alertWs → events.count .work = 1) := by
  have hs : s.alertWsRunning = true := by
    by_contra hclear
    rw [(hi.covered_iff (by simpa using hclear) hst).1] at hrunning
    cases hrunning
  have hwork : WorkerTurn s t → ∃ events : List PriorityPolling.Event,
      t.counts = s.counts.run 4 events ∧ arrivalsBefore 1 events = 0 ∧
      (e = .alertWs → events.count .work = 1) :=
    fun hturn => ⟨[.work], (hi.pollTurn hs hturn).counts_eq, rfl, fun _ => rfl⟩
  obtain ⟨ht, haside | hturn | ⟨rfl, rest, _, rfl⟩⟩ := hi.step hst
  · by_cases he : e = .alertWs
    · subst he
      refine hwork (hi.workerTurn ?_)
      unfold ServerRun.step at hst
      split at hst
      · cases hst
      · exact hst
    · obtain ⟨n, hn⟩ := hi.counts_aside ht haside (step_vibrationCalls hst)
      refine ⟨_, hn, ?_, fun h => absurd h he⟩
      rw [arrivalsBefore, List.countP_replicate]
      rfl
  · exact hwork hturn
  · cases hrunning

/-- The flag of the worker is clear, and stays so. -/
structure Cleared (unset : RepairMaterial R) (s : ServerRun R) : Prop where
  inv : RunInv unset s
  running : s.alertWsRunning = false

theorem Cleared.step (h : Cleared unset s) (hst : ServerRun.step site s e = some t) :
    Cleared unset t :=
  ⟨(h.inv.step hst).1, (h.inv.covered_iff h.running hst).1⟩

/-- The events behind a run, as long as the worker has not been stopped. -/
theorem RunInv.counts_run (hi : RunInv unset s) {es : List (ServerEvent R)}
    (hst : Steps.exec (ServerRun.step site) s es = some t) (hrunning : t.alertWsRunning = true) :
    RunInv unset t ∧ s.vibrationCalls <+: t.vibrationCalls ∧
    ∃ events : List PriorityPolling.Event,
      t.counts = s.counts.run 4 events ∧ arrivalsBefore 1 events = 0 ∧
      es.countP ServerEvent.isAlertWs ≤ events.count .work := by
  induction es generalizing s with
  | nil =>
      cases hst
      exact ⟨hi, List.prefix_rfl, [], rfl, rfl, le_rfl⟩
  | cons e es ih =>
      obtain ⟨u, hu, hrest⟩ := Steps.exec_cons_some.mp hst
      have hui := (hi.step hu).1
      obtain ⟨ht, hcalls, later, hlater, hnone, hcount⟩ := ih hui hrest
      have hurunning : u.alertWsRunning = true := by
        by_contra hclear
        have hcleared : Cleared unset t := Steps.exec_invariant (fun _ _ _ h hst => h.step hst)
          ⟨hui, by simpa using hclear⟩ hrest
        rw [hcleared.running] at hrunning
        cases hrunning
      obtain ⟨first, hfirst, hnone', hcount'⟩ := hi.counts_step hu hurunning
      refine ⟨ht, (step_vibrationCalls hu).trans hcalls, first ++ later, ?_, ?_, ?_⟩
      · rw [hlater, hfirst, Worker.run, Worker.run, Worker.run, List.foldl_append]
      · rw [arrivalsBefore, List.countP_append]
        exact Nat.add_eq_zero_iff.mpr ⟨hnone', hnone⟩
      · rw [List.countP_cons, List.count_append]
        split
        · next halert =>
            have hone : first.count .work = 1 := by
              cases e <;> first | exact hcount' rfl | cases halert
            omega
        · omega

/-- In the running server a vibration message that has been queued is taken within
a number of moves of the worker that depends on the messages before it only,
whatever the other threads do meanwhile. -/
theorem vibrations_served (site : Site R) (unset : RepairMaterial R) (localIp : String)
    {before es : List (ServerEvent R)}
    (hbefore : Steps.exec (step site) (start site unset localIp) before = some s)
    (hst : Steps.exec (step site) s es = some t) (hrunning : t.alertWsRunning = true)
    (hmoves : 4 * s.waiting.length + 5 ≤ es.countP ServerEvent.isAlertWs) :
    s.pipeline.received.vibration ++ s.waiting <+: t.pipeline.received.vibration := by
  have hi : RunInv unset s := Steps.exec_invariant (fun _ _ _ h hst => (h.step hst).1)
    (.start site unset localIp) hbefore
  obtain ⟨ht, hcalls, events, hcounts, hnone, hcount⟩ := hi.counts_run hst hrunning
  have hlaser : s.counts.waiting 0 = 0 := by
    refine (s.counts_waiting .laser).trans ?_
    rw [hi.waitingAt_nil (by decide)]
    rfl
  have hvibration : s.counts.waiting 1 = s.waiting.length := by
    refine (s.counts_waiting .vibration).trans ?_
    rw [hi.waitingAt_vibration]
    rfl
  have htaken : s.counts.taken 1 + s.counts.waiting 1 ≤ t.counts.taken 1 := by
    rw [hcounts]
    refine PriorityPolling.taken_of_works (by decide) s.counts_valid ?_
    rw [hnone, Finset.sum_range_succ, Finset.sum_range_one, hlaser, hvibration]
    omega
  have hlength : s.pipeline.received.vibration.length + s.waiting.length ≤
      t.pipeline.received.vibration.length := by
    have hs : s.counts.taken 1 = s.pipeline.received.vibration.length := s.counts_taken .vibration
    have ht' : t.counts.taken 1 = t.pipeline.received.vibration.length := t.counts_taken .vibration
    rw [← hs, ← hvibration, ← ht']
    exact htaken
  refine List.prefix_of_prefix_length_le (hi.fifo ▸ hcalls) ?_ ?_
  · rw [← ht.fifo]
    exact List.prefix_append _ _
  · rw [List.length_append]
    exact hlength

end Wired

/-- The reading of a frame that has been acknowledged. -/
theorem vibrations_served_frame :
    ∃ s t, Steps.exec (step zeroSite) (start zeroSite zeroMaterial "10.0.0.1")
        (arrival ++ acknowledgment) = some s ∧
      Steps.exec (step zeroSite) s (List.replicate 9 .alertWs) = some t ∧
      s.pipeline.received.vibration ++ s.waiting <+: t.pipeline.received.vibration := by
  obtain ⟨s, t, hs, ht, hrunning, hwaiting⟩ : ∃ s t,
      Steps.exec (step zeroSite) framed acknowledgment = some s ∧
      Steps.exec (step zeroSite) s (List.replicate 9 .alertWs) = some t ∧
      t.alertWsRunning = true ∧ s.waiting.length = 1 := ⟨_, _, rfl, rfl, rfl, rfl⟩
  rw [← exec_arrival] at hs
  exact ⟨s, t, hs, ht, vibrations_served zeroSite zeroMaterial "10.0.0.1" hs ht hrunning
    (by rw [hwaiting]; decide)⟩

end ServerRun

end PorcelainMonitor.Modules
