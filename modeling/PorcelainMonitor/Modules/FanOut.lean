import Mathlib.Data.List.Basic
import PorcelainMonitor.Lib.Steps
import PorcelainMonitor.Modules.Module

/-!
# Fan-out

A `FanOutModule` pushes each message that its loop takes from the input to the primary
output and then to the extra outputs, one queue after the other.  Meanwhile producers go
on pushing to the input and consumers popping the outputs, so that a message may have
gone from one output before it reaches the next.

The queues are first in, first out, and a message is of any type.  Branch `i` is place
`i` of `outputs`; two branches may share a queue.  The history is what was done so far,
and no step looks at it.  `Accounted` ties it to the queues, and `producedBy` and `consumed`
tie it to the run.
-/

namespace PorcelainMonitor.Modules

open Steps

section FanOut

variable {T : Type} {t : Topic}

/-! ## The running module -/

/-- The outputs in the order in which `process` serves them. -/
def FanOutModule.outputs (f : FanOutModule t) : List (SharedQueue t) :=
  f.output :: f.extraOutputs

inductive FanOutAction (T : Type) where
  | produced (q : Nat) (msg : T)
  | taken (q : Nat) (msg : T)
  | pushed (branch q : Nat) (msg : T)
  | popped (q : Nat) (msg : T)
deriving DecidableEq, Repr

/-- Where the loop is: before the next `try_pop`, or in `process`, where it serves this
branch next or, behind the last one, returns. -/
inductive FanOutStage (T : Type) where
  | waiting
  | processing (msg : T) (branch : Nat)
deriving DecidableEq, Repr

structure FanOutRun (T : Type) where
  queues : Nat → List T
  running : Bool
  stage : FanOutStage T
  processed : Nat
  history : List (FanOutAction T)

inductive FanOutEvent (T : Type) where
  | start
  | stop
  | produce (msg : T)
  /-- The thread of `run_loop` goes on to its next access to a queue or to the count. -/
  | loop
  | consume (branch : Nat)
deriving DecidableEq, Repr

namespace FanOutRun

/-- Before `start`; the queues may hold anything. -/
def new (queues : Nat → List T) : FanOutRun T := ⟨queues, false, .waiting, 0, []⟩

section Steps

variable (f : FanOutModule t) (s : FanOutRun T)

def push (q : Nat) (msg : T) (action : FanOutAction T) : FanOutRun T :=
  { s with
    queues := Function.update s.queues q (s.queues q ++ [msg])
    history := s.history ++ [action] }

def pop (q : Nat) (rest : List T) (action : FanOutAction T) : FanOutRun T :=
  { s with
    queues := Function.update s.queues q rest
    history := s.history ++ [action] }

def start : Option (FanOutRun T) :=
  match s.running, s.stage with
  | true, _ => some s
  | false, .waiting => some { s with running := true }
  -- `stop` has not returned
  | false, .processing _ _ => none

def loop : Option (FanOutRun T) :=
  match s.stage with
  | .waiting =>
      if s.running then
        match f.input with
        | none => some s
        | some q =>
            match s.queues q with
            | [] => some s
            | msg :: rest =>
                some { s.pop q rest (.taken q msg) with stage := .processing msg 0 }
      else none
  | .processing msg branch =>
      match f.outputs[branch]? with
      | some (some q) =>
          some { s.push q msg (.pushed branch q msg) with stage := .processing msg (branch + 1) }
      | some none => some { s with stage := .processing msg (branch + 1) }
      -- `process` has returned
      | none => some { s with stage := .waiting, processed := s.processed + 1 }

def consume (branch : Nat) : Option (FanOutRun T) :=
  match f.outputs[branch]? with
  | some (some q) =>
      match s.queues q with
      | [] => some s
      | msg :: rest => some (s.pop q rest (.popped q msg))
  | _ => none

def step : FanOutEvent T → Option (FanOutRun T)
  | .start => s.start
  | .stop => some { s with running := false }
  | .produce msg => f.input.map fun q => s.push q msg (.produced q msg)
  | .loop => s.loop f
  | .consume branch => s.consume f branch

end Steps

/-! ## What was done -/

section History

variable (s : FanOutRun T)

/-- The messages that the loop has taken from the input. -/
def taken : List T :=
  s.history.filterMap fun
    | .taken _ msg => some msg
    | _ => none

/-- The messages that were ever pushed to a branch. -/
def pushedTo (i : Nat) : List T :=
  s.history.filterMap fun
    | .pushed branch _ msg => if branch = i then some msg else none
    | _ => none

/-- The message in progress, if the branch is still to be served. -/
def unserved (i : Nat) : List T :=
  match s.stage with
  | .waiting => []
  | .processing msg branch => if branch ≤ i then [msg] else []

/-- 1 between the last push of a message and its count. -/
def uncounted (f : FanOutModule t) : Nat :=
  match s.stage with
  | .waiting => 0
  | .processing _ branch => if branch < f.outputs.length then 0 else 1

end History

/-! ## The invariant -/

/-- The messages `before` are through; the one in progress is at the branches before
`branch`. -/
inductive Inv (f : FanOutModule t) (s : FanOutRun T) : Prop where
  | waiting (stage : s.stage = .waiting) (processed : s.processed = s.taken.length)
      (branches : ∀ i q, f.outputs[i]? = some (some q) → s.pushedTo i = s.taken)
  | processing (msg : T) (branch : Nat) (before : List T)
      (stage : s.stage = .processing msg branch) (bound : branch ≤ f.outputs.length)
      (taken : s.taken = before ++ [msg]) (processed : s.processed = before.length)
      (served : ∀ i q, f.outputs[i]? = some (some q) → i < branch → s.pushedTo i = s.taken)
      (unserved : ∀ i q, f.outputs[i]? = some (some q) → branch ≤ i → s.pushedTo i = before)

variable {f : FanOutModule t} {s s' : FanOutRun T} {msg : T} {branch q i : Nat} {rest : List T}

/-! ## What a step does -/

/-- What the thread of `run_loop` can do next. -/
inductive Moves (f : FanOutModule t) (s : FanOutRun T) : FanOutRun T → Prop where
  | idle : Moves f s s
  | takes {q : Nat} {msg : T} {rest : List T} (stage : s.stage = .waiting)
      (input : f.input = some q) (queue : s.queues q = msg :: rest) :
      Moves f s { s.pop q rest (.taken q msg) with stage := .processing msg 0 }
  | serves {msg : T} {branch q : Nat} (stage : s.stage = .processing msg branch)
      (out : f.outputs[branch]? = some (some q)) :
      Moves f s
        { s.push q msg (.pushed branch q msg) with stage := .processing msg (branch + 1) }
  | skips {msg : T} {branch : Nat} (stage : s.stage = .processing msg branch)
      (out : f.outputs[branch]? = some none) :
      Moves f s { s with stage := .processing msg (branch + 1) }
  | counts {msg : T} {branch : Nat} (stage : s.stage = .processing msg branch)
      (out : f.outputs[branch]? = none) :
      Moves f s { s with stage := .waiting, processed := s.processed + 1 }

theorem moves_of_loop (h : s.loop f = some s') : Moves f s s' := by
  unfold loop at h
  split at h
  next hstage =>
    split at h
    next hrunning =>
      split at h
      next => cases h; exact .idle
      next q hinput =>
        split at h
        next => cases h; exact .idle
        next msg rest hq => cases h; exact .takes hstage hinput hq
    next => cases h
  next msg branch hstage =>
    split at h
    next q hout => cases h; exact .serves hstage hout
    next hout => cases h; exact .skips hstage hout
    next hout => cases h; exact .counts hstage hout

theorem start_eq (h : s.start = some s') : s' = { s with running := true } := by
  unfold start at h
  split at h
  next hrunning =>
    cases h
    rw [← hrunning]
  next => cases h; rfl
  next => cases h

theorem consume_cases (h : s.consume f branch = some s') :
    ∃ q, f.outputs[branch]? = some (some q) ∧ (s.queues q = [] ∧ s' = s ∨
      ∃ msg rest, s.queues q = msg :: rest ∧ s' = s.pop q rest (.popped q msg)) := by
  unfold consume at h
  split at h
  next q hout =>
    split at h
    next hq => cases h; exact ⟨q, hout, .inl ⟨hq, rfl⟩⟩
    next msg rest hq => cases h; exact ⟨q, hout, .inr ⟨msg, rest, hq, rfl⟩⟩
  next => cases h

/-! ## Every step keeps the invariant -/

theorem Inv.new (queues : Nat → List T) : Inv f (new queues) := .waiting rfl rfl fun _ _ _ => rfl

/-- It is about the stage, the count and what was taken and pushed. -/
theorem Inv.frame (h : Inv f s) (hstage : s'.stage = s.stage)
    (hprocessed : s'.processed = s.processed) (htaken : s'.taken = s.taken)
    (hpushed : ∀ i, s'.pushedTo i = s.pushedTo i) : Inv f s' := by
  cases h with
  | waiting stage processed branches =>
      refine .waiting (hstage.trans stage) ?_ fun i q hi => ?_
      · rw [hprocessed, htaken, processed]
      · rw [hpushed, htaken, branches i q hi]
  | processing msg branch before stage bound taken processed served unserved =>
      refine .processing msg branch before (hstage.trans stage) bound (htaken.trans taken)
        (hprocessed.trans processed) (fun i q hi hlt => ?_) fun i q hi hle => ?_
      · rw [hpushed, htaken, served i q hi hlt]
      · rw [hpushed, unserved i q hi hle]

theorem taken_pop_taken (rest : List T) :
    (s.pop q rest (.taken q msg)).taken = s.taken ++ [msg] := by
  simp [taken, pop]

theorem pushedTo_pop_taken (rest : List T) :
    (s.pop q rest (.taken q msg)).pushedTo i = s.pushedTo i := by
  simp [pushedTo, pop]

theorem Inv.take (h : Inv f s) (hstage : s.stage = .waiting) :
    Inv f { s.pop q rest (.taken q msg) with stage := .processing msg 0 } := by
  cases h with
  | processing _ _ _ stage => exact absurd (hstage.symm.trans stage) nofun
  | waiting stage processed branches =>
      have htaken : (s.pop q rest (.taken q msg)).taken = s.taken ++ [msg] :=
        taken_pop_taken rest
      exact .processing msg 0 s.taken rfl (Nat.zero_le _) htaken processed
        (fun _ _ _ hlt => absurd hlt (Nat.not_lt_zero _))
        fun i q' hi _ => (pushedTo_pop_taken rest).trans (branches i q' hi)

theorem taken_push_pushed : (s.push q msg (.pushed branch q msg)).taken = s.taken := by
  simp [taken, push]

theorem pushedTo_push_self :
    (s.push q msg (.pushed branch q msg)).pushedTo branch = s.pushedTo branch ++ [msg] := by
  simp [pushedTo, push]

theorem pushedTo_push_of_ne (h : branch ≠ i) :
    (s.push q msg (.pushed branch q msg)).pushedTo i = s.pushedTo i := by
  simp [pushedTo, push, h]

theorem Inv.serve (h : Inv f s) (hstage : s.stage = .processing msg branch)
    (hout : f.outputs[branch]? = some (some q)) :
    Inv f { s.push q msg (.pushed branch q msg) with stage := .processing msg (branch + 1) } := by
  cases h with
  | waiting stage => exact absurd (hstage.symm.trans stage) nofun
  | processing msg' branch' before stage bound taken processed served unserved =>
      cases hstage.symm.trans stage
      refine .processing msg (branch + 1) before rfl (List.getElem?_eq_some_iff.mp hout).1
        (taken_push_pushed.trans taken) processed (fun i q' hi hlt => ?_) fun i q' hi hle => ?_
      · by_cases hself : branch = i
        · subst hself
          exact (pushedTo_push_self.trans (by rw [unserved branch q' hi (Nat.le_refl _)])).trans
            (taken_push_pushed.trans taken).symm
        · exact (pushedTo_push_of_ne hself).trans
            ((served i q' hi (by omega)).trans taken_push_pushed.symm)
      · exact (pushedTo_push_of_ne (by omega)).trans (unserved i q' hi (by omega))

/-- A null output is passed over. -/
theorem Inv.skip (h : Inv f s) (hstage : s.stage = .processing msg branch)
    (hout : f.outputs[branch]? = some none) :
    Inv f { s with stage := .processing msg (branch + 1) } := by
  cases h with
  | waiting stage => exact absurd (hstage.symm.trans stage) nofun
  | processing msg' branch' before stage bound taken processed served unserved =>
      cases hstage.symm.trans stage
      refine .processing msg (branch + 1) before rfl (List.getElem?_eq_some_iff.mp hout).1 taken
        processed (fun i q' hi hlt => ?_) fun i q' hi hle => unserved i q' hi (by omega)
      have hne : i ≠ branch := by
        rintro rfl
        cases hi.symm.trans hout
      exact served i q' hi (by omega)

theorem Inv.count (h : Inv f s) (hstage : s.stage = .processing msg branch)
    (hout : f.outputs[branch]? = none) :
    Inv f { s with stage := .waiting, processed := s.processed + 1 } := by
  cases h with
  | waiting stage => exact absurd (hstage.symm.trans stage) nofun
  | processing msg' branch' before stage bound taken processed served unserved =>
      cases hstage.symm.trans stage
      refine .waiting rfl ?_ fun i q' hi => ?_
      · show s.processed + 1 = s.taken.length
        rw [processed, taken, List.length_append, List.length_singleton]
      · have hi' := (List.getElem?_eq_some_iff.mp hi).1
        have hend := List.getElem?_eq_none_iff.mp hout
        exact served i q' hi (by omega)

theorem Inv.loop (h : Inv f s) (hst : s.loop f = some s') : Inv f s' := by
  cases moves_of_loop hst with
  | idle => exact h
  | takes stage input queue => exact h.take stage
  | serves stage out => exact h.serve stage out
  | skips stage out => exact h.skip stage out
  | counts stage out => exact h.count stage out

theorem Inv.consume (h : Inv f s) (hst : s.consume f branch = some s') : Inv f s' := by
  obtain ⟨q, -, ⟨-, rfl⟩ | ⟨msg, rest, -, rfl⟩⟩ := consume_cases hst
  · exact h
  · exact h.frame rfl rfl (by simp [taken, pop]) fun i => by simp [pushedTo, pop]

theorem Inv.step {e : FanOutEvent T} (h : Inv f s) (hst : step f s e = some s') : Inv f s' := by
  cases e with
  | start =>
      rw [start_eq hst]
      exact h.frame rfl rfl rfl fun _ => rfl
  | stop =>
      cases hst
      exact h.frame rfl rfl rfl fun _ => rfl
  | produce msg =>
      obtain ⟨q, _, rfl⟩ := Option.map_eq_some_iff.mp hst
      exact h.frame rfl rfl (by simp [taken, push]) fun i => by simp [pushedTo, push]
  | loop => exact h.loop hst
  | consume branch => exact h.consume hst

/-! ## What the invariant says -/

theorem exists_queue (hout : ∀ out ∈ f.outputs, out.isSome) (hi : i < f.outputs.length) :
    ∃ q, f.outputs[i]? = some (some q) := by
  obtain ⟨q, hq⟩ := Option.isSome_iff_exists.mp (hout _ (List.getElem_mem hi))
  exact ⟨q, by rw [List.getElem?_eq_getElem hi, hq]⟩

/-- A branch lacks at most the message in progress. -/
theorem Inv.received (h : Inv f s) (hi : f.outputs[i]? = some (some q)) :
    s.pushedTo i ++ s.unserved i = s.taken := by
  cases h with
  | waiting stage processed branches => simp [FanOutRun.unserved, stage, branches i q hi]
  | processing msg branch before stage bound taken processed served unserved =>
      by_cases hle : branch ≤ i
      · simp [FanOutRun.unserved, stage, hle, unserved i q hi hle, taken]
      · simp [FanOutRun.unserved, stage, hle, served i q hi (Nat.not_le.mp hle)]

/-- No branch is behind the count. -/
theorem Inv.counted_le (h : Inv f s) (hi : f.outputs[i]? = some (some q)) :
    s.processed + s.uncounted f ≤ (s.pushedTo i).length := by
  cases h with
  | waiting stage processed branches =>
      rw [uncounted, stage, branches i q hi, processed]
      exact Nat.le_refl _
  | processing msg branch before stage bound taken processed served unserved =>
      rw [uncounted, stage, processed]
      by_cases hle : branch ≤ i
      · have hlt : branch < f.outputs.length :=
          Nat.lt_of_le_of_lt hle (List.getElem?_eq_some_iff.mp hi).1
        simp [hlt, unserved i q hi hle]
      · rw [served i q hi (Nat.not_le.mp hle), taken, List.length_append, List.length_singleton]
        by_cases hlt : branch < f.outputs.length
        · simp [hlt]
        · simp [hlt]

/-- Some branch is not ahead of it: the one that is served next, or any between two
messages. -/
theorem Inv.exists_counted (h : Inv f s) (hout : ∀ out ∈ f.outputs, out.isSome) :
    ∃ i < f.outputs.length, (s.pushedTo i).length = s.processed + s.uncounted f := by
  have hpos : 0 < f.outputs.length := Nat.zero_lt_succ _
  cases h with
  | waiting stage processed branches =>
      obtain ⟨q, hq⟩ := exists_queue hout hpos
      refine ⟨0, hpos, ?_⟩
      rw [uncounted, stage, branches 0 q hq, processed]
      rfl
  | processing msg branch before stage bound taken processed served unserved =>
      by_cases hlt : branch < f.outputs.length
      · obtain ⟨q, hq⟩ := exists_queue hout hlt
        refine ⟨branch, hlt, ?_⟩
        simp [uncounted, stage, hlt, unserved branch q hq (Nat.le_refl _), processed]
      · obtain ⟨q, hq⟩ := exists_queue hout hpos
        refine ⟨0, hpos, ?_⟩
        simp [uncounted, stage, hlt, served 0 q hq (by omega), taken, processed]

theorem Inv.processed_iff (h : Inv f s) (hout : ∀ out ∈ f.outputs, out.isSome) (n : Nat) :
    n < s.processed + s.uncounted f ↔ ∀ i < f.outputs.length, n < (s.pushedTo i).length := by
  constructor
  · intro hn i hi
    obtain ⟨q, hq⟩ := exists_queue hout hi
    exact hn.trans_le (h.counted_le hq)
  · intro hn
    obtain ⟨i, hi, hlen⟩ := h.exists_counted hout
    exact hlen ▸ hn i hi

/-! ## The queues -/

section History

variable (s : FanOutRun T) (q : Nat)

/-- What was ever pushed to a queue, and what was ever popped from it. -/
def entered : List T :=
  s.history.filterMap fun
    | .produced p msg | .pushed _ p msg => if p = q then some msg else none
    | _ => none

def left : List T :=
  s.history.filterMap fun
    | .taken p msg | .popped p msg => if p = q then some msg else none
    | _ => none

end History

/-- The messages that the producers have pushed to the input. -/
def producedBy (es : List (FanOutEvent T)) : List T :=
  es.filterMap fun
    | .produce msg => some msg
    | _ => none

/-- What a step hands to a consumer of a queue. -/
def handed (f : FanOutModule t) (q : Nat) (s : FanOutRun T) : FanOutEvent T → List T
  | .consume branch =>
      if f.outputs[branch]? = some (some q) then (s.queues q).head?.toList else []
  | _ => []

/-- The messages that the consumers of a queue get in a run, in order. -/
def consumed (f : FanOutModule t) (q : Nat) (s : FanOutRun T) : List (FanOutEvent T) → List T
  | [] => []
  | e :: es =>
      match step f s e with
      | none => []
      | some s' => s.handed f q e ++ consumed f q s' es

/-- The references by which a queue is reached. -/
def Reached (f : FanOutModule t) : FanOutAction T → Prop
  | .produced q _ => f.input = some q
  | .pushed branch q _ => f.outputs[branch]? = some (some q)
  | .taken q _ => f.input = some q
  | .popped q _ => ∃ branch : Nat, f.outputs[branch]? = some (some q)

/-- What has entered a queue has left it or is still there. -/
structure Accounted (f : FanOutModule t) (queues : Nat → List T) (s : FanOutRun T) : Prop where
  fifo : ∀ q, queues q ++ s.entered q = s.left q ++ s.queues q
  reached : ∀ action ∈ s.history, Reached f action

variable {queues : Nat → List T} {action : FanOutAction T}

theorem Accounted.push (h : Accounted f queues s) (haction : Reached f action)
    (hentered : ∀ p, (s.push q msg action).entered p =
      s.entered p ++ if q = p then [msg] else [])
    (hleft : ∀ p, (s.push q msg action).left p = s.left p) :
    Accounted f queues (s.push q msg action) where
  fifo p := by
    rw [hentered, hleft, ← List.append_assoc, h.fifo, FanOutRun.push, List.append_assoc]
    by_cases hp : q = p
    · subst hp
      simp
    · simp [hp, Function.update_of_ne (Ne.symm hp)]
  reached a ha := by
    rcases List.mem_append.mp ha with hold | hnew
    · exact h.reached a hold
    · rwa [List.mem_singleton.mp hnew]

theorem Accounted.pop (h : Accounted f queues s) (hq : s.queues q = msg :: rest)
    (haction : Reached f action) (hentered : ∀ p, (s.pop q rest action).entered p = s.entered p)
    (hleft : ∀ p, (s.pop q rest action).left p = s.left p ++ if q = p then [msg] else []) :
    Accounted f queues (s.pop q rest action) where
  fifo p := by
    rw [hentered, hleft, h.fifo, FanOutRun.pop, List.append_assoc]
    by_cases hp : q = p
    · subst hp
      simp [hq]
    · simp [hp, Function.update_of_ne (Ne.symm hp)]
  reached a ha := by
    rcases List.mem_append.mp ha with hold | hnew
    · exact h.reached a hold
    · rwa [List.mem_singleton.mp hnew]

theorem Accounted.loop (h : Accounted f queues s) (hst : s.loop f = some s') :
    Accounted f queues s' := by
  cases moves_of_loop hst with
  | idle => exact h
  | @takes q msg rest stage input queue =>
      have hpop : Accounted f queues (s.pop q rest (.taken q msg)) :=
        h.pop queue input (fun p => by simp [entered, FanOutRun.pop]) fun p => by
          by_cases hp : q = p <;> simp [left, FanOutRun.pop, hp]
      exact { hpop with }
  | @serves msg branch q stage out =>
      have hpush : Accounted f queues (s.push q msg (.pushed branch q msg)) :=
        h.push out (fun p => by by_cases hp : q = p <;> simp [entered, FanOutRun.push, hp])
          fun p => by simp [left, FanOutRun.push]
      exact { hpush with }
  | skips stage out => exact { h with }
  | counts stage out => exact { h with }

theorem Accounted.consume (h : Accounted f queues s) (hst : s.consume f branch = some s') :
    Accounted f queues s' := by
  obtain ⟨q, hout, ⟨-, rfl⟩ | ⟨msg, rest, hq, rfl⟩⟩ := consume_cases hst
  · exact h
  · exact h.pop hq ⟨branch, hout⟩ (fun p => by simp [entered, FanOutRun.pop]) fun p => by
      by_cases hp : q = p <;> simp [left, FanOutRun.pop, hp]

theorem Accounted.step {e : FanOutEvent T} (h : Accounted f queues s)
    (hst : step f s e = some s') : Accounted f queues s' := by
  cases e with
  | start =>
      rw [start_eq hst]
      exact { h with }
  | stop =>
      cases hst
      exact { h with }
  | produce msg =>
      obtain ⟨q, hinput, rfl⟩ := Option.map_eq_some_iff.mp hst
      exact h.push hinput (fun p => by by_cases hp : q = p <;> simp [entered, FanOutRun.push, hp])
        fun p => by simp [left, FanOutRun.push]
  | loop => exact h.loop hst
  | consume branch => exact h.consume hst

/-- A queue that is only branch `i` receives what is pushed to that branch. -/
theorem Accounted.entered_eq (h : Accounted f queues s) (hi : f.outputs[i]? = some (some q))
    (hsole : ∀ j, f.outputs[j]? = some (some q) → j = i) (hinput : f.input ≠ some q) :
    s.entered q = s.pushedTo i := by
  refine List.filterMap_congr fun action haction => ?_
  have hreached := h.reached action haction
  cases action with
  | produced p msg =>
      have hne : p ≠ q := fun hp => hinput (hp ▸ hreached)
      simp [hne]
  | pushed branch p msg =>
      by_cases hp : p = q
      · subst hp
        simp [hsole branch hreached]
      · have hne : branch ≠ i := by
          rintro rfl
          exact hp (Option.some.inj (Option.some.inj (hreached.symm.trans hi)))
        simp [hp, hne]
  | taken p msg => rfl
  | popped p msg => rfl

/-- Every branch has received what was taken from the input, in that order, but for the
message in progress, and the count is the number of messages that all branches have.  What
the branches receive goes through their queues, and what is taken comes out of the input. -/
structure Distributed (f : FanOutModule t) (queues : Nat → List T) (es : List (FanOutEvent T))
    (s : FanOutRun T) : Prop extends Accounted f queues s where
  branches : ∀ i < f.outputs.length, s.pushedTo i ++ s.unserved i = s.taken
  processed : ∀ n, n < s.processed + s.uncounted f ↔
    ∀ i < f.outputs.length, n < (s.pushedTo i).length
  /-- Of an input that is no output too. -/
  input : ∀ q, f.input = some q → (∀ i : Nat, f.outputs[i]? ≠ some (some q)) →
    queues q ++ producedBy es = s.taken ++ s.queues q
  /-- Of a queue that is this branch only. -/
  output : ∀ (i q : Nat), f.outputs[i]? = some (some q) →
    (∀ j : Nat, f.outputs[j]? = some (some q) → j = i) → f.input ≠ some q →
      consumed f q (new queues) es ++ s.queues q ++ s.unserved i = queues q ++ s.taken

/-- The input receives what its producers push. -/
theorem entered_input (hq : f.input = some q) (hsole : ∀ i : Nat, f.outputs[i]? ≠ some (some q))
    {es : List (FanOutEvent T)} (hexec : exec (step f) (new queues) es = some s) :
    s.entered q = producedBy es := by
  have hkeep : ∀ (s : FanOutRun T) es e t, s.entered q = producedBy es → step f s e = some t →
      t.entered q = producedBy (es ++ [e]) := by
    intro s es e t hs hst
    rw [producedBy, List.filterMap_append, ← producedBy, ← hs]
    cases e with
    | start =>
        rw [start_eq hst]
        exact (List.append_nil _).symm
    | stop =>
        cases hst
        exact (List.append_nil _).symm
    | produce msg =>
        obtain ⟨p, hp, rfl⟩ := Option.map_eq_some_iff.mp hst
        obtain rfl : p = q := Option.some.inj (hp.symm.trans hq)
        simp [entered, FanOutRun.push]
    | loop =>
        refine Eq.trans ?_ (List.append_nil _).symm
        cases moves_of_loop hst with
        | idle => rfl
        | takes => simp [entered, FanOutRun.pop]
        | @serves msg branch p stage out =>
            have hne : p ≠ q := by
              rintro rfl
              exact hsole branch out
            simp [entered, FanOutRun.push, hne]
        | skips => rfl
        | counts => rfl
    | consume branch =>
        refine Eq.trans ?_ (List.append_nil _).symm
        obtain ⟨p, -, ⟨-, rfl⟩ | ⟨msg, rest, -, rfl⟩⟩ := consume_cases hst
        · rfl
        · simp [entered, FanOutRun.pop]
  have hnone : (new queues).entered q = producedBy [] := rfl
  exact exec_history hkeep hnone hexec

/-- The loop alone takes from the input. -/
theorem Accounted.left_input (h : Accounted f queues s) (hq : f.input = some q)
    (hsole : ∀ i : Nat, f.outputs[i]? ≠ some (some q)) : s.left q = s.taken := by
  refine List.filterMap_congr fun action haction => ?_
  have hreached := h.reached action haction
  cases action with
  | produced p msg => rfl
  | pushed branch p msg => rfl
  | taken p msg =>
      obtain rfl : p = q := Option.some.inj (hreached.symm.trans hq)
      simp
  | popped p msg =>
      have hne : p ≠ q := by
        rintro rfl
        obtain ⟨branch, hbranch⟩ := hreached
        exact hsole branch hbranch
      simp [hne]

/-- The consumers alone take from a queue that is not the input. -/
theorem left_step {e : FanOutEvent T} (hinput : f.input ≠ some q) (hst : step f s e = some s') :
    s'.left q = s.left q ++ s.handed f q e := by
  cases e with
  | start =>
      rw [start_eq hst]
      exact (List.append_nil _).symm
  | stop =>
      cases hst
      exact (List.append_nil _).symm
  | produce msg =>
      obtain ⟨p, -, rfl⟩ := Option.map_eq_some_iff.mp hst
      simp [left, handed, FanOutRun.push]
  | loop =>
      refine Eq.trans ?_ (List.append_nil _).symm
      cases moves_of_loop hst with
      | @takes p msg rest stage input queue =>
          have hne : p ≠ q := fun hp => hinput (hp ▸ input)
          simp [left, FanOutRun.pop, hne]
      | serves => simp [left, FanOutRun.push]
      | _ => rfl
  | consume branch =>
      obtain ⟨p, hout, ⟨hempty, rfl⟩ | ⟨msg, rest, hp, rfl⟩⟩ := consume_cases hst
      · by_cases hpq : p = q
        · simp [handed, hout, ← hpq, hempty]
        · simp [handed, hout, hpq]
      · by_cases hpq : p = q
        · simp [left, handed, FanOutRun.pop, hout, ← hpq, hp]
        · simp [left, handed, FanOutRun.pop, hout, hpq]

theorem exec_left {es : List (FanOutEvent T)} (hinput : f.input ≠ some q) :
    ∀ {s s' : FanOutRun T}, exec (step f) s es = some s' →
      s'.left q = s.left q ++ consumed f q s es := by
  induction es with
  | nil =>
      intro s s' hexec
      cases hexec
      exact (List.append_nil _).symm
  | cons e es ih =>
      intro s s' hexec
      obtain ⟨u, hu, hrest⟩ := exec_cons_some.mp hexec
      rw [ih hrest, left_step hinput hu, consumed, hu, List.append_assoc]

/-- Whatever the producers and the consumers do meanwhile, every branch receives what is
taken from the input, and `processed_count` counts what all branches have. -/
theorem fanOut_distributes (f : FanOutModule t) (queues : Nat → List T) (es : List (FanOutEvent T))
    (s : FanOutRun T) (hout : ∀ out ∈ f.outputs, out.isSome)
    (hexec : exec (step f) (new queues) es = some s) : Distributed f queues es s := by
  have hinv : Inv f s := exec_invariant (fun _ _ _ h hst => h.step hst) (Inv.new queues) hexec
  have hnew : Accounted f queues (new queues) := ⟨fun q => List.append_nil _, fun _ h => nomatch h⟩
  have haccounted : Accounted f queues s :=
    exec_invariant (fun _ _ _ h hst => h.step hst) hnew hexec
  refine { haccounted with
    branches := fun i hi => ?_, processed := hinv.processed_iff hout,
    input := fun q hq hsole => ?_, output := fun i q hi hsole hinput => ?_ }
  · obtain ⟨q, hq⟩ := exists_queue hout hi
    exact hinv.received hq
  · rw [← entered_input hq hsole hexec, haccounted.fifo, haccounted.left_input hq hsole]
  · have hleft : s.left q = consumed f q (new queues) es := exec_left hinput hexec
    rw [← hleft, ← haccounted.fifo, haccounted.entered_eq hi hsole hinput, List.append_assoc,
      hinv.received hi]

/-- Three outputs.  The first has got both messages and lost them to its consumer, while the
others have still to get the second. -/
def threeOutputs : FanOutModule t where
  input := some 0
  output := some 1
  processed := 0
  extraOutputs := [some 2, some 3]

def drainedRun : List (FanOutEvent Nat) :=
  [.start, .produce 7, .loop, .loop, .consume 0, .produce 8, .loop, .loop, .loop, .loop, .loop,
    .consume 0]

theorem fanOut_distributes_drainedRun : ∃ s : FanOutRun Nat,
    exec (step (threeOutputs : FanOutModule .laser)) (new fun _ => []) drainedRun = some s ∧
      s.taken = [7, 8] ∧
      consumed (threeOutputs : FanOutModule .laser) 1 (new fun _ => []) drainedRun = [7, 8] ∧
      [0, 1, 2, 3].map s.queues = [[], [], [7], [7]] ∧
      Distributed (threeOutputs : FanOutModule .laser) (fun _ => []) drainedRun s :=
  ⟨_, rfl, rfl, rfl, rfl,
    fanOut_distributes threeOutputs (fun _ => []) drainedRun _ (by decide) rfl⟩

/-! ## `process` without interruption -/

theorem loop_serve (hstage : s.stage = .processing msg branch)
    (hout : f.outputs[branch]? = some (some q)) :
    s.loop f =
      some { s.push q msg (.pushed branch q msg) with stage := .processing msg (branch + 1) } := by
  simp [loop, hstage, hout]

theorem loop_skip (hstage : s.stage = .processing msg branch)
    (hout : f.outputs[branch]? = some none) :
    s.loop f = some { s with stage := .processing msg (branch + 1) } := by
  simp [loop, hstage, hout]

section Process

variable {R : Type} {f : FanOutModule t} {msg : Msg R t}

theorem exec_outputs {outs : List (SharedQueue t)} : ∀ {branch : Nat} {s : FanOutRun (Msg R t)}
    {qs : Queues R}, s.stage = .processing msg branch → f.outputs.drop branch = outs →
      s.queues = qs t → ∃ s', exec (step f) s (List.replicate outs.length .loop) = some s' ∧
        s'.stage = .processing msg (branch + outs.length) ∧
        s'.queues = (outs.foldl (fun qs q => qs.pushIf q msg) qs) t := by
  induction outs with
  | nil => exact fun hstage _ hqs => ⟨_, rfl, hstage, hqs⟩
  | cons out outs ih =>
      intro branch s qs hstage hdrop hqs
      have hout : f.outputs[branch]? = some out := by
        rw [← List.head?_drop, hdrop, List.head?_cons]
      have hrest : f.outputs.drop (branch + 1) = outs := by
        rw [← List.tail_drop, hdrop, List.tail_cons]
      rw [List.length_cons, List.replicate_succ, exec_cons, List.foldl_cons,
        Nat.add_comm outs.length 1, ← Nat.add_assoc]
      cases out with
      | none =>
          rw [show step f s .loop = _ from loop_skip hstage hout, Option.bind_some]
          exact ih rfl hrest hqs
      | some q =>
          rw [show step f s .loop = _ from loop_serve hstage hout, Option.bind_some]
          refine ih rfl hrest ?_
          show Function.update s.queues q (s.queues q ++ [msg]) = _
          rw [hqs]
          exact (Function.update_self t _ qs).symm

/-- Where nothing comes between, the pushes of a message are `process`. -/
theorem exec_process {s : FanOutRun (Msg R t)} {qs : Queues R}
    (hstage : s.stage = .processing msg 0) (hqs : s.queues = qs t) :
    ∃ s', exec (step f) s (List.replicate f.outputs.length .loop) = some s' ∧
      s'.stage = .processing msg f.outputs.length ∧ s'.queues = f.process msg qs t := by
  obtain ⟨s', hexec, hstage', hqs'⟩ := exec_outputs hstage (List.drop_zero) hqs
  exact ⟨s', hexec, by rwa [Nat.zero_add] at hstage', hqs'⟩

end Process

end FanOutRun

end FanOut

end PorcelainMonitor.Modules
