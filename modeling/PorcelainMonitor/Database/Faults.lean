import PorcelainMonitor.Database.Persistence

/-!
# Statements that fail

A connection to the server, any of whose statements may fail.  After a failed
statement the transaction is spoiled: the later ones fail, and `COMMIT` succeeds
but undoes it.  A `COMMIT` that fails undoes the transaction too, and so does the
loss of the connection, unless the server has executed the `COMMIT` and only its
answer is lost.

`Remote.Effect` says once what a statement in a transaction can do.  Without
faults the server is the one that never fails (`Remote.operate_eq_runAlone`), and
with any it answers what a session may answer (`Remote.answers_serve`).
-/

namespace PorcelainMonitor.Database

open PooledProgram (Program)

variable {R : Type}

/-! ## The server -/

/-- What becomes of a statement that reaches the server. -/
inductive Fate where
  | runs
  /-- The server reports an error. -/
  | fails
  /-- The connection is lost before the server has executed the statement. -/
  | drops
  /-- The server executes the statement, and the connection is lost before the answer. -/
  | unanswered
deriving DecidableEq, Repr

namespace Fate

/-- The connection is lost. -/
def loses : Fate → Bool
  | .drops | .unanswered => true
  | .runs | .fails => false

/-- The server executes the statement. -/
def executes : Fate → Bool
  | .runs | .unanswered => true
  | .fails | .drops => false

theorem executes_of_runs {fate : Fate} (h : fate = .runs) : fate.executes = true := by rw [h]; rfl

theorem ne_runs_of_loses {fate : Fate} (h : fate.loses = true) : fate ≠ .runs := by
  rintro rfl
  cases h

end Fate

namespace Backend

/-- A failed statement spoils the transaction, if there is one. -/
def spoil (b : Backend R) : Backend R where
  store := b.store
  saved := b.saved.map fun p => (p.1, true)
  saved_issued := by
    intro p hp
    obtain ⟨p', hp', rfl⟩ := Option.map_eq_some_iff.mp hp
    exact b.saved_issued p' hp'

/-- What a call leaves behind that fails. -/
def fail (b : Backend R) : Call R → Backend R
  | .transaction .commit => b.rollback
  | _ => b.spoil

theorem rollback_saved (b : Backend R) : b.rollback.saved = none := by
  rw [rollback]
  split
  · assumption
  · rfl

theorem rollback_of_idle {b : Backend R} (h : b.saved = none) : b.rollback = b := by
  rw [rollback]
  split
  · rfl
  · next h' => cases h.symm.trans h'

theorem rollback_rows {b : Backend R} {rows : Rows R} {spoiled : Bool}
    (h : b.saved = some (rows, spoiled)) : b.rollback.store.rows = rows := by
  rw [rollback]
  split
  · next h' => cases h.symm.trans h'
  · next h' =>
      cases h.symm.trans h'
      rfl

end Backend

theorem tuples_of_other {res : PGresult} (h : res.status = .other) : tuples (some res) = [] := by
  rw [tuples, h]
  rfl

theorem commandOk_of_other {res : PGresult} (h : res.status = .other) :
    commandOk (some res) = false := by
  rw [commandOk, h]
  rfl

/-- The server's end of a connection. -/
structure Remote (R : Type) where
  backend : Backend R
  connected : Bool
  /-- So many statements have been sent. -/
  sent : Nat

namespace Remote

/-- A connection that has just been acquired. -/
def idle (s : Store R) : Remote R := ⟨Backend.idle s, true, 0⟩

/-- What becomes of the next call.  A `ROLLBACK` fails only with the connection. -/
def fate (faults : Nat → Fate) (m : Remote R) : Call R → Fate
  | .transaction .rollback => if faults m.sent = .fails then .runs else faults m.sent
  | _ => faults m.sent

section Serve

variable (faults : Nat → Fate) (out : Output R) (now : Int) (m : Remote R)

/-- The answer to a statement at a time.  There is no result without a
connection, and the loss of the connection ends an open transaction. -/
def send (call : Call R) : Reply × Remote R :=
  if m.connected then
    match m.fate faults call with
    | .runs =>
        let (reply, b) := m.backend.serve out now call
        (reply, { m with backend := b, sent := m.sent + 1 })
    | .fails =>
        (.result (some failed), { m with backend := m.backend.fail call, sent := m.sent + 1 })
    | .drops => (.result none, ⟨m.backend.rollback, false, m.sent + 1⟩)
    | .unanswered =>
        (.result none, ⟨(m.backend.serve out now call).2.rollback, false, m.sent + 1⟩)
  else (.result none, { m with sent := m.sent + 1 })

def serve : Call R → Reply × Remote R
  | .status => (.connected m.connected, m)
  | .transaction command => m.send faults out now (.transaction command)
  | .query q => m.send faults out now (.query q)

end Serve

/-- The session behind the connection. -/
def session (m : Remote R) : Session :=
  if m.connected then (if m.backend.saved.isSome then .transaction else .idle) else .lost

/-! ## Without faults -/

/-- If nothing fails, an operation comes to what it comes to on the server that
never fails. -/
theorem operate_eq_runAlone {β : Type} (out : Output R) (now : Int) (s : Store R) (p : Db R β) :
    s.operate out now p =
      ((p.runAlone (serve (fun _ => .runs) out now) 0 (idle s)).1,
        (p.runAlone (serve (fun _ => .runs) out now) 0 (idle s)).2.backend.store) := by
  have hstep : ∀ (m : Remote R) (b : Backend R) (call : Call R),
      m.connected = true ∧ m.backend = b →
      (m.serve (fun _ => .runs) out now call).1 = (b.serve out now call).1 ∧
        (m.serve (fun _ => .runs) out now call).2.connected = true ∧
        (m.serve (fun _ => .runs) out now call).2.backend = (b.serve out now call).2 := by
    rintro ⟨b, connected, sent⟩ _ call ⟨rfl, rfl⟩
    cases call with
    | status => exact ⟨rfl, rfl, rfl⟩
    | transaction command => cases command <;> exact ⟨rfl, rfl, rfl⟩
    | query q => exact ⟨rfl, rfl, rfl⟩
  obtain ⟨hvalue, -, hbackend⟩ := Program.runAlone_simulates hstep p
    (r := (0 : Connection)) (s := idle s) (t := Backend.idle s) ⟨rfl, rfl⟩
  rw [hvalue, hbackend]
  rfl

/-! ## What a session may answer -/

section Session

variable {out : Output R} {now : Int}

/-- A statement that is not about transactions opens none. -/
theorem session_query {b : Backend R} {q : Query R} {n n' : Nat} :
    session ⟨(b.query out now q).2, true, n⟩ = session ⟨b, true, n'⟩ := by
  obtain ⟨store, saved, issued⟩ := b
  rcases saved with _ | ⟨rows, _ | _⟩
  · rfl
  · rfl
  · rfl

/-- A transaction that is undone is over. -/
theorem session_rollback {b : Backend R} {n : Nat} : session ⟨b.rollback, true, n⟩ = .idle := by
  rw [session, Backend.rollback_saved]
  rfl

theorem session_command {b : Backend R} {n : Nat} : ∀ command : TransactionCommand,
    session ⟨(b.command command).2, true, n⟩ = if command = .begin then .transaction else .idle
  | .begin => by
      obtain ⟨store, saved, issued⟩ := b
      cases saved with
      | none => rfl
      | some p => rfl
  | .commit => by
      show session ⟨if b.saved.any Prod.snd then b.rollback else .idle b.store, true, n⟩ = .idle
      split
      · exact session_rollback
      · rfl
  | .rollback => session_rollback

theorem session_fail {b : Backend R} {q : Query R} {n n' : Nat} :
    session ⟨b.fail (.query q), true, n⟩ = session ⟨b, true, n'⟩ := by
  show (if (b.saved.map fun p => (p.1, true)).isSome then Session.transaction else .idle) = _
  rw [Option.isSome_map]
  rfl

/-- An open session may refuse every command. -/
theorem answers_command {d d' : Session} {command : TransactionCommand} {res : Option PGresult}
    (hd : d ≠ .lost) (h : commandOk res = true → d' = if command = .begin then .transaction
      else .idle) : answers d (.transaction command : Call R) (.result res) d' = true := by
  cases hres : commandOk res with
  | false =>
      cases d with
      | lost => exact absurd rfl hd
      | idle => cases command <;> simp [answers, hres]
      | transaction => cases command <;> simp [answers, hres]
  | true =>
      rw [h hres]
      cases d with
      | lost => exact absurd rfl hd
      | idle => cases command <;> simp [answers]
      | transaction => cases command <;> simp [answers]

/-- An open session keeps to its state, or is lost. -/
theorem answers_query {d d' : Session} {q : Query R} {res : Option PGresult} (hd : d ≠ .lost)
    (h : d' = d ∨ d' = .lost) : answers d (.query q) (.result res) d' = true := by
  cases d with
  | lost => exact absurd rfl hd
  | idle => rcases h with rfl | rfl <;> simp [answers]
  | transaction => rfl

theorem session_ne_lost {b : Backend R} {n : Nat} : session ⟨b, true, n⟩ ≠ .lost := by
  rw [session]
  cases b.saved with
  | none => simp
  | some p => simp

/-- Whatever fails, the answers are some that the session may give. -/
theorem answers_serve (faults : Nat → Fate) (m : Remote R) (call : Call R) :
    answers m.session call (m.serve faults out now call).1
      (m.serve faults out now call).2.session = true := by
  obtain ⟨b, connected, sent⟩ := m
  cases connected with
  | false =>
      cases call with
      | status => rfl
      | transaction command => rfl
      | query q => rfl
  | true =>
      have hopen := session_ne_lost (b := b) (n := sent)
      cases call with
      | status =>
          show answers _ .status (.connected true) _ = true
          simp [answers, serve, hopen]
      | transaction command =>
          rw [serve, send, if_pos rfl]
          cases fate faults _ (.transaction command : Call R) with
          | runs => exact answers_command hopen fun _ => session_command command
          | fails => exact answers_command hopen fun h => by cases h
          | drops => exact answers_command hopen fun h => by cases h
          | unanswered => exact answers_command hopen fun h => by cases h
      | query q =>
          rw [serve, send, if_pos rfl]
          cases fate faults _ (.query q) with
          | runs => exact answers_query hopen (.inl session_query)
          | fails => exact answers_query hopen (.inl session_fail)
          | drops => exact answers_query hopen (.inr rfl)
          | unanswered => exact answers_query hopen (.inr rfl)

end Session

/-! ## What a statement can do -/

/-- In a transaction that began with these rows.  It may be spoiled. -/
structure Open (m : Remote R) (rows : Rows R) (spoiled : Bool) : Prop where
  connected : m.connected = true
  saved : m.backend.saved = some (rows, spoiled)

/-- In no transaction, with these rows. -/
structure Closed (m : Remote R) (rows : Rows R) : Prop where
  saved : m.backend.saved = none
  rows : m.backend.store.rows = rows

/-- Without a connection, with these rows. -/
structure Lost (m : Remote R) (rows : Rows R) : Prop extends m.Closed rows where
  connected : m.connected = false

/-- A `ROLLBACK` leads to these rows. -/
def Revertible (m : Remote R) (rows : Rows R) : Prop :=
  (∃ spoiled, m.Open rows spoiled) ∨ m.Closed rows

/-- What a statement may come to in a transaction that is not spoiled, if it
would run with result `ran.1` and leave `ran.2` behind. -/
inductive Effect (faults : Nat → Fate) (m : Remote R) (rows : Rows R)
    (ran : PGresult × Store R) : Option PGresult → Remote R → Prop
  | ran {m' : Remote R} (hrun : faults m.sent = .runs) (hok : ran.1.status ≠ .other)
      (hopen : m'.Open rows false) (hstore : m'.backend.store = ran.2) :
      Effect faults m rows ran (some ran.1) m'
  | failed {m' : Remote R} {res : PGresult} (hfault : (faults m.sent).loses = false)
      (hfailed : faults m.sent = .runs → ran.1.status = .other) (hother : res.status = .other)
      (hopen : m'.Open rows true) : Effect faults m rows ran (some res) m'
  | dropped {m' : Remote R} (hfault : (faults m.sent).loses = true) (hlost : m'.Lost rows) :
      Effect faults m rows ran none m'

section Query

variable (faults : Nat → Fate) (out : Output R) (now : Int) {m : Remote R} {rows : Rows R}

theorem Open.session {spoiled : Bool} (h : m.Open rows spoiled) : m.session = .transaction := by
  rw [Remote.session, h.connected, h.saved]
  rfl

theorem Closed.clean (h : m.Closed rows) : m.session.clean = true := by
  rw [Remote.session, h.saved]
  cases m.connected with
  | true => rfl
  | false => rfl

/-- The loss of the connection undoes the transaction. -/
theorem lost_rollback {b : Backend R} {spoiled : Bool} (h : b.saved = some (rows, spoiled))
    (n : Nat) : Lost ⟨b.rollback, false, n⟩ rows :=
  ⟨⟨b.rollback_saved, Backend.rollback_rows h⟩, rfl⟩

/-- In a spoiled transaction no statement runs. -/
theorem Open.backend_query (h : m.Open rows true) (q : Query R) :
    m.backend.query out now q = (failed, m.backend) := by
  obtain ⟨⟨store, _, issued⟩, connected, sent⟩ := m
  cases h.saved
  rfl

theorem fate_query (q : Query R) : m.fate faults (.query q) = faults m.sent := rfl

/-- A statement in a transaction runs, spoils the transaction or loses the
connection. -/
theorem Open.query (h : m.Open rows false) (q : Query R) :
    ∃ res m', m.serve faults out now (.query q) = (.result res, m') ∧ m'.sent = m.sent + 1 ∧
      Effect faults m rows (m.backend.store.run out now q) res m' := by
  obtain ⟨hres, hstore, hsaved⟩ := query_transaction out now h.saved q
  rw [serve, send, if_pos h.connected, fate_query faults]
  cases hfault : faults m.sent with
  | runs =>
      refine ⟨_, _, rfl, rfl, ?_⟩
      by_cases hother : (m.backend.store.run out now q).1.status = .other
      · rw [decide_eq_true hother] at hsaved
        exact .failed (by rw [hfault]; rfl) (fun _ => hother) (hres ▸ hother)
          ⟨h.connected, hsaved⟩
      · rw [decide_eq_false hother] at hsaved
        rw [hres]
        exact .ran hfault hother ⟨h.connected, hsaved⟩ hstore
  | fails =>
      refine ⟨_, _, rfl, rfl, .failed (by rw [hfault]; rfl) (by simp [hfault]) rfl
        ⟨h.connected, ?_⟩⟩
      show m.backend.saved.map _ = _
      rw [h.saved]
      rfl
  | drops => exact ⟨_, _, rfl, rfl, .dropped (by rw [hfault]; rfl) (lost_rollback h.saved _)⟩
  | unanswered => exact ⟨_, _, rfl, rfl, .dropped (by rw [hfault]; rfl) (lost_rollback hsaved _)⟩

/-- In a spoiled transaction nothing runs. -/
theorem Open.query_spoiled (h : m.Open rows true) (q : Query R) :
    ∃ res m', m.serve faults out now (.query q) = (.result res, m') ∧ m'.sent = m.sent + 1 ∧
      tuples res = [] ∧ ((faults m.sent).loses = false → m'.Open rows true) ∧
      ((faults m.sent).loses = true → m'.Lost rows) := by
  have hquery := h.backend_query out now q
  rw [serve, send, if_pos h.connected, fate_query faults]
  cases hfault : faults m.sent with
  | runs =>
      refine ⟨some failed, { m with sent := m.sent + 1 }, ?_, rfl, rfl,
        fun _ => ⟨h.connected, h.saved⟩, fun h' => by cases h'⟩
      simp only [Backend.serve, hquery]
  | fails =>
      refine ⟨_, _, rfl, rfl, rfl, fun _ => ⟨h.connected, ?_⟩, fun h' => by cases h'⟩
      show m.backend.saved.map _ = _
      rw [h.saved]
      rfl
  | drops =>
      exact ⟨_, _, rfl, rfl, rfl, fun h' => (by cases h'), fun _ => lost_rollback h.saved _⟩
  | unanswered =>
      have hsaved : (m.backend.query out now q).2.saved = some (rows, true) := by
        rw [hquery]
        exact h.saved
      exact ⟨_, _, rfl, rfl, rfl, fun h' => (by cases h'), fun _ => lost_rollback hsaved _⟩

/-- Without a connection nothing runs either. -/
theorem Lost.query (h : m.Lost rows) (q : Query R) :
    ∃ m', m.serve faults out now (.query q) = (.result none, m') ∧ m'.sent = m.sent + 1 ∧
      m'.Lost rows := by
  rw [serve, send, if_neg (by simp [h.connected])]
  exact ⟨_, rfl, rfl, ⟨h.saved, h.rows⟩, h.connected⟩

end Query

/-! ## The three commands -/

section Command

variable (faults : Nat → Fate) (out : Output R) (now : Int)

/-- What one of the three commands reports.  Without a connection it sends
nothing. -/
def command (m : Remote R) (c : TransactionCommand) : Bool × Remote R :=
  if m.connected then
    match m.send faults out now (.transaction c) with
    | (.result res, m') => (commandOk res, m')
    | (.connected _, m') => (false, m')
  else (false, m)

variable {β : Type} {conn r : Connection} {m m' : Remote R}
  {post : β → Remote R → List (Connection × Remote R) → Prop}

theorem ends_exec {call : Call R} {res : Option PGresult} {f : Option PGresult → Db R β}
    (hserve : m.serve faults out now call = (.result res, m'))
    (h : (f res).Ends (serve faults out now) r m' post) :
    (exec conn call >>= f).Ends (serve faults out now) r m post :=
  Program.ends_call hserve h

theorem ends_transactionCommand {c : TransactionCommand} {ok : Bool} {f : Bool → Db R β}
    (hcommand : m.command faults out now c = (ok, m'))
    (h : (f ok).Ends (serve faults out now) r m' post) :
    (transactionCommand c conn >>= f).Ends (serve faults out now) r m post := by
  rw [command] at hcommand
  cases hconnected : m.connected with
  | false =>
      rw [if_neg (by simp [hconnected])] at hcommand
      cases hcommand
      have hstatus : m.serve faults out now .status = (.connected false, m) := by
        rw [serve, hconnected]
      exact Program.ends_call hstatus h
  | true =>
      rw [if_pos hconnected] at hcommand
      have hstatus : m.serve faults out now .status = (.connected true, m) := by
        rw [serve, hconnected]
      cases hsend : m.send faults out now (.transaction c) with
      | mk reply m₁ =>
          rw [hsend] at hcommand
          cases reply with
          | connected b =>
              cases hcommand
              exact Program.ends_call hstatus (Program.ends_call hsend h)
          | result res =>
              cases hcommand
              exact Program.ends_call hstatus (Program.ends_call hsend h)

variable {rows : Rows R}

theorem Lost.command (h : m.Lost rows) (c : TransactionCommand) :
    m.command faults out now c = (false, m) := by
  rw [Remote.command, if_neg (by simp [h.connected])]

/-- A fresh connection is in a transaction after `BEGIN`, if that runs. -/
theorem command_begin (s : Store R) :
    ∃ m', (idle s).command faults out now .begin = (decide (faults 0 = .runs), m') ∧
      m'.sent = 1 ∧ (faults 0 = .runs → m'.Open s.rows false ∧ m'.backend.store = s) ∧
      (faults 0 ≠ .runs → m'.Closed s.rows) := by
  have hconnected : (idle s).connected = true := rfl
  have hfate : (idle s).fate faults (.transaction .begin) = faults 0 := rfl
  rw [command, if_pos hconnected, send, if_pos hconnected, hfate]
  cases faults 0 with
  | runs => exact ⟨_, rfl, rfl, fun _ => ⟨⟨rfl, rfl⟩, rfl⟩, fun h => absurd rfl h⟩
  | fails => exact ⟨_, rfl, rfl, (by simp), fun _ => ⟨rfl, rfl⟩⟩
  | drops => exact ⟨_, rfl, rfl, (by simp), fun _ => ⟨rfl, rfl⟩⟩
  | unanswered => exact ⟨_, rfl, rfl, (by simp), fun _ => ⟨rfl, rfl⟩⟩

/-- `COMMIT` reports that it has run, whether or not the transaction is
spoiled.  If only its answer is lost, the rows are there all the same. -/
theorem Open.commit {spoiled : Bool} (h : m.Open rows spoiled) :
    ∃ m', m.command faults out now .commit = (decide (faults m.sent = .runs), m') ∧
      m'.Closed (if (faults m.sent).executes = true ∧ spoiled = false then m.backend.store.rows
        else rows) := by
  have hfate : m.fate faults (.transaction .commit) = faults m.sent := rfl
  have hundone : ∀ (connected : Bool) (n : Nat),
      Closed ⟨m.backend.rollback, connected, n⟩ rows := fun _ _ =>
    ⟨m.backend.rollback_saved, Backend.rollback_rows h.saved⟩
  have hexecuted : (m.backend.command .commit).2.saved = none ∧
      (m.backend.command .commit).2.store.rows =
        if spoiled = false then m.backend.store.rows else rows := by
    cases spoiled with
    | false =>
        simp only [Backend.command, h.saved]
        exact ⟨rfl, rfl⟩
    | true =>
        simp only [Backend.command, h.saved]
        exact ⟨m.backend.rollback_saved, Backend.rollback_rows h.saved⟩
  rw [Remote.command, if_pos h.connected, send, if_pos h.connected, hfate]
  cases faults m.sent with
  | runs => exact ⟨_, rfl, by simpa [Fate.executes] using ⟨hexecuted.1, hexecuted.2⟩⟩
  | fails => exact ⟨_, rfl, hundone _ _⟩
  | drops => exact ⟨_, rfl, hundone _ _⟩
  | unanswered =>
      refine ⟨_, rfl, ?_⟩
      show Closed ⟨(m.backend.command .commit).2.rollback, false, _⟩ _
      rw [Backend.rollback_of_idle hexecuted.1]
      simpa [Fate.executes] using ⟨hexecuted.1, hexecuted.2⟩

/-- After `ROLLBACK` there is no transaction. -/
theorem Revertible.rollback (h : m.Revertible rows) :
    ∃ ok m', m.command faults out now .rollback = (ok, m') ∧ m'.Closed rows := by
  have hundone : ∀ (connected : Bool) (n : Nat),
      Closed ⟨m.backend.rollback, connected, n⟩ rows := by
    intro connected n
    refine ⟨m.backend.rollback_saved, ?_⟩
    rcases h with ⟨spoiled, h⟩ | h
    · exact Backend.rollback_rows h.saved
    · rw [Backend.rollback_of_idle h.saved]
      exact h.rows
  rw [Remote.command]
  cases hconnected : m.connected with
  | false =>
      rcases h with ⟨spoiled, h⟩ | h
      · cases hconnected.symm.trans h.connected
      · exact ⟨_, _, rfl, h⟩
  | true =>
      rw [if_pos rfl, send, if_pos hconnected]
      cases hfate : m.fate faults (.transaction .rollback) with
      | runs => exact ⟨_, _, rfl, hundone _ _⟩
      | drops => exact ⟨_, _, rfl, hundone _ _⟩
      | unanswered =>
          refine ⟨_, _, rfl, ?_⟩
          show Closed ⟨m.backend.rollback.rollback, false, _⟩ rows
          rw [Backend.rollback_of_idle m.backend.rollback_saved]
          exact hundone _ _
      | fails =>
          rw [fate] at hfate
          split at hfate
          next => cases hfate
          next hfails => exact absurd hfate hfails

end Command

end Remote

end PorcelainMonitor.Database
