import PorcelainMonitor.Common
import PorcelainMonitor.Lib.PooledProgram

/-!
# `DatabaseConnection` and `DatabasePool`

The sessions behind the connections, the statements sent to them and the answers
they give.  A statement is modelled by the values its text is built from.  Text
values stand between apostrophes without any escaping, so a value with an
apostrophe in it can end early and let the server read the rest as further
statements.

What a failed statement has done is not known to the client.  It may have had its
effect, and a lost connection has no transaction.
-/

namespace PorcelainMonitor.Database

open PooledProgram (Program)

variable {R : Type}

/-! ## Statements -/

/-- A value in the text of a statement. -/
inductive Value (R : Type) where
  | null
  | int (n : Int)
  | real (x : R)
  | bool (b : Bool)
  /-- A time point, in nanoseconds since the epoch and printed in seconds. -/
  | time (t : Int)
  | array (xs : List R)
  /-- `'text'` -/
  | text (s : String)
  /-- `'text'::type` -/
  | cast (s type : String)
  /-- `'…'::jsonb` around `dump()`. -/
  | jsonb (j : Json R)
  | currentTimestamp

/-- A statement that is not about transactions. -/
inductive Query (R : Type) where
  /-- With `RETURNING id` or without. -/
  | insert (table : String) (values : List (String × Value R)) (returning : Bool)
  | select (columns : List String) (source : String) (condition : Option (String × Int))
      (order : Option String) (limit : Option Int)
  | update (table : String) (values : List (String × Value R)) (id : Int)

/-- No text inside the value contains an apostrophe. -/
def Value.quoteFree : Value R → Bool
  | .text s => s.toList.all (· ≠ Char.ofNat 0x27)
  | .cast s _ => s.toList.all (· ≠ Char.ofNat 0x27)
  | .jsonb j => j.quoteFree
  | _ => true

def Query.quoteFree : Query R → Bool
  | .insert _ values _ => values.all fun column => column.2.quoteFree
  | .select _ _ _ _ _ => true
  | .update _ values _ => values.all fun column => column.2.quoteFree

inductive TransactionCommand where
  | begin
  | commit
  | rollback
deriving DecidableEq, Repr

/-- What the program asks of a connection. -/
inductive Call (R : Type) where
  /-- `PQstatus` -/
  | status
  | transaction (command : TransactionCommand)
  | query (q : Query R)

/-! ## Answers -/

/-- The state of the session behind a connection. -/
inductive Session where
  | lost
  | idle
  /-- In a transaction, failed or not. -/
  | transaction
deriving DecidableEq, Repr

inductive ExecStatus where
  | commandOk
  | tuplesOk
  /-- An error, or anything else. -/
  | other
deriving DecidableEq, Repr

/-- The columns of a row, `none` for `NULL`. -/
abbrev Row := List (Option String)

structure PGresult where
  status : ExecStatus
  rows : List Row

/-- The result of `PQexec` is `none` for a null pointer. -/
inductive Reply where
  | connected (b : Bool)
  | result (res : Option PGresult)

/-- `res && PQresultStatus(res) == PGRES_COMMAND_OK` -/
def commandOk : Option PGresult → Bool
  | some res => res.status = .commandOk
  | none => false

/-- The rows, if `res && PQresultStatus(res) == PGRES_TUPLES_OK`. -/
def tuples : Option PGresult → List Row
  | some res => if res.status = .tuplesOk then res.rows else []
  | none => []

/-- What a session may answer, and how it goes on.  A successful `BEGIN` opens a
transaction, and a successful `COMMIT` or `ROLLBACK` closes it.  Outside a
transaction no other statement opens one, as long as it is read as written. -/
def answers : Session → Call R → Reply → Session → Bool
  | d, .status, .connected b, d' => d' = d && b = (d ≠ .lost : Bool)
  | .lost, .transaction _, .result res, d' => d' = .lost && !commandOk res
  | .lost, .query _, .result res, d' => d' = .lost && !commandOk res && (tuples res).isEmpty
  | _, .transaction .begin, .result res, d' => !commandOk res || d' = .transaction
  | _, .transaction .commit, .result res, d' => !commandOk res || d' = .idle
  | _, .transaction .rollback, .result res, d' => !commandOk res || d' = .idle
  | .idle, .query q, .result _, d' => !q.quoteFree || d' ≠ .transaction
  | .transaction, .query _, .result _, _ => true
  | _, _, _, _ => false

/-- There is no open transaction. -/
def Session.clean (d : Session) : Bool := d ≠ .transaction

/-! ## Connections and the pool -/

/-- A connection, by its place in the constructor's loop. -/
abbrev Connection := Nat

/-- A program over the pool of connections. -/
abbrev Db (R : Type) := Program Connection (Call R) Reply

def isConnected (conn : Connection) : Db R Bool :=
  .call conn .status fun reply =>
    match reply with
    | .connected b => .pure b
    | .result _ => .pure false

/-- A call answered by a result. -/
def exec (conn : Connection) (call : Call R) : Db R (Option PGresult) :=
  .call conn call fun reply =>
    match reply with
    | .result res => .pure res
    | .connected _ => .pure none

/-- The common body of the three transaction commands. -/
def transactionCommand (command : TransactionCommand) (conn : Connection) : Db R Bool := do
  if ← isConnected conn then
    let res ← exec conn (.transaction command)
    return commandOk res
  else
    return false

def beginTransaction : Connection → Db R Bool := transactionCommand .begin

def commitTransaction : Connection → Db R Bool := transactionCommand .commit

def rollbackTransaction : Connection → Db R Bool := transactionCommand .rollback

def acquire : Db R Connection := .acquire .pure

def release (conn : Connection) : Db R Unit := .release conn (.pure ())

/-- The connections that the constructor of the pool could open. -/
def connections (poolSize : Nat) (connects : Connection → Bool) : List Connection :=
  (List.range poolSize).filter connects

theorem connections_nodup (poolSize : Nat) (connects : Connection → Bool) :
    (connections poolSize connects).Nodup :=
  List.nodup_range.filter _

end PorcelainMonitor.Database
