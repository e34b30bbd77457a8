import Mathlib.Logic.Function.Basic
import PorcelainMonitor.Lib.Steps

/-!
# `LockFreeQueue`

The queue between two modules: a linked list with an atomic `head_` and
`tail_`.  `push` allocates a node, exchanges it into `tail_` and then stores it
into `next` of the old tail.  `try_pop` loads `head_` and `next`, moves `head_`
on by a compare-exchange, takes the value of the new head and deletes the old
one.

Every atomic operation is one step, and so is every allocation, every taking of
a value and every deletion.  Any number of producers `ι` push, each in its own
`PushPc`.  There is one consumer, since every queue is the input of one module.

`new` may return the address of a deleted node.  So a pointer carries next to
its address the number of the allocation it came from.  Hardware compares
addresses only, as `compareExchange` does.  The number tells an access to a
living node from one to a node deleted since, which sets `fault`.
-/

namespace PorcelainMonitor.Queue

/-- A pointer: an address, and which allocation it came from. -/
structure Ptr where
  addr : Nat
  birth : Nat
deriving DecidableEq, Repr

structure Node (T : Type) where
  /-- The number of the allocation that made this node. -/
  birth : Nat
  next : Option Ptr
  /-- Empty in the dummy node and once the value has been moved out. -/
  value : Option T

/-- Where a producer stands in `push`. -/
inductive PushPc (T : Type) where
  | idle
  /-- The new node is ready and `tail_.exchange` is next. -/
  | exchange (newNode : Ptr) (value : T)
  /-- `old_tail->next.store(new_node)` is next. -/
  | storeNext (newNode oldTail : Ptr)

/-- Where the consumer stands in `try_pop`. -/
inductive PopPc (T : Type) where
  | idle
  /-- `old_head->next.load()` is next. -/
  | loadNext (oldHead : Ptr)
  /-- `head_.compare_exchange_weak(old_head, next)` is next. -/
  | compareExchange (oldHead next : Ptr)
  /-- `out = std::move(next->value)` is next. -/
  | moveValue (oldHead next : Ptr)
  /-- `delete old_head` is next. -/
  | deleteHead (oldHead : Ptr) (out : T)

/-- The node a pointer points to, if it has not been deleted. -/
def nodeAt {T : Type} (heap : Nat → Option (Node T)) (p : Ptr) : Option (Node T) :=
  (heap p.addr).filter fun n => n.birth = p.birth

structure State (ι T : Type) where
  heap : Nat → Option (Node T)
  /-- How many nodes have been allocated. -/
  births : Nat
  head : Ptr
  tail : Ptr
  push : ι → PushPc T
  pop : PopPc T
  /-- What the last finished `try_pop` returned; `none` while one runs. -/
  result : Option Bool
  /-- The pushed values, in the order of their tail exchanges. -/
  pushed : List T
  /-- The values that successful `try_pop` calls returned, in order. -/
  popped : List T
  /-- Some operation accessed a deleted node or took a value twice. -/
  fault : Bool

/-- The atomic operations. -/
inductive Action (ι T : Type) where
  /-- `push(value)` begins: `new Node(std::move(value))` returns `addr`. -/
  | new (i : ι) (addr : Nat) (value : T)
  | exchange (i : ι)
  | storeNext (i : ι)
  /-- `try_pop` begins: `head_.load()`. -/
  | loadHead
  | loadNext
  /-- A weak compare-exchange may fail for no reason. -/
  | compareExchange (spurious : Bool)
  | moveValue
  | deleteHead

namespace State

variable {ι T : Type}

/-- The queue as the constructor leaves it: one dummy node. -/
def init (addr : Nat) : State ι T where
  heap := fun a => if a = addr then some ⟨0, none, none⟩ else none
  births := 1
  head := ⟨addr, 0⟩
  tail := ⟨addr, 0⟩
  push := fun _ => .idle
  pop := .idle
  result := none
  pushed := []
  popped := []
  fault := false

/-- An access to a deleted node. -/
def faulted (s : State ι T) : State ι T := { s with fault := true }

end State

section Step

variable {ι T : Type} [DecidableEq ι]

/-- One atomic operation. -/
def step (s : State ι T) : Action ι T → Option (State ι T)
  | .new i addr value =>
      match s.push i, s.heap addr with
      | .idle, none =>
          some { s with
            heap := Function.update s.heap addr (some ⟨s.births, none, some value⟩)
            births := s.births + 1
            push := Function.update s.push i (.exchange ⟨addr, s.births⟩ value) }
      | _, _ => none
  | .exchange i =>
      match s.push i with
      | .exchange newNode value =>
          some { s with
            tail := newNode
            pushed := s.pushed ++ [value]
            push := Function.update s.push i (.storeNext newNode s.tail) }
      | _ => none
  | .storeNext i =>
      match s.push i with
      | .storeNext newNode oldTail =>
          match nodeAt s.heap oldTail with
          | none => some s.faulted
          | some n =>
              some { s with
                heap := Function.update s.heap oldTail.addr (some { n with next := some newNode })
                push := Function.update s.push i .idle }
      | _ => none
  | .loadHead =>
      match s.pop with
      | .idle => some { s with pop := .loadNext s.head, result := none }
      | _ => none
  | .loadNext =>
      match s.pop with
      | .loadNext oldHead =>
          match nodeAt s.heap oldHead with
          | none => some s.faulted
          | some n =>
              match n.next with
              | none => some { s with pop := .idle, result := some false }
              | some next => some { s with pop := .compareExchange oldHead next }
      | _ => none
  | .compareExchange spurious =>
      match s.pop with
      | .compareExchange oldHead next =>
          if s.head.addr = oldHead.addr ∧ spurious = false then
            some { s with head := next, pop := .moveValue oldHead next }
          else some { s with pop := .loadNext s.head }
      | _ => none
  | .moveValue =>
      match s.pop with
      | .moveValue oldHead next =>
          match nodeAt s.heap next with
          | none => some s.faulted
          | some n =>
              match n.value with
              | none => some s.faulted
              | some out =>
                  some { s with
                    heap := Function.update s.heap next.addr (some { n with value := none })
                    pop := .deleteHead oldHead out }
      | _ => none
  | .deleteHead =>
      match s.pop with
      | .deleteHead oldHead out =>
          match nodeAt s.heap oldHead with
          | none => some s.faulted
          | some _ =>
              some { s with
                heap := Function.update s.heap oldHead.addr none
                pop := .idle
                result := some true
                popped := s.popped ++ [out] }
      | _ => none

end Step

end PorcelainMonitor.Queue
