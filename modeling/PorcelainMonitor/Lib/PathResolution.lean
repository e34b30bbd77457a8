import Mathlib.Data.List.DropRight

/-!
# Paths with `.` and `..`

A path is a walk through a tree of directories.  A directory is the list of names
that lead to it from the root, and `..` at the root stays there.

A walk comes to climbing up some levels and then going down through some names
(`net`, `walk_eq_net`).  So it ends below the directory that it starts from exactly
if the names lead back down all the levels that it has climbed
(`prefix_walk_iff`).
-/

namespace PathResolution

variable {N : Type*}

/-- A segment of a path. -/
inductive Step (N : Type*) where
  | stay
  | up
  | down (name : N)
deriving DecidableEq

/-- The directory that a step leads to. -/
def Step.from (dir : List N) : Step N → List N
  | .stay => dir
  | .up => dir.dropLast
  | .down name => dir ++ [name]

def walk (dir : List N) (steps : List (Step N)) : List N := steps.foldl Step.from dir

/-- Climb `up` levels, and then go down through the names. -/
structure Net (N : Type*) where
  up : Nat
  down : List N
deriving DecidableEq

def Net.then (net : Net N) : Step N → Net N
  | .stay => net
  | .up => if net.down = [] then ⟨net.up + 1, []⟩ else ⟨net.up, net.down.dropLast⟩
  | .down name => ⟨net.up, net.down ++ [name]⟩

/-- What a walk comes to. -/
def net (steps : List (Step N)) : Net N := steps.foldl Net.then ⟨0, []⟩

def Net.apply (net : Net N) (dir : List N) : List N := dir.rdrop net.up ++ net.down

/-! ## Walks -/

section Walk

variable {dir parent : List N} {steps : List (Step N)} {a b : N}

/-- One level more. -/
theorem dropLast_rdrop (dir : List N) (k : Nat) : (dir.rdrop k).dropLast = dir.rdrop (k + 1) := by
  rw [List.dropLast_eq_take, List.rdrop, List.rdrop, List.take_take, List.length_take]
  congr 1
  omega

theorem Net.apply_then (net : Net N) (step : Step N) (dir : List N) :
    (net.then step).apply dir = step.from (net.apply dir) := by
  cases step with
  | stay => rfl
  | up =>
      rw [Net.then]
      split
      · next hdown =>
          rw [Net.apply, Net.apply, hdown, List.append_nil, List.append_nil, Step.from,
            dropLast_rdrop]
      · next hdown => exact (List.dropLast_append_of_ne_nil hdown).symm
  | down name => exact (List.append_assoc _ _ _).symm

/-- A walk is its net walk. -/
theorem walk_eq_net (dir : List N) (steps : List (Step N)) :
    walk dir steps = (net steps).apply dir := by
  have hfrom : ∀ n : Net N, steps.foldl Step.from (n.apply dir) =
      (steps.foldl Net.then n).apply dir := by
    induction steps with
    | nil => exact fun _ => rfl
    | cons step steps ih =>
        intro n
        rw [List.foldl_cons, List.foldl_cons, ← ih, Net.apply_then]
  have hstart : (⟨0, []⟩ : Net N).apply dir = dir := by simp [Net.apply]
  rw [walk, net, ← hfrom, hstart]

/-- A walk ends below its start exactly if it leads back down what it has
climbed. -/
theorem prefix_walk_iff :
    dir <+: walk dir steps ↔ dir.rtake (net steps).up <+: (net steps).down := by
  have hdir : dir.rdrop (net steps).up ++ dir.rtake (net steps).up = dir := List.take_append_drop ..
  calc dir <+: walk dir steps
      ↔ dir.rdrop (net steps).up ++ dir.rtake (net steps).up <+:
          dir.rdrop (net steps).up ++ (net steps).down := by rw [walk_eq_net, hdir, Net.apply]
    _ ↔ dir.rtake (net steps).up <+: (net steps).down := List.prefix_append_right_inj _

/-- A walk that climbs does not depend on the name of the directory that it starts
from. -/
theorem walk_sibling (h : (net steps).up ≠ 0) :
    walk (parent ++ [a]) steps = walk (parent ++ [b]) steps := by
  obtain ⟨k, hk⟩ := Nat.exists_eq_succ_of_ne_zero h
  rw [walk_eq_net, walk_eq_net, Net.apply, Net.apply, hk, List.rdrop_concat_succ,
    List.rdrop_concat_succ]

/-- A walk from a sibling ends below a directory exactly if it climbs and leads back
down. -/
theorem prefix_walk_sibling_iff (hab : a ≠ b) :
    parent ++ [a] <+: walk (parent ++ [b]) steps ↔ (net steps).up ≠ 0 ∧
      (parent ++ [a]).rtake (net steps).up <+: (net steps).down := by
  by_cases h : (net steps).up = 0
  · refine iff_of_false (fun hprefix => ?_) fun h' => h'.1 h
    rw [walk_eq_net, Net.apply, h, List.rdrop_zero, List.append_assoc] at hprefix
    have hname := (List.prefix_append_right_inj _).mp hprefix
    rw [List.singleton_append, List.cons_prefix_cons] at hname
    exact hab hname.1
  · rw [walk_sibling h, prefix_walk_iff, and_iff_right h]

end Walk

/-! ## Paths as texts -/

/-- The segments of a path, which `/` separates. -/
def segments (path : List Char) : List (List Char) := path.splitOn '/'

/-- An empty segment is one between two slashes. -/
def step (segment : List Char) : Step (List Char) :=
  if segment = [] ∨ segment = ".".toList then .stay
  else if segment = "..".toList then .up
  else .down segment

def steps (path : List Char) : List (Step (List Char)) := (segments path).map step

/-- The place that a path leads to from a working directory. -/
def resolve (cwd : List (List Char)) (path : List Char) : List (List Char) :=
  walk (if path.head? = some '/' then [] else cwd) (steps path)

section Texts

variable {s t : List Char}

theorem segments_append_slash (s t : List Char) :
    segments (s ++ '/' :: t) = segments s ++ segments t :=
  List.splitOn_append_cons_of_beq s t rfl

/-- A text without slashes is added to the first segment. -/
theorem segments_append (h : '/' ∉ s) :
    segments (s ++ t) = (segments t).modifyHead (s ++ ·) := by
  induction s with
  | nil =>
      rw [List.nil_append]
      cases segments t with
      | nil => rfl
      | cons first rest => rfl
  | cons c s ih =>
      obtain ⟨hc, hs⟩ := not_or.mp (List.mem_cons.not.mp h)
      rw [List.cons_append, segments, List.splitOn_cons_eq_if_modifyHead,
        if_neg (by simpa using Ne.symm hc)]
      show (segments (s ++ t)).modifyHead (c :: ·) = _
      rw [ih hs, List.modifyHead_modifyHead]
      rfl

theorem segments_ne_nil (s : List Char) : segments s ≠ [] := List.splitOn_ne_nil '/' s

end Texts

end PathResolution
