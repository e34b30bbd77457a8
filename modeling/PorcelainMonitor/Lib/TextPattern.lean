import Mathlib.Data.List.Basic

/-!
# Patterns of literals and runs

A pattern is a list of pieces: a literal text, or a captured run of one or more
letters of a class.  These are the anchored regular expressions that route
tables are made of, such as `^/items/(\d+)/parts$`.

`Matches` says what text a pattern describes, and with which captures.
`matchAll` decides it as a backtracking matcher does: a run takes as many
letters as it can, and gives them back one by one.  `matchAll_some_iff` says
that the matcher finds a match exactly if there is one.

`Matches.count` is the rule for showing that a text does not match.  A letter
that is in no class occurs in the text as often as in the literals.
-/

namespace TextPattern

variable {α : Type*}

/-- A piece of a pattern. -/
inductive Piece (α : Type*) where
  | literal (text : List α)
  /-- One or more letters of the class, captured. -/
  | run (letter : α → Bool)

/-- The pattern describes the text, and captures these parts of it. -/
inductive Matches : List (Piece α) → List α → List (List α) → Prop where
  | nil : Matches [] [] []
  | literal {text s : List α} {pieces : List (Piece α)} {captures : List (List α)} :
      Matches pieces s captures → Matches (.literal text :: pieces) (text ++ s) captures
  | run {letter : α → Bool} {w s : List α} {pieces : List (Piece α)} {captures : List (List α)} :
      w ≠ [] → (∀ c ∈ w, letter c = true) → Matches pieces s captures →
      Matches (.run letter :: pieces) (w ++ s) (w :: captures)

/-! ## The matcher -/

/-- Extend the run `w` as far as the letters go, then match the rest. -/
def matchRun (letter : α → Bool) (rest : List α → Option (List (List α))) (w : List α) :
    List α → Option (List (List α))
  | [] => none
  | c :: s =>
      if letter c then
        match matchRun letter rest (w ++ [c]) s with
        | some captures => some captures
        | none => (rest s).map fun captures => (w ++ [c]) :: captures
      else none

/-- The captures, if the whole text matches. -/
def matchAll [DecidableEq α] : List (Piece α) → List α → Option (List (List α))
  | [], [] => some []
  | [], _ :: _ => none
  | .literal text :: pieces, s =>
      if text <+: s then matchAll pieces (s.drop text.length) else none
  | .run letter :: pieces, s => matchRun letter (matchAll pieces) [] s

theorem matchRun_sound {letter : α → Bool} {pieces : List (Piece α)}
    {rest : List α → Option (List (List α))}
    (hrest : ∀ s captures, rest s = some captures → Matches pieces s captures) :
    ∀ {s w : List α} {captures : List (List α)}, (∀ c ∈ w, letter c = true) →
      matchRun letter rest w s = some captures → Matches (.run letter :: pieces) (w ++ s) captures
  | [], w, captures, _, h => by cases h
  | c :: s, w, captures, hw, h => by
      rw [matchRun] at h
      split at h
      · next hc =>
          have hwc : ∀ d ∈ w ++ [c], letter d = true := by
            intro d hd
            rcases List.mem_append.mp hd with hd | hd
            · exact hw d hd
            · rwa [List.mem_singleton.mp hd]
          rw [List.append_cons w c s]
          split at h
          · next hlonger =>
              cases h
              exact matchRun_sound hrest hwc hlonger
          · obtain ⟨captures', hs, rfl⟩ := Option.map_eq_some_iff.mp h
            exact .run (by simp) hwc (hrest s captures' hs)
      · cases h

theorem matchRun_complete {letter : α → Bool} {rest : List α → Option (List (List α))}
    {s : List α} (hrest : ∃ captures, rest s = some captures) :
    ∀ {v w : List α}, v ≠ [] → (∀ c ∈ v, letter c = true) →
      ∃ captures, matchRun letter rest w (v ++ s) = some captures
  | [], w, hv, _ => absurd rfl hv
  | c :: v, w, _, hletters => by
      have hc : letter c = true := hletters c List.mem_cons_self
      rw [List.cons_append, matchRun, if_pos hc]
      cases hlonger : matchRun letter rest (w ++ [c]) (v ++ s) with
      | some captures => exact ⟨captures, rfl⟩
      | none =>
          cases v with
          | nil =>
              obtain ⟨captures, hs⟩ := hrest
              exact ⟨(w ++ [c]) :: captures, by simp [hs]⟩
          | cons d v =>
              obtain ⟨captures, hs⟩ := matchRun_complete hrest (w := w ++ [c])
                (List.cons_ne_nil d v) fun e he => hletters e (List.mem_cons_of_mem c he)
              rw [hlonger] at hs
              cases hs

variable [DecidableEq α]

theorem matchAll_sound : ∀ {pieces : List (Piece α)} {s : List α} {captures : List (List α)},
    matchAll pieces s = some captures → Matches pieces s captures
  | [], [], captures, h => by
      cases h
      exact .nil
  | [], c :: s, captures, h => by cases h
  | .literal text :: pieces, s, captures, h => by
      rw [matchAll] at h
      split at h
      · next htext =>
          obtain ⟨r, rfl⟩ := htext
          rw [List.drop_left] at h
          exact .literal (matchAll_sound h)
      · cases h
  | .run letter :: pieces, s, captures, h =>
      matchRun_sound (w := []) (fun _ _ => matchAll_sound) (fun _ hc => by cases hc) h

theorem Matches.complete {pieces : List (Piece α)} {s : List α} {captures : List (List α)}
    (h : Matches pieces s captures) : ∃ captures, matchAll pieces s = some captures := by
  induction h with
  | nil => exact ⟨[], rfl⟩
  | literal hs ih =>
      rw [matchAll, if_pos (List.prefix_append _ _), List.drop_left]
      exact ih
  | run hw hletters hs ih => exact matchRun_complete ih hw hletters

/-- The matcher finds a match exactly if there is one. -/
theorem matchAll_some_iff {pieces : List (Piece α)} {s : List α} :
    (∃ captures, matchAll pieces s = some captures) ↔ ∃ captures, Matches pieces s captures :=
  ⟨fun ⟨captures, h⟩ => ⟨captures, matchAll_sound h⟩, fun ⟨_, h⟩ => h.complete⟩

/-! ## Reading a match -/

section Reading

omit [DecidableEq α]

variable {text s w : List α} {letter : α → Bool} {pieces : List (Piece α)}

theorem matches_nil : (∃ captures, Matches [] s captures) ↔ s = [] := by
  constructor
  · rintro ⟨captures, h⟩
    cases h with
    | nil => rfl
  · rintro rfl
    exact ⟨[], .nil⟩

theorem matches_literal : (∃ captures, Matches (.literal text :: pieces) s captures) ↔
    ∃ r, s = text ++ r ∧ ∃ captures, Matches pieces r captures := by
  constructor
  · rintro ⟨captures, h⟩
    cases h with
    | literal hr => exact ⟨_, rfl, captures, hr⟩
  · rintro ⟨r, rfl, captures, hr⟩
    exact ⟨captures, .literal hr⟩

theorem matches_run : (∃ captures, Matches (.run letter :: pieces) s captures) ↔
    ∃ w r, s = w ++ r ∧ w ≠ [] ∧ (∀ c ∈ w, letter c = true) ∧
      ∃ captures, Matches pieces r captures := by
  constructor
  · rintro ⟨captures, h⟩
    cases h with
    | run hw hletters hr => exact ⟨_, _, rfl, hw, hletters, _, hr⟩
  · rintro ⟨w, r, rfl, hw, hletters, captures, hr⟩
    exact ⟨w :: captures, .run hw hletters hr⟩

/-- A literal at the front is read off. -/
theorem matches_literal_append :
    (∃ captures, Matches (.literal text :: pieces) (text ++ s) captures) ↔
      ∃ captures, Matches pieces s captures := by
  simp [matches_literal]

/-- A text without the literal in front does not match. -/
theorem not_matches_literal (h : ¬ text <+: s) :
    ¬ ∃ captures, Matches (.literal text :: pieces) s captures := by
  rw [matches_literal]
  rintro ⟨r, rfl, _⟩
  exact h (List.prefix_append text r)

/-- A run up to the end. -/
theorem matches_run_end : (∃ captures, Matches [.run letter] s captures) ↔
    s ≠ [] ∧ ∀ c ∈ s, letter c = true := by
  simp [matches_run, matches_nil]

/-- A run up to a literal at the end. -/
theorem matches_run_literal_end :
    (∃ captures, Matches [.run letter, .literal text] (w ++ text) captures) ↔
      w ≠ [] ∧ ∀ c ∈ w, letter c = true := by
  simp [matches_run, matches_literal, matches_nil]

end Reading

/-! ## Captures -/

section Captures

omit [DecidableEq α]

/-- The number of runs. -/
def groups : List (Piece α) → Nat
  | [] => 0
  | .literal _ :: pieces => groups pieces
  | .run _ :: pieces => groups pieces + 1

variable {pieces : List (Piece α)} {s : List α} {captures : List (List α)}

theorem Matches.length (h : Matches pieces s captures) : captures.length = groups pieces := by
  induction h with
  | nil => rfl
  | literal _ ih => exact ih
  | run _ _ _ ih => exact congrArg (· + 1) ih

/-- If all runs are of one class, every capture is a nonempty word of it. -/
theorem Matches.letters {letter : α → Bool} (h : Matches pieces s captures)
    (hruns : ∀ l, .run l ∈ pieces → l = letter) :
    ∀ w ∈ captures, w ≠ [] ∧ ∀ c ∈ w, letter c = true := by
  induction h with
  | nil => exact fun _ hw => by cases hw
  | literal _ ih => exact ih fun l hl => hruns l (List.mem_cons_of_mem _ hl)
  | run hw hletters _ ih =>
      refine List.forall_mem_cons.mpr ⟨⟨hw, ?_⟩, ih fun l hl => hruns l (List.mem_cons_of_mem _ hl)⟩
      rwa [← hruns _ List.mem_cons_self]

end Captures

/-! ## Counting -/

/-- How often a letter occurs in the literals. -/
def literalCount (c : α) : List (Piece α) → Nat
  | [] => 0
  | .literal text :: pieces => text.count c + literalCount c pieces
  | .run _ :: pieces => literalCount c pieces

/-- The letter is in none of the classes. -/
def Avoids (c : α) : List (Piece α) → Bool
  | [] => true
  | .literal _ :: pieces => Avoids c pieces
  | .run letter :: pieces => !letter c && Avoids c pieces

/-- A letter that is in no class occurs as often as the literals say. -/
theorem Matches.count {c : α} {pieces : List (Piece α)} {s : List α} {captures : List (List α)}
    (h : Matches pieces s captures) (hc : Avoids c pieces = true) :
    s.count c = literalCount c pieces := by
  induction h with
  | nil => rfl
  | literal _ ih => rw [List.count_append, literalCount, ih hc]
  | run _ hletters _ ih =>
      rw [Avoids, Bool.and_eq_true, Bool.not_eq_true'] at hc
      have hw := List.count_eq_zero_of_not_mem fun hmem =>
        Bool.false_ne_true (hc.1.symm.trans (hletters c hmem))
      rw [List.count_append, literalCount, hw, Nat.zero_add, ih hc.2]

end TextPattern
