import Mathlib.Algebra.GroupWithZero.Nat
import Mathlib.Data.List.Basic

/-!
# Literals between quotes

A text over some alphabet is code with literals in it.  A literal starts at a
quote and ends at the next quote that is not doubled, and a doubled quote inside
it stands for one.  `render` writes tokens down without doubling anything, as a
program does that pastes texts together.

Reading uses up the whole text (`length_of_lex`).  A quote inside a literal takes
two characters when it is read and one when it is written, so what `render` wrote
is read back only if no literal contains a quote (`lex_render_iff`), and no proper
beginning of it is read in its place (`lex_of_isPrefix`).
-/

namespace QuotedText

inductive Token (α : Type) where
  | code (a : α)
  | literal (text : List α)
deriving DecidableEq, Repr

/-- Where the reading stands. -/
inductive Mode (α : Type) where
  | code
  | inside (text : List α)
  /-- After a quote inside a literal. -/
  | closing (text : List α)

variable {α : Type} [DecidableEq α] (quote : α)

def lexFrom : Mode α → List α → Option (List (Token α))
  | .code, [] => some []
  | .code, a :: s =>
      if a = quote then lexFrom (.inside []) s else (lexFrom .code s).map (.code a :: ·)
  | .inside _, [] => none
  | .inside text, a :: s =>
      if a = quote then lexFrom (.closing text) s else lexFrom (.inside (text ++ [a])) s
  | .closing text, [] => some [.literal text]
  | .closing text, a :: s =>
      if a = quote then lexFrom (.inside (text ++ [quote])) s
      else (lexFrom .code s).map fun tokens => .literal text :: .code a :: tokens

/-- The tokens of a text, unless a literal has no end. -/
def lex (s : List α) : Option (List (Token α)) := lexFrom quote .code s

def Token.render : Token α → List α
  | .code a => [a]
  | .literal text => quote :: text ++ [quote]

def render (tokens : List (Token α)) : List α := tokens.flatMap (Token.render quote)

/-- There is code between any two literals, and none of it is a quote. -/
def Separated : List (Token α) → Prop
  | [] => True
  | .code a :: tokens => a ≠ quote ∧ Separated tokens
  | .literal _ :: tokens => (∀ text rest, tokens ≠ .literal text :: rest) ∧ Separated tokens

section Append

variable {quote}

omit [DecidableEq α]

@[simp] theorem render_append (xs ys : List (Token α)) :
    render quote (xs ++ ys) = render quote xs ++ render quote ys := List.flatMap_append

@[simp] theorem render_code (s : List α) : render quote (s.map .code) = s := by
  induction s with
  | nil => rfl
  | cons a s ih =>
      rw [render] at ih
      rw [List.map_cons, render, List.flatMap_cons, ih]
      rfl

theorem render_intercalate (sep : List (Token α)) (parts : List (List (Token α))) :
    render quote (sep.intercalate parts) =
      (render quote sep).intercalate (parts.map (render quote)) := by
  induction parts with
  | nil => rfl
  | cons part parts ih =>
      cases parts with
      | nil => simp
      | cons next parts =>
          rw [List.intercalate_cons_cons, render_append, render_append, ih]
          simp only [List.map_cons, List.intercalate_cons_cons]

/-- Tokens can be followed by others that do not start with a literal. -/
theorem Separated.append {xs ys : List (Token α)} (hxs : Separated quote xs)
    (hys : Separated quote ys) (hnext : ∀ text rest, ys ≠ .literal text :: rest) :
    Separated quote (xs ++ ys) := by
  induction xs with
  | nil => exact hys
  | cons token xs ih =>
      cases token with
      | code a => exact ⟨hxs.1, ih hxs.2⟩
      | literal text =>
          refine ⟨?_, ih hxs.2⟩
          cases xs with
          | nil => exact hnext
          | cons next xs => exact fun text' rest h => hxs.1 text' xs (by simp_all)

/-- Code can be followed by anything. -/
theorem separated_code {s : List α} {ys : List (Token α)} (hs : quote ∉ s)
    (hys : Separated quote ys) : Separated quote (s.map .code ++ ys) := by
  induction s with
  | nil => exact hys
  | cons a s ih =>
      exact ⟨fun h => hs (h ▸ List.mem_cons_self), ih fun h => hs (List.mem_cons_of_mem _ h)⟩

/-- Parts with code between them. -/
theorem separated_intercalate {sep : α} {seps : List α} (hsep : quote ∉ sep :: seps)
    {parts : List (List (Token α))} (hparts : ∀ part ∈ parts, Separated quote part) :
    Separated quote (((sep :: seps).map .code).intercalate parts) := by
  induction parts with
  | nil => trivial
  | cons part parts ih =>
      have hpart := hparts part List.mem_cons_self
      have hrest := ih fun part hmem => hparts part (List.mem_cons_of_mem _ hmem)
      cases parts with
      | nil => simpa using hpart
      | cons next parts =>
          rw [List.intercalate_cons_cons, List.append_assoc]
          exact hpart.append (separated_code hsep hrest) fun _ _ h => by cases h

end Append

/-! ## Lengths -/

/-- How many characters a token takes when it is read. -/
def Token.cost : Token α → Nat
  | .code _ => 1
  | .literal text => text.length + 2 + text.count quote

/-- How many characters have been read of the token that is not complete. -/
def Mode.cost : Mode α → Nat
  | .code => 0
  | .inside text => 1 + text.length + text.count quote
  | .closing text => 2 + text.length + text.count quote

theorem length_of_lexFrom {m : Mode α} {s : List α} {tokens : List (Token α)}
    (h : lexFrom quote m s = some tokens) :
    m.cost quote + s.length = (tokens.map (Token.cost quote)).sum := by
  induction s generalizing m tokens with
  | nil =>
      cases m with
      | code =>
          cases h
          rfl
      | inside text => cases h
      | closing text =>
          cases h
          simp only [Mode.cost, Token.cost, List.map_cons, List.map_nil, List.sum_cons,
            List.sum_nil, List.length_nil]
          omega
  | cons a s ih =>
      cases m with
      | code =>
          rw [lexFrom] at h
          split at h
          · have hlen := ih h
            simp only [Mode.cost, List.length_nil, List.count_nil, List.length_cons] at hlen ⊢
            omega
          · obtain ⟨rest, hrest, rfl⟩ := Option.map_eq_some_iff.mp h
            have hlen := ih hrest
            simp only [Mode.cost, Token.cost, List.map_cons, List.sum_cons,
              List.length_cons] at hlen ⊢
            omega
      | inside text =>
          rw [lexFrom] at h
          split at h
          · have hlen := ih h
            simp only [Mode.cost, List.length_cons] at hlen ⊢
            omega
          · next hne =>
              have hlen := ih h
              simp only [Mode.cost, List.length_append, List.length_cons, List.length_nil,
                List.count_append, List.count_singleton, beq_iff_eq, hne, if_false] at hlen ⊢
              omega
      | closing text =>
          rw [lexFrom] at h
          split at h
          · have hlen := ih h
            simp only [Mode.cost, List.length_append, List.length_cons, List.length_nil,
              List.count_append, List.count_singleton_self] at hlen ⊢
            omega
          · obtain ⟨rest, hrest, rfl⟩ := Option.map_eq_some_iff.mp h
            have hlen := ih hrest
            simp only [Mode.cost, Token.cost, List.map_cons, List.sum_cons,
              List.length_cons] at hlen ⊢
            omega

/-- Reading uses up the whole text. -/
theorem length_of_lex {s : List α} {tokens : List (Token α)} (h : lex quote s = some tokens) :
    s.length = (tokens.map (Token.cost quote)).sum := by
  simpa [Mode.cost] using length_of_lexFrom quote h

/-- What is written is at most what has to be read, and less if a literal
contains a quote. -/
theorem length_render_le (tokens : List (Token α)) :
    (render quote tokens).length ≤ (tokens.map (Token.cost quote)).sum ∧
      ((render quote tokens).length = (tokens.map (Token.cost quote)).sum →
        ∀ text, .literal text ∈ tokens → quote ∉ text) := by
  induction tokens with
  | nil => exact ⟨Nat.le_refl _, fun _ text h => by cases h⟩
  | cons token tokens ih =>
      obtain ⟨hle, hquotes⟩ := ih
      rw [render] at hle hquotes ⊢
      cases token with
      | code a =>
          simp only [List.flatMap_cons, Token.render, List.length_append, List.length_singleton,
            List.map_cons, List.sum_cons, Token.cost]
          refine ⟨by omega, fun heq text hmem => hquotes (by omega) text ?_⟩
          simpa using hmem
      | literal text' =>
          simp only [List.flatMap_cons, Token.render, List.length_append, List.length_cons,
            List.length_nil, List.map_cons, List.sum_cons, Token.cost]
          refine ⟨by omega, fun heq text hmem => ?_⟩
          rcases List.mem_cons.mp hmem with hmem | hmem
          · cases hmem
            exact List.count_eq_zero.mp (by omega)
          · exact hquotes (by omega) text hmem

/-! ## Reading back -/

theorem lexFrom_inside {s text : List α} (h : quote ∉ text) (read : List α) :
    lexFrom quote (.inside read) (text ++ s) = lexFrom quote (.inside (read ++ text)) s := by
  induction text generalizing read with
  | nil => simp
  | cons a text ih =>
      have ha : a ≠ quote := fun heq => h (heq ▸ List.mem_cons_self)
      rw [List.cons_append, lexFrom, if_neg ha, ih fun hmem => h (List.mem_cons_of_mem _ hmem)]
      simp

/-- A literal is complete where no quote follows. -/
theorem lexFrom_closing {s : List α} (text : List α) (h : ∀ rest, s ≠ quote :: rest) :
    lexFrom quote (.closing text) s = (lex quote s).map (.literal text :: ·) := by
  cases s with
  | nil => rfl
  | cons a s =>
      have ha : a ≠ quote := fun heq => h s (by rw [heq])
      rw [lex, lexFrom, lexFrom, if_neg ha, if_neg ha, Option.map_map]
      rfl

theorem lex_render {tokens : List (Token α)} (hsep : Separated quote tokens)
    (h : ∀ text, .literal text ∈ tokens → quote ∉ text) :
    lex quote (render quote tokens) = some tokens := by
  induction tokens with
  | nil => rfl
  | cons token tokens ih =>
      have hrest : ∀ text, .literal text ∈ tokens → quote ∉ text := fun text hmem =>
        h text (List.mem_cons_of_mem _ hmem)
      cases token with
      | code a =>
          have hread := ih hsep.2 hrest
          rw [lex, render] at hread
          rw [lex, render, List.flatMap_cons, Token.render, List.singleton_append, lexFrom,
            if_neg hsep.1, hread]
          rfl
      | literal text =>
          have hread := ih hsep.2 hrest
          have hnext : ∀ rest, render quote tokens ≠ quote :: rest := by
            intro rest hstart
            cases tokens with
            | nil => cases hstart
            | cons next tokens =>
                cases next with
                | code a =>
                    cases hstart
                    exact hsep.2.1 rfl
                | literal text' => exact hsep.1 text' tokens rfl
          have hwritten : render quote (.literal text :: tokens) =
              quote :: (text ++ quote :: render quote tokens) := by
            simp [render, Token.render]
          rw [hwritten, lex, lexFrom, if_pos rfl, lexFrom_inside quote (h text List.mem_cons_self),
            lexFrom, if_pos rfl, List.nil_append, lexFrom_closing quote text hnext, hread]
          rfl

/-- A beginning of what was written is read as the tokens only if it is all of it
and no literal contains a quote. -/
theorem lex_of_isPrefix {tokens : List (Token α)} {s : List α} (hs : s <+: render quote tokens)
    (h : lex quote s = some tokens) :
    s = render quote tokens ∧ ∀ text, .literal text ∈ tokens → quote ∉ text := by
  obtain ⟨hle, hquotes⟩ := length_render_le quote tokens
  have hlen := length_of_lex quote h
  have hshort := hs.length_le
  exact ⟨hs.eq_of_length (by omega), hquotes (by omega)⟩

/-- What was written is read back exactly if no literal contains a quote. -/
theorem lex_render_iff {tokens : List (Token α)} (hsep : Separated quote tokens) :
    lex quote (render quote tokens) = some tokens ↔
      ∀ text, .literal text ∈ tokens → quote ∉ text :=
  ⟨fun h => (lex_of_isPrefix quote List.prefix_rfl h).2, lex_render quote hsep⟩

end QuotedText
