import Mathlib.Data.List.TakeWhile
import Mathlib.Tactic.Tauto
import PorcelainMonitor.Database.DatabaseManager
import PorcelainMonitor.Lib.Decimal
import PorcelainMonitor.Lib.QuotedText
import PorcelainMonitor.Lib.Utf8

/-!
# The text of an `INSERT`

The insert functions paste values between apostrophes without doubling those
inside them, and `dump()` leaves apostrophes alone.  The server reads literals up
to the first apostrophe that is not doubled, and sees the text up to its first
zero byte, since `PQexec` takes a C string.
-/

namespace PorcelainMonitor.Database

open PooledProgram (Program)
open QuotedText (Token)
open Utf8 (bytes)

variable {R : Type}

def apostrophe : UInt8 := 0x27

/-- Neither an apostrophe nor a semicolon nor a zero. -/
def isCode (b : UInt8) : Bool := b ≠ apostrophe && b ≠ 0x3B && b ≠ 0

/-- How the program writes numbers and times. -/
structure Printing (R : Type) where
  /-- `operator<<` -/
  ostream : R → List UInt8
  /-- `put_time` of `gmtime` with `"%Y-%m-%d %H:%M:%S"`. -/
  putTime : Int → List UInt8
  /-- A number inside `dump()`. -/
  dumpFloat : R → List UInt8
  ostream_isCode : ∀ x, ∀ b ∈ ostream x, isCode b = true
  putTime_isCode : ∀ t, ∀ b ∈ putTime t, isCode b = true
  dumpFloat_isCode : ∀ x, ∀ b ∈ dumpFloat x, isCode b = true

/-! ## `dump()` -/

def hexDigit (n : UInt8) : UInt8 := if n < 10 then 0x30 + n else 0x57 + n

/-- A byte of a string. -/
def escape (b : UInt8) : List UInt8 :=
  if b = 0x22 then [0x5C, 0x22]
  else if b = 0x5C then [0x5C, 0x5C]
  else if b = 0x08 then [0x5C, 0x62]
  else if b = 0x0C then [0x5C, 0x66]
  else if b = 0x0A then [0x5C, 0x6E]
  else if b = 0x0D then [0x5C, 0x72]
  else if b = 0x09 then [0x5C, 0x74]
  else if b < 0x20 then [0x5C, 0x75, 0x30, 0x30, hexDigit (b / 16), hexDigit (b % 16)]
  else [b]

def dumpString (s : List UInt8) : List UInt8 := 0x22 :: s.flatMap escape ++ [0x22]

mutual

def dumped (p : Printing R) : Json R → List UInt8
  | .null => bytes "null"
  | .bool b => bytes (if b then "true" else "false")
  | .int n => bytes (toString n)
  | .float x => p.dumpFloat x
  | .str s => dumpString s
  | .arr items => 0x5B :: itemsDumped p items ++ [0x5D]
  | .obj fields => 0x7B :: fieldsDumped p fields ++ [0x7D]

/-- Values with commas between them. -/
def itemsDumped (p : Printing R) : List (Json R) → List UInt8
  | [] => []
  | [j] => dumped p j
  | j :: js => dumped p j ++ 0x2C :: itemsDumped p js

def fieldsDumped (p : Printing R) : List (List UInt8 × Json R) → List UInt8
  | [] => []
  | [(key, j)] => dumpString key ++ 0x3A :: dumped p j
  | (key, j) :: fs => dumpString key ++ 0x3A :: dumped p j ++ 0x2C :: fieldsDumped p fs

end

/-! ## Statements -/

def quoted (s : List UInt8) : List UInt8 := apostrophe :: s ++ [apostrophe]

def Value.sql (p : Printing R) : Value R → List UInt8
  | .null => bytes "NULL"
  | .int n => bytes (toString n)
  | .real x => p.ostream x
  | .bool b => bytes (if b then "TRUE" else "FALSE")
  | .time t => quoted (p.putTime t)
  | .array xs =>
      bytes "ARRAY[" ++ (bytes ",").intercalate (xs.map p.ostream) ++ bytes "]::numeric[]"
  | .text s => quoted (bytes s)
  | .cast s type => quoted (bytes s) ++ bytes ("::" ++ type)
  | .jsonb j => quoted (dumped p j) ++ bytes "::jsonb"
  | .currentTimestamp => bytes "CURRENT_TIMESTAMP"

def insertSql (p : Printing R) (table : String) (values : List (String × Value R))
    (returning : Bool) : List UInt8 :=
  bytes "INSERT INTO " ++ bytes table ++ bytes " (" ++
    (bytes ", ").intercalate (values.map fun column => bytes column.1) ++ bytes ") VALUES (" ++
    (bytes ", ").intercalate (values.map fun column => column.2.sql p) ++
    bytes (if returning then ") RETURNING id" else ")")

/-- A C string ends at its first zero. -/
def cString (s : List UInt8) : List UInt8 := s.takeWhile (· ≠ 0)

/-! ## Reading -/

def codeTokens (s : List UInt8) : List (Token UInt8) := s.map .code

/-- The text in the literal of a value, if it has one. -/
def Value.literal (p : Printing R) : Value R → Option (List UInt8)
  | .time t => some (p.putTime t)
  | .text s => some (bytes s)
  | .cast s _ => some (bytes s)
  | .jsonb j => some (dumped p j)
  | _ => none

/-- A value as it is meant to be read. -/
def Value.tokens (p : Printing R) : Value R → List (Token UInt8)
  | .time t => [.literal (p.putTime t)]
  | .text s => [.literal (bytes s)]
  | .cast s type => .literal (bytes s) :: codeTokens (bytes ("::" ++ type))
  | .jsonb j => .literal (dumped p j) :: codeTokens (bytes "::jsonb")
  | v => codeTokens (v.sql p)

def insertTokens (p : Printing R) (table : String) (values : List (String × Value R))
    (returning : Bool) : List (Token UInt8) :=
  codeTokens (bytes "INSERT INTO " ++ bytes table ++ bytes " (" ++
    (bytes ", ").intercalate (values.map fun column => bytes column.1) ++ bytes ") VALUES (") ++
    ((codeTokens (bytes ", ")).intercalate (values.map fun column => column.2.tokens p) ++
      codeTokens (bytes (if returning then ") RETURNING id" else ")")))

def literalText : Token UInt8 → Option (List UInt8)
  | .code _ => none
  | .literal s => some s

/-- One `INSERT` with these literals. -/
structure IsInsert (tokens : List (Token UInt8)) (literals : List (List UInt8)) : Prop where
  starts : codeTokens (bytes "INSERT INTO ") <+: tokens
  single : .code 0x3B ∉ tokens
  literals : tokens.filterMap literalText = literals

/-- What the server sees of the text is read as the `INSERT` that was meant, with
the texts of the values in its literals. -/
def Query.ReadAsWritten (p : Printing R) : Query R → Prop
  | .insert table values returning =>
      QuotedText.lex apostrophe (cString (insertSql p table values returning)) =
          some (insertTokens p table values returning) ∧
        IsInsert (insertTokens p table values returning)
          (values.filterMap fun column => column.2.literal p)
  | _ => False

/-! ## Names and numbers -/

section Code

/-- A name of the schema, or another constant of the program. -/
def plainName (s : String) : Bool :=
  s.toList.all fun c => c ≠ Char.ofNat 0x27 && c ≠ ';' && c ≠ Char.ofNat 0

theorem isCode_of_plainName {s : String} (h : plainName s = true) :
    ∀ b ∈ bytes s, isCode b = true := by
  intro b hb
  have hplain : ∀ c : Char, c = Char.ofNat 0x27 ∨ c = ';' ∨ c = Char.ofNat 0 → c ∉ s.toList := by
    intro c hc hmem
    have := List.all_eq_true.mp h c hmem
    rcases hc with rfl | rfl | rfl <;> simp at this
  have hne : ∀ c : Char, c = Char.ofNat 0x27 ∨ c = ';' ∨ c = Char.ofNat 0 →
      b ≠ UInt8.ofNat c.toNat := by
    rintro c hc rfl
    refine hplain c hc ((Utf8.mem_bytes_ofNat ?_).mp hb)
    rcases hc with rfl | rfl | rfl <;> decide
  have hquote : b ≠ 0x27 := hne (Char.ofNat 0x27) (.inl rfl)
  have hsemicolon : b ≠ 0x3B := hne ';' (.inr (.inl rfl))
  have hzero : b ≠ 0 := hne (Char.ofNat 0) (.inr (.inr rfl))
  simp [isCode, apostrophe, hquote, hsemicolon, hzero]

theorem plainName_toString (n : Int) : plainName (toString n) = true := by
  have hdigits : ∀ k : Nat, ((Nat.toDigits 10 k).all fun c =>
      c ≠ Char.ofNat 0x27 && c ≠ ';' && c ≠ Char.ofNat 0) = true := by
    intro k
    refine List.all_eq_true.mpr fun c hc => ?_
    have hdigit := Decimal.isDigit_of_mem hc
    have hne : ∀ d : Char, d.isDigit = false → c ≠ d := by
      rintro d hd rfl
      rw [hdigit] at hd
      cases hd
    simp [hne (Char.ofNat 0x27) rfl, hne ';' rfl, hne (Char.ofNat 0) rfl]
  rw [plainName, Decimal.toList_toString]
  split
  · exact hdigits _
  · rw [List.all_cons, hdigits]
    decide

end Code

/-! ## The tokens of a statement -/

section Tokens

variable (p : Printing R)

/-- All code among the tokens is of harmless bytes. -/
def CodeOnly (tokens : List (Token UInt8)) : Prop := ∀ b, .code b ∈ tokens → isCode b = true

theorem codeOnly_codeTokens {s : List UInt8} (h : ∀ b ∈ s, isCode b = true) :
    CodeOnly (codeTokens s) := by
  intro b hb
  obtain ⟨_, hmem, heq⟩ := List.mem_map.mp hb
  cases heq
  exact h b hmem

theorem codeOnly_plain {s : String} (h : plainName s = true) : CodeOnly (codeTokens (bytes s)) :=
  codeOnly_codeTokens (isCode_of_plainName h)

theorem CodeOnly.append {xs ys : List (Token UInt8)} (hxs : CodeOnly xs) (hys : CodeOnly ys) :
    CodeOnly (xs ++ ys) := by
  intro b hb
  rcases List.mem_append.mp hb with hb | hb
  · exact hxs b hb
  · exact hys b hb

theorem CodeOnly.literal {xs : List (Token UInt8)} (s : List UInt8) (hxs : CodeOnly xs) :
    CodeOnly (.literal s :: xs) := by
  intro b hb
  rcases List.mem_cons.mp hb with hb | hb
  · cases hb
  · exact hxs b hb

/-- What holds of the separator and of the parts holds of all bytes. -/
theorem forall_mem_intercalate {α : Type} {P : α → Prop} {sep : List α} {parts : List (List α)}
    (hsep : ∀ a ∈ sep, P a) (hparts : ∀ part ∈ parts, ∀ a ∈ part, P a) :
    ∀ a ∈ sep.intercalate parts, P a := by
  induction parts with
  | nil => exact fun a ha => by cases ha
  | cons part parts ih =>
      have hpart := hparts part List.mem_cons_self
      have hrest := ih fun part hmem => hparts part (List.mem_cons_of_mem _ hmem)
      cases parts with
      | nil => simpa using hpart
      | cons next parts =>
          intro a ha
          rw [List.intercalate_cons_cons, List.append_assoc, List.mem_append,
            List.mem_append] at ha
          rcases ha with ha | ha | ha
          · exact hpart a ha
          · exact hsep a ha
          · exact hrest a ha

/-- A cast names a type of the schema. -/
def Value.plainType : Value R → Bool
  | .cast _ type => plainName type
  | _ => true

def plainNames (table : String) (values : List (String × Value R)) : Bool :=
  (table :: values.map Prod.fst).all plainName && (values.map Prod.snd).all Value.plainType

theorem plainName_append {s s' : String} (h : plainName s = true) (h' : plainName s' = true) :
    plainName (s ++ s') = true := by
  rw [plainName, String.toList_append, List.all_append, Bool.and_eq_true]
  exact ⟨h, h'⟩

theorem render_tokens (v : Value R) : QuotedText.render apostrophe (v.tokens p) = v.sql p := by
  cases v with
  | time t => simp [Value.tokens, Value.sql, quoted, QuotedText.render, Token.render]
  | text s => simp [Value.tokens, Value.sql, quoted, QuotedText.render, Token.render]
  | cast s type =>
      have hcode : QuotedText.render apostrophe (codeTokens (bytes ("::" ++ type))) =
          bytes ("::" ++ type) := QuotedText.render_code _
      rw [QuotedText.render] at hcode
      rw [Value.tokens, Value.sql, QuotedText.render, List.flatMap_cons, hcode]
      rfl
  | jsonb j =>
      have hcode : QuotedText.render apostrophe (codeTokens (bytes "::jsonb")) =
          bytes "::jsonb" := QuotedText.render_code _
      rw [QuotedText.render] at hcode
      rw [Value.tokens, Value.sql, QuotedText.render, List.flatMap_cons, hcode]
      rfl
  | null => exact QuotedText.render_code _
  | int n => exact QuotedText.render_code _
  | real x => exact QuotedText.render_code _
  | bool b => exact QuotedText.render_code _
  | array xs => exact QuotedText.render_code _
  | currentTimestamp => exact QuotedText.render_code _

theorem codeOnly_tokens {v : Value R} (h : v.plainType = true) : CodeOnly (v.tokens p) := by
  cases v with
  | time t => exact fun b hb => by simp [Value.tokens] at hb
  | text s => exact fun b hb => by simp [Value.tokens] at hb
  | cast s type => exact (codeOnly_plain (plainName_append rfl h)).literal _
  | jsonb j => exact (codeOnly_plain rfl).literal _
  | null => exact codeOnly_plain rfl
  | int n => exact codeOnly_plain (plainName_toString n)
  | real x => exact codeOnly_codeTokens (p.ostream_isCode x)
  | bool b =>
      cases b with
      | true => exact codeOnly_plain rfl
      | false => exact codeOnly_plain rfl
  | array xs =>
      refine codeOnly_codeTokens fun b hb => ?_
      rw [Value.sql, List.mem_append, List.mem_append] at hb
      rcases hb with (hb | hb) | hb
      · exact isCode_of_plainName (s := "ARRAY[") rfl b hb
      · refine forall_mem_intercalate (isCode_of_plainName rfl) (fun part hpart => ?_) b hb
        obtain ⟨x, -, rfl⟩ := List.mem_map.mp hpart
        exact p.ostream_isCode x
      · exact isCode_of_plainName (s := "]::numeric[]") rfl b hb
  | currentTimestamp => exact codeOnly_plain rfl

theorem filterMap_codeTokens (s : List UInt8) : (codeTokens s).filterMap literalText = [] := by
  rw [List.filterMap_eq_nil_iff]
  rintro _ hmem
  obtain ⟨_, -, rfl⟩ := List.mem_map.mp hmem
  rfl

theorem filterMap_tokens (v : Value R) :
    (v.tokens p).filterMap literalText = (v.literal p).toList := by
  cases v with
  | time t => rfl
  | text s => rfl
  | cast s type =>
      rw [Value.tokens, List.filterMap_cons, filterMap_codeTokens]
      rfl
  | jsonb j =>
      rw [Value.tokens, List.filterMap_cons, filterMap_codeTokens]
      rfl
  | null => exact filterMap_codeTokens _
  | int n => exact filterMap_codeTokens _
  | real x => exact filterMap_codeTokens _
  | bool b => exact filterMap_codeTokens _
  | array xs => exact filterMap_codeTokens _
  | currentTimestamp => exact filterMap_codeTokens _

theorem filterMap_intercalate {sep : List UInt8} (values : List (String × Value R)) :
    ((codeTokens sep).intercalate (values.map fun column => column.2.tokens p)).filterMap
      literalText = values.filterMap fun column => column.2.literal p := by
  induction values with
  | nil => rfl
  | cons column values ih =>
      have hcolumn : (column :: values).filterMap (fun column => column.2.literal p) =
          (column.2.literal p).toList ++ values.filterMap fun column => column.2.literal p := by
        rw [List.filterMap_cons]
        cases column.2.literal p <;> rfl
      cases values with
      | nil => simp [filterMap_tokens, List.filterMap_cons]; cases column.2.literal p <;> rfl
      | cons next values =>
          rw [hcolumn, ← ih]
          simp only [List.map_cons, List.intercalate_cons_cons, List.filterMap_append,
            filterMap_tokens, filterMap_codeTokens, List.append_nil]

theorem separated_codeTokens {s : List UInt8} {tokens : List (Token UInt8)}
    (hs : CodeOnly (codeTokens s)) (h : QuotedText.Separated apostrophe tokens) :
    QuotedText.Separated apostrophe (codeTokens s ++ tokens) := by
  refine QuotedText.separated_code (fun hmem => ?_) h
  have hcode := hs apostrophe (List.mem_map.mpr ⟨_, hmem, rfl⟩)
  simp [isCode] at hcode

theorem separated_tokens {v : Value R} (h : v.plainType = true) :
    QuotedText.Separated apostrophe (v.tokens p) := by
  have hcode : ∀ s : List UInt8, CodeOnly (codeTokens s) →
      QuotedText.Separated apostrophe (codeTokens s) := by
    intro s hs
    have hsep : QuotedText.Separated apostrophe (codeTokens s ++ []) :=
      separated_codeTokens hs trivial
    rwa [List.append_nil] at hsep
  have hliteral : ∀ s s' : List UInt8, CodeOnly (codeTokens s') →
      QuotedText.Separated apostrophe (.literal s :: codeTokens s') := by
    refine fun s s' hs' => ⟨fun s'' rest heq => ?_, hcode s' hs'⟩
    have hmem : .literal s'' ∈ codeTokens s' := heq ▸ List.mem_cons_self
    obtain ⟨_, -, hne⟩ := List.mem_map.mp hmem
    cases hne
  have honly := codeOnly_tokens p h
  cases v with
  | time t => exact hliteral _ [] fun b hb => by cases hb
  | text s => exact hliteral _ [] fun b hb => by cases hb
  | cast s type => exact hliteral _ _ (codeOnly_plain (plainName_append rfl h))
  | jsonb j => exact hliteral _ _ (codeOnly_plain rfl)
  | null => exact hcode _ honly
  | int n => exact hcode _ honly
  | real x => exact hcode _ honly
  | bool b => exact hcode _ honly
  | array xs => exact hcode _ honly
  | currentTimestamp => exact hcode _ honly

section Insert

variable {table : String} {values : List (String × Value R)} {returning : Bool}

theorem render_insertTokens (table : String) (values : List (String × Value R))
    (returning : Bool) : QuotedText.render apostrophe (insertTokens p table values returning) =
      insertSql p table values returning := by
  have hvalues : (values.map fun column => column.2.tokens p).map
      (QuotedText.render apostrophe) = values.map fun column => column.2.sql p := by
    simp [render_tokens]
  have hcode : ∀ s, QuotedText.render apostrophe (codeTokens s) = s := QuotedText.render_code
  rw [insertTokens, QuotedText.render_append, QuotedText.render_append,
    QuotedText.render_intercalate, hvalues, hcode, hcode, hcode, insertSql]
  simp only [List.append_assoc]

theorem plainTypes (h : plainNames table values = true) :
    ∀ column ∈ values, column.2.plainType = true := by
  rw [plainNames, Bool.and_eq_true, List.all_eq_true, List.all_eq_true] at h
  exact fun column hmem => h.2 _ (List.mem_map_of_mem hmem)

/-- The code before the values. -/
theorem codeOnly_head (h : plainNames table values = true) :
    CodeOnly (codeTokens (bytes "INSERT INTO " ++ bytes table ++ bytes " (" ++
      (bytes ", ").intercalate (values.map fun column => bytes column.1) ++
      bytes ") VALUES (")) := by
  rw [plainNames, Bool.and_eq_true, List.all_cons, Bool.and_eq_true, List.all_eq_true] at h
  obtain ⟨⟨htable, hcolumns⟩, -⟩ := h
  refine codeOnly_codeTokens fun b hb => ?_
  simp only [List.mem_append] at hb
  rcases hb with (((hb | hb) | hb) | hb) | hb
  · exact isCode_of_plainName (s := "INSERT INTO ") rfl b hb
  · exact isCode_of_plainName htable b hb
  · exact isCode_of_plainName (s := " (") rfl b hb
  · refine forall_mem_intercalate (isCode_of_plainName rfl) (fun part hpart => ?_) b hb
    obtain ⟨column, hmem, rfl⟩ := List.mem_map.mp hpart
    exact isCode_of_plainName (hcolumns _ (List.mem_map_of_mem hmem))
  · exact isCode_of_plainName (s := ") VALUES (") rfl b hb

/-- The code after the values. -/
theorem codeOnly_tail (returning : Bool) :
    CodeOnly (codeTokens (bytes (if returning then ") RETURNING id" else ")"))) := by
  cases returning with
  | true => exact codeOnly_plain rfl
  | false => exact codeOnly_plain rfl

theorem codeOnly_insertTokens (h : plainNames table values = true) :
    CodeOnly (insertTokens p table values returning) := by
  refine (codeOnly_head h).append (CodeOnly.append (fun b hb => ?_) (codeOnly_tail returning))
  refine forall_mem_intercalate (P := fun token => ∀ b, token = .code b → isCode b = true)
    (fun token htoken b heq => ?_) (fun part hpart token htoken b heq => ?_) _ hb b rfl
  · exact codeOnly_plain (s := ", ") rfl b (heq ▸ htoken)
  · obtain ⟨column, hmem, rfl⟩ := List.mem_map.mp hpart
    exact codeOnly_tokens p (plainTypes h column hmem) b (heq ▸ htoken)

theorem separated_insertTokens (h : plainNames table values = true) :
    QuotedText.Separated apostrophe (insertTokens p table values returning) := by
  have hvalues : QuotedText.Separated apostrophe ((codeTokens (bytes ", ")).intercalate
      (values.map fun column => column.2.tokens p)) := by
    refine QuotedText.separated_intercalate (by decide) fun part hpart => ?_
    obtain ⟨column, hmem, rfl⟩ := List.mem_map.mp hpart
    exact separated_tokens p (plainTypes h column hmem)
  have htail : QuotedText.Separated apostrophe
      (codeTokens (bytes (if returning then ") RETURNING id" else ")")) ++ []) :=
    separated_codeTokens (codeOnly_tail returning) trivial
  rw [List.append_nil] at htail
  refine separated_codeTokens (codeOnly_head h) (hvalues.append htail fun s rest heq => ?_)
  cases returning <;> cases heq

/-- The tokens are one `INSERT` with the texts of the values in its literals. -/
theorem isInsert_insertTokens (h : plainNames table values = true) :
    IsInsert (insertTokens p table values returning)
      (values.filterMap fun column => column.2.literal p) where
  starts := by
    rw [insertTokens, codeTokens, codeTokens, List.map_append, List.map_append, List.map_append,
      List.map_append]
    simp only [List.append_assoc]
    exact List.prefix_append _ _
  single := fun hmem => by simpa [isCode] using codeOnly_insertTokens p h _ hmem
  literals := by
    rw [insertTokens, List.filterMap_append, List.filterMap_append, filterMap_codeTokens,
      filterMap_codeTokens, filterMap_intercalate, List.nil_append, List.append_nil]

end Insert

end Tokens

/-! ## Apostrophes -/

section Clean

/-- A text without apostrophes and zeros. -/
def cleanText (s : String) : Bool := s.toList.all fun c => c ≠ Char.ofNat 0x27 && c ≠ Char.ofNat 0

def Value.clean : Value R → Bool
  | .text s => cleanText s
  | .cast s _ => cleanText s
  | .jsonb j => j.quoteFree
  | _ => true

/-- Bytes without apostrophes and zeros. -/
def CleanBytes (s : List UInt8) : Prop := apostrophe ∉ s ∧ 0 ∉ s

theorem cleanBytes_of_isCode {s : List UInt8} (h : ∀ b ∈ s, isCode b = true) : CleanBytes s :=
  ⟨fun hmem => by simpa [isCode] using h _ hmem, fun hmem => by simpa [isCode] using h _ hmem⟩

theorem cleanBytes_singleton {b : UInt8} (h : isCode b = true) : CleanBytes [b] :=
  cleanBytes_of_isCode fun c hc => by rwa [List.mem_singleton.mp hc]

theorem cleanBytes_append {s s' : List UInt8} :
    CleanBytes (s ++ s') ↔ CleanBytes s ∧ CleanBytes s' := by
  simp only [CleanBytes, List.mem_append, not_or]
  tauto

theorem cleanBytes_cons {b : UInt8} {s : List UInt8} (hb : isCode b = true) :
    CleanBytes (b :: s) ↔ CleanBytes s := by
  have hsingle : CleanBytes [b] := cleanBytes_of_isCode fun _ hmem =>
    List.mem_singleton.mp hmem ▸ hb
  rw [← List.singleton_append, cleanBytes_append]
  exact and_iff_right hsingle

theorem cleanBytes_bytes_iff {s : String} : CleanBytes (bytes s) ↔ cleanText s = true := by
  have hquote : apostrophe ∈ bytes s ↔ Char.ofNat 0x27 ∈ s.toList :=
    Utf8.mem_bytes_ofNat (c := Char.ofNat 0x27) (by decide)
  have hzero : (0 : UInt8) ∈ bytes s ↔ Char.ofNat 0 ∈ s.toList :=
    Utf8.mem_bytes_ofNat (c := Char.ofNat 0) (by decide)
  rw [CleanBytes, hquote, hzero, cleanText, List.all_eq_true]
  constructor
  · rintro ⟨h, h'⟩ c hc
    have hne : c ≠ Char.ofNat 0x27 := fun heq => h (heq ▸ hc)
    have hne' : c ≠ Char.ofNat 0 := fun heq => h' (heq ▸ hc)
    simp [hne, hne']
  · intro h
    exact ⟨fun hmem => by simpa using h _ hmem, fun hmem => by simpa using h _ hmem⟩

/-! ## Apostrophes in `dump()` -/

theorem hexDigit_isCode {n : UInt8} (h : n.toNat < 16) : isCode (hexDigit n) = true := by
  have hall : ∀ k : Fin 16, isCode (hexDigit (UInt8.ofNat k.val)) = true := by decide
  have hn := hall ⟨n.toNat, h⟩
  rwa [UInt8.ofNat_toNat] at hn

theorem cleanBytes_flatMap {α : Type} {f : α → List UInt8} {xs : List α} :
    CleanBytes (xs.flatMap f) ↔ ∀ x ∈ xs, CleanBytes (f x) := by
  induction xs with
  | nil => simp [CleanBytes]
  | cons x xs ih => rw [List.flatMap_cons, cleanBytes_append, ih, List.forall_mem_cons]

/-- An escaped byte is clean unless it is an apostrophe, which is not escaped. -/
theorem cleanBytes_escape (b : UInt8) : CleanBytes (escape b) ↔ b ≠ apostrophe := by
  rw [escape]
  split
  · next h => simp [h, CleanBytes, apostrophe]
  split
  · next h => simp [h, CleanBytes, apostrophe]
  split
  · next h => simp [h, CleanBytes, apostrophe]
  split
  · next h => simp [h, CleanBytes, apostrophe]
  split
  · next h => simp [h, CleanBytes, apostrophe]
  split
  · next h => simp [h, CleanBytes, apostrophe]
  split
  · next h => simp [h, CleanBytes, apostrophe]
  split
  · next h =>
      have hb : b.toNat < 32 := UInt8.lt_iff_toNat_lt.mp h
      have hne : b ≠ apostrophe := by
        rintro rfl
        exact absurd hb (by decide)
      have hhigh : isCode (hexDigit (b / 16)) = true := hexDigit_isCode (by
        have hsixteen : (16 : UInt8).toNat = 16 := rfl
        rw [UInt8.toNat_div, hsixteen]
        omega)
      have hlow : isCode (hexDigit (b % 16)) = true := hexDigit_isCode (by
        rw [UInt8.toNat_mod]
        exact Nat.mod_lt _ (by decide))
      refine iff_of_true ?_ hne
      rw [cleanBytes_cons rfl, cleanBytes_cons rfl, cleanBytes_cons rfl, cleanBytes_cons rfl,
        cleanBytes_cons hhigh, cleanBytes_cons hlow]
      simp [CleanBytes]
  · next h =>
      have hb : b ≠ 0 := by
        rintro rfl
        exact h (by decide)
      simp [CleanBytes, Ne.symm hb, eq_comm]

theorem cleanBytes_dumpString (s : List UInt8) :
    CleanBytes (dumpString s) ↔ s.contains 0x27 = false := by
  rw [dumpString, cleanBytes_append, cleanBytes_cons rfl, cleanBytes_flatMap]
  simp only [cleanBytes_escape]
  have hend : CleanBytes [0x22] := cleanBytes_singleton rfl
  simp only [hend, and_true, List.contains_eq_mem, decide_eq_false_iff_not]
  constructor
  · exact fun h hmem => h _ hmem rfl
  · rintro h b hb rfl
    exact h hb

mutual

/-- `dump()` leaves the apostrophes of strings and keys, and makes no zeros. -/
theorem cleanBytes_dumped (p : Printing R) : ∀ j : Json R,
    CleanBytes (dumped p j) ↔ j.quoteFree = true
  | .null => iff_of_true (cleanBytes_bytes_iff.mpr rfl) rfl
  | .bool b => by
      refine iff_of_true (cleanBytes_bytes_iff.mpr ?_) rfl
      cases b <;> rfl
  | .int n => iff_of_true (cleanBytes_of_isCode (isCode_of_plainName (plainName_toString n))) rfl
  | .float x => iff_of_true (cleanBytes_of_isCode (p.dumpFloat_isCode x)) rfl
  | .str s => by
      rw [dumped, cleanBytes_dumpString, Json.quoteFree, Bool.not_eq_true']
  | .arr items => by
      have hend : CleanBytes [0x5D] := cleanBytes_singleton rfl
      rw [dumped, cleanBytes_append, cleanBytes_cons rfl, Json.quoteFree,
        cleanBytes_itemsDumped p items]
      exact and_iff_left hend
  | .obj fields => by
      have hend : CleanBytes [0x7D] := cleanBytes_singleton rfl
      rw [dumped, cleanBytes_append, cleanBytes_cons rfl, Json.quoteFree,
        cleanBytes_fieldsDumped p fields]
      exact and_iff_left hend

theorem cleanBytes_itemsDumped (p : Printing R) : ∀ items : List (Json R),
    CleanBytes (itemsDumped p items) ↔ itemsQuoteFree items = true
  | [] => iff_of_true (by simp [itemsDumped, CleanBytes]) rfl
  | [j] => by
      rw [itemsDumped, cleanBytes_dumped p j]
      simp [itemsQuoteFree]
  | j :: j' :: js => by
      have hcons : itemsQuoteFree (j :: j' :: js) = (j.quoteFree && itemsQuoteFree (j' :: js)) :=
        rfl
      rw [itemsDumped, cleanBytes_append, cleanBytes_cons rfl, cleanBytes_dumped p j,
        cleanBytes_itemsDumped p (j' :: js), hcons, Bool.and_eq_true]
      exact fun h => by cases h

theorem cleanBytes_fieldsDumped (p : Printing R) : ∀ fields : List (List UInt8 × Json R),
    CleanBytes (fieldsDumped p fields) ↔ fieldsQuoteFree fields = true
  | [] => iff_of_true (by simp [fieldsDumped, CleanBytes]) rfl
  | [(key, j)] => by
      rw [fieldsDumped, cleanBytes_append, cleanBytes_cons rfl, cleanBytes_dumpString,
        cleanBytes_dumped p j]
      simp [fieldsQuoteFree]
  | (key, j) :: f :: fs => by
      rw [fieldsDumped, cleanBytes_append, cleanBytes_append, cleanBytes_cons rfl,
        cleanBytes_cons rfl, cleanBytes_dumpString, cleanBytes_dumped p j,
        cleanBytes_fieldsDumped p (f :: fs)]
      · simp [fieldsQuoteFree]
      · exact fun h => by cases h

end

theorem literal_clean_iff (p : Printing R) (v : Value R) :
    (∀ s, v.literal p = some s → CleanBytes s) ↔ v.clean = true := by
  cases v with
  | time t => simpa [Value.literal, Value.clean] using cleanBytes_of_isCode (p.putTime_isCode t)
  | text s => simp [Value.literal, Value.clean, cleanBytes_bytes_iff]
  | cast s type => simp [Value.literal, Value.clean, cleanBytes_bytes_iff]
  | jsonb j => simp [Value.literal, Value.clean, cleanBytes_dumped]
  | null => simp [Value.literal, Value.clean]
  | int n => simp [Value.literal, Value.clean]
  | real x => simp [Value.literal, Value.clean]
  | bool b => simp [Value.literal, Value.clean]
  | array xs => simp [Value.literal, Value.clean]
  | currentTimestamp => simp [Value.literal, Value.clean]

end Clean

/-! ## Statements that are read as written -/

section Read

variable {table : String} {values : List (String × Value R)} {returning : Bool}

theorem mem_filterMap_literalText {tokens : List (Token UInt8)} {s : List UInt8} :
    s ∈ tokens.filterMap literalText ↔ .literal s ∈ tokens := by
  rw [List.mem_filterMap]
  constructor
  · rintro ⟨token, htoken, hs⟩
    cases token with
    | code b => cases hs
    | literal s' =>
        cases hs
        exact htoken
  · exact fun hs => ⟨_, hs, rfl⟩

/-- The literals of an `INSERT` are clean exactly if the values are. -/
theorem literals_clean_iff (p : Printing R) (h : plainNames table values = true) :
    (∀ s, .literal s ∈ insertTokens p table values returning → CleanBytes s) ↔
      ∀ column ∈ values, column.2.clean = true := by
  have hmem : ∀ s, .literal s ∈ insertTokens p table values returning ↔
      ∃ column ∈ values, column.2.literal p = some s := by
    intro s
    rw [← mem_filterMap_literalText, (isInsert_insertTokens p h).literals, List.mem_filterMap]
  simp only [hmem]
  constructor
  · exact fun hclean column hcolumn => (literal_clean_iff p column.2).mp fun s hs =>
      hclean s ⟨column, hcolumn, hs⟩
  · rintro hclean s ⟨column, hcolumn, hs⟩
    exact (literal_clean_iff p column.2).mpr (hclean column hcolumn) s hs

/-- The server sees all of a text with clean literals. -/
theorem cString_insertSql (p : Printing R) (h : plainNames table values = true)
    (hclean : ∀ s, .literal s ∈ insertTokens p table values returning → CleanBytes s) :
    cString (insertSql p table values returning) = insertSql p table values returning := by
  rw [cString, List.takeWhile_eq_self_iff]
  intro b hb
  rw [← render_insertTokens] at hb
  obtain ⟨token, htoken, hb⟩ := List.mem_flatMap.mp hb
  cases token with
  | code c =>
      have hcode := codeOnly_insertTokens p h c htoken
      rw [Token.render, List.mem_singleton] at hb
      subst hb
      simp only [isCode, Bool.and_eq_true] at hcode
      exact hcode.2
  | literal s =>
      have hs := (hclean s htoken).2
      simp only [Token.render, List.cons_append, List.mem_cons, List.mem_append,
        List.not_mem_nil, or_false] at hb
      rw [decide_eq_true_eq]
      rintro rfl
      rcases hb with hb | hb | hb
      · cases hb
      · exact hs hb
      · cases hb

/-- An `INSERT` is read as written exactly if its texts have neither apostrophes
nor zeros. -/
theorem readAsWritten_iff_clean (p : Printing R) (h : plainNames table values = true) :
    (Query.insert table values returning).ReadAsWritten p ↔
      ∀ column ∈ values, column.2.clean = true := by
  let tokens := insertTokens p table values returning
  have hrender : QuotedText.render apostrophe tokens = insertSql p table values returning :=
    render_insertTokens p table values returning
  rw [← literals_clean_iff p h]
  constructor
  · rintro ⟨hlex, -⟩ s hs
    have hprefix : cString (insertSql p table values returning) <+:
        QuotedText.render apostrophe tokens := by
      rw [hrender]
      exact List.takeWhile_prefix _
    obtain ⟨hall, hquotes⟩ := QuotedText.lex_of_isPrefix apostrophe hprefix hlex
    refine ⟨hquotes s hs, fun hzero => ?_⟩
    have hmem : (0 : UInt8) ∈ QuotedText.render apostrophe tokens :=
      List.mem_flatMap.mpr ⟨_, hs, by simp [Token.render, hzero]⟩
    rw [← hall] at hmem
    simpa using List.mem_takeWhile_imp hmem
  · intro hclean
    refine ⟨?_, isInsert_insertTokens p h⟩
    rw [cString_insertSql p h hclean, ← hrender]
    exact (QuotedText.lex_render_iff apostrophe (separated_insertTokens p h)).mpr fun s hs =>
      (hclean s hs).1

end Read

/-! ## The insert functions -/

/-- A call of an insert function. -/
inductive Insertion (R : Type) where
  | laser (data : LaserMicroscopeData R)
  | vibration (data : VibrationData R)
  | prediction (data : CrackPrediction R)
  | simulation (data : RepairSimulation R)
  | packet (sourceIp destIp : String) (frameId : UInt16) (payload : List UInt8)
  | laserBatch (dataList : List (LaserMicroscopeData R))
  | vibrationBatch (dataList : List (VibrationData R))

/-- The function sends the statement, for some connection and answers. -/
def Insertion.Sends (q : Query R) : Insertion R → Prop
  | .laser data => (insertLaserData data).Calls (.query q)
  | .vibration data => (insertVibrationData data).Calls (.query q)
  | .prediction data => (insertPrediction data).Calls (.query q)
  | .simulation data => (insertSimulation data).Calls (.query q)
  | .packet sourceIp destIp frameId payload =>
      (logProfinetPacket sourceIp destIp frameId payload).Calls (.query q)
  | .laserBatch dataList => (batchInsertLaserData dataList).Calls (.query q)
  | .vibrationBatch dataList => (batchInsertVibrationData dataList).Calls (.query q)

/-- What has been read is returned without another call. -/
theorem not_calls_result {β : Type} (value : Option β) (conn : Connection) (q : Call R) :
    ¬ (Program.ofOption value >>= fun value =>
      (do release conn; return value : Db R β)).Calls q := by
  cases value with
  | none => exact id
  | some value => exact id

/-- An operation of one statement sends that statement. -/
theorem calls_runOne {β : Type} {statement : Option (Query R)}
    {read : Option PGresult → Option β} {q : Query R} :
    (runOne statement read).Calls (.query q) ↔ statement = some q := by
  cases statement with
  | none => exact iff_of_false (fun ⟨_, h⟩ => h) fun h => by cases h
  | some q' =>
      constructor
      · rintro ⟨conn, h | ⟨reply, h⟩⟩
        · cases h
          rfl
        · cases reply with
          | connected b => exact absurd h (not_calls_result (read none) conn _)
          | result res => exact absurd h (not_calls_result (read res) conn _)
      · rintro ⟨⟩
        exact ⟨0, .inl rfl⟩

/-- The statements that a batch can come to: those up to the first that cannot be
built. -/
def batchStatements {α : Type} (row : α → Option (Query R)) : List α → List (Query R)
  | [] => []
  | data :: rest =>
      match row data with
      | some q => q :: batchStatements row rest
      | none => []

/-- The commands of transactions are no statements. -/
theorem calls_transactionCommand {β : Type} (command : TransactionCommand) (conn : Connection)
    (f : Bool → Db R β) (q : Query R) :
    (transactionCommand command conn >>= f).Calls (.query q) ↔ ∃ b, (f b).Calls (.query q) := by
  constructor
  · rintro (h | ⟨reply, h⟩)
    · cases h
    · cases reply with
      | result res => exact ⟨false, h⟩
      | connected b =>
          cases b with
          | false => exact ⟨false, h⟩
          | true =>
              rcases h with h | ⟨reply, h⟩
              · cases h
              · cases reply with
                | connected b => exact ⟨false, h⟩
                | result res => exact ⟨commandOk res, h⟩
  · rintro ⟨b, h⟩
    cases b with
    | false => exact .inr ⟨.connected false, h⟩
    | true => exact .inr ⟨.connected true, .inr ⟨.result (some ⟨.commandOk, []⟩), h⟩⟩

theorem calls_batchLoop {α : Type} {row : α → Option (Query R)} (conn : Connection)
    (dataList : List α) (q : Query R) :
    (batchLoop row conn dataList).Calls (.query q) ↔ q ∈ batchStatements row dataList := by
  induction dataList with
  | nil => exact iff_of_false id (by simp [batchStatements])
  | cons data rest ih =>
      rw [batchStatements]
      cases hrow : row data with
      | none =>
          rw [batchLoop, hrow]
          exact iff_of_false id (by simp)
      | some q' =>
          rw [batchLoop, hrow, List.mem_cons, ← ih]
          constructor
          · rintro (h | ⟨reply, h⟩)
            · cases h
              exact .inl rfl
            · cases reply with
              | connected b => exact absurd h id
              | result res =>
                  change (if commandOk res = true then batchLoop row conn rest
                    else return false : Db R Bool).Calls (.query q) at h
                  split at h
                  · exact .inr h
                  · exact absurd h id
          · rintro (h | h)
            · exact .inl (by rw [h])
            · exact .inr ⟨.result (some ⟨.commandOk, []⟩), h⟩

theorem calls_batchInsert {α : Type} {row : α → Option (Query R)} (dataList : List α)
    (q : Query R) :
    (batchInsert row dataList).Calls (.query q) ↔ q ∈ batchStatements row dataList := by
  cases dataList with
  | nil => exact iff_of_false id (by simp [batchStatements])
  | cons data rest =>
      let finish (conn : Connection) (ok : Bool) : Db R Bool :=
        if ok then do
          let _ ← commitTransaction conn
          release conn
          return ok
        else do
          let _ ← rollbackTransaction conn
          release conn
          return ok
      have hfinish : ∀ conn ok, ¬ (finish conn ok).Calls (.query q) := by
        intro conn ok h
        cases ok with
        | true =>
            obtain ⟨_, h⟩ := (calls_transactionCommand _ _ _ _).mp h
            exact h
        | false =>
            obtain ⟨_, h⟩ := (calls_transactionCommand _ _ _ _).mp h
            exact h
      have hloop : ∀ conn, (batchLoop row conn (data :: rest) >>= finish conn).Calls (.query q) ↔
          q ∈ batchStatements row (data :: rest) := fun conn =>
        (Program.calls_bind_of_silent (hfinish conn) _).trans (calls_batchLoop conn _ q)
      constructor
      · rintro ⟨conn, h⟩
        obtain ⟨b, h⟩ := (calls_transactionCommand _ _ _ _).mp h
        cases b with
        | true => exact (hloop conn).mp h
        | false => exact absurd h id
      · intro h
        exact ⟨0, (calls_transactionCommand _ _ _ _).mpr ⟨true, (hloop 0).mpr h⟩⟩

/-! ## Apostrophes in the data -/

/-- A JSON column for which `dump()` does not throw. -/
def printable (j : Json R) : Bool := j.empty || j.validUtf8

/-- A JSON column without apostrophes, unless it becomes `NULL`. -/
def columnClean (j : Json R) : Bool := j.empty || j.quoteFree

/-- No text of a statement that the function can build contains an apostrophe or a
zero.  A batch ends at the first reading that `dump()` throws on. -/
def Insertion.Clean : Insertion R → Prop
  | .laser data => printable data.processedData = true → columnClean data.processedData = true
  | .vibration data =>
      printable data.frequencySpectrum = true → columnClean data.frequencySpectrum = true
  | .prediction data => data.parameters.validUtf8 = true →
      cleanText data.modelType = true ∧ data.parameters.quoteFree = true ∧
        cleanText data.riskLevel = true
  | .simulation data => data.parameters.validUtf8 = true → data.result.validUtf8 = true →
      cleanText data.method = true ∧ data.parameters.quoteFree = true ∧
        data.result.quoteFree = true
  | .packet sourceIp destIp _ payload => validUtf8 payload = true →
      cleanText sourceIp = true ∧ cleanText destIp = true ∧ payload.contains 0x27 = false
  | .laserBatch dataList => ∀ data ∈ dataList.takeWhile fun data => printable data.processedData,
      columnClean data.processedData = true
  | .vibrationBatch dataList =>
      ∀ data ∈ dataList.takeWhile fun data => printable data.frequencySpectrum,
        columnClean data.frequencySpectrum = true

section Rows

variable (p : Printing R)

theorem isSome_dumpOrNull (j : Json R) : (dumpOrNull j).isSome = printable j := by
  rw [Bool.eq_iff_iff, dumpOrNull_isSome_iff, printable, Bool.or_eq_true]

theorem clean_of_dumpOrNull {j : Json R} {v : Value R} (h : dumpOrNull j = some v) :
    v.clean = columnClean j ∧ v.plainType = true := by
  rw [dumpOrNull] at h
  split at h
  · next hempty =>
      cases h
      simp [Value.clean, columnClean, hempty, Value.plainType]
  · next hempty =>
      rw [dump] at h
      split at h
      · cases h
        simp [Value.clean, columnClean, hempty, Value.plainType]
      · cases h

theorem isSome_laserRow (data : LaserMicroscopeData R) (returning : Bool) :
    (laserRow data returning).isSome = printable data.processedData := by
  rw [← isSome_dumpOrNull, laserRow]
  cases dumpOrNull data.processedData <;> rfl

theorem laserRow_read_iff {data : LaserMicroscopeData R} {returning : Bool} {q : Query R}
    (h : laserRow data returning = some q) :
    q.ReadAsWritten p ↔ columnClean data.processedData = true := by
  obtain ⟨v, hv, hq⟩ := Option.bind_eq_some_iff.mp h
  obtain ⟨hclean, htype⟩ := clean_of_dumpOrNull hv
  cases hq
  have hnames : ["laser_microscope_data", "sensor_id", "porcelain_id", "measurement_time",
      "scan_area", "resolution", "crack_detected", "crack_count", "processed_data"].all
      plainName = true := by decide
  have htypes : ([.int data.sensorId, .int data.porcelainId, .time data.measurementTime,
      arrayOf data.scanArea, .real data.resolution, .bool data.crackDetected,
      .int data.crackCount, v] : List (Value R)).all Value.plainType = true := by
    simp only [List.all_cons, htype]
    rfl
  rw [readAsWritten_iff_clean, ← hclean]
  · simp [Value.clean, arrayOf]
  · exact Bool.and_eq_true_iff.mpr ⟨hnames, htypes⟩

theorem isSome_vibrationRow (data : VibrationData R) (returning : Bool) :
    (vibrationRow data returning).isSome = printable data.frequencySpectrum := by
  rw [← isSome_dumpOrNull, vibrationRow]
  cases dumpOrNull data.frequencySpectrum <;> rfl

theorem vibrationRow_read_iff {data : VibrationData R} {returning : Bool} {q : Query R}
    (h : vibrationRow data returning = some q) :
    q.ReadAsWritten p ↔ columnClean data.frequencySpectrum = true := by
  obtain ⟨v, hv, hq⟩ := Option.bind_eq_some_iff.mp h
  obtain ⟨hclean, htype⟩ := clean_of_dumpOrNull hv
  cases hq
  have hnames : ["vibration_data", "sensor_id", "porcelain_id", "measurement_time",
      "frequency_spectrum", "amplitude", "rms_value", "peak_value", "dominant_frequency",
      "temperature", "humidity"].all plainName = true := by decide
  have htypes : ([.int data.sensorId, .int data.porcelainId, .time data.measurementTime, v,
      .array data.amplitude, .real data.rmsValue, .real data.peakValue,
      .real data.dominantFrequency, .real data.temperature, .real data.humidity] :
      List (Value R)).all Value.plainType = true := by
    simp only [List.all_cons, htype]
    rfl
  rw [readAsWritten_iff_clean, ← hclean]
  · simp [Value.clean]
  · exact Bool.and_eq_true_iff.mpr ⟨hnames, htypes⟩

end Rows

/-- The statements that a function can build. -/
def Insertion.statements : Insertion R → List (Query R)
  | .laser data => (laserRow data true).toList
  | .vibration data => (vibrationRow data true).toList
  | .prediction data => if data.parameters.validUtf8 then [
      .insert "crack_propagation_predictions" [
        ("crack_id", .int data.crackId),
        ("model_type", .text data.modelType),
        ("parameters", .jsonb data.parameters),
        ("time_horizon_hours", .int data.timeHorizonHours),
        ("predicted_depth", .real data.predictedDepth),
        ("predicted_width", .real data.predictedWidth),
        ("predicted_length", .real data.predictedLength),
        ("confidence", .real data.confidence),
        ("risk_level", .text data.riskLevel)] true] else []
  | .simulation data => if data.parameters.validUtf8 && data.result.validUtf8 then [
      .insert "repair_simulations" [
        ("crack_id", .int data.crackId),
        ("material_id", .int data.materialId),
        ("method", .text data.method),
        ("parameters", .jsonb data.parameters),
        ("particle_count", .int data.particleCount),
        ("filling_rate", .real data.fillingRate),
        ("bonding_strength", .real data.bondingStrength),
        ("surface_smoothness", .real data.surfaceSmoothness),
        ("durability_score", .real data.durabilityScore),
        ("simulation_result", .jsonb data.result)] true] else []
  | .packet sourceIp destIp frameId payload => if validUtf8 payload then [
      .insert "profinet_packets" [
        ("source_ip", .cast sourceIp "inet"),
        ("destination_ip", .cast destIp "inet"),
        ("frame_id", .int frameId.toNat),
        ("payload_length", .int payload.length),
        ("payload", .jsonb (.object [("raw", .str payload), ("size", .int payload.length)]))]
        false] else []
  | .laserBatch dataList => batchStatements (fun data => laserRow data false) dataList
  | .vibrationBatch dataList => batchStatements (fun data => vibrationRow data false) dataList

theorem sends_iff (i : Insertion R) (q : Query R) : i.Sends q ↔ q ∈ i.statements := by
  cases i with
  | laser data => rw [Insertion.Sends, insertLaserData, calls_runOne, Insertion.statements,
      Option.mem_toList]
  | vibration data => rw [Insertion.Sends, insertVibrationData, calls_runOne,
      Insertion.statements, Option.mem_toList]
  | prediction data =>
      rw [Insertion.Sends, insertPrediction, calls_runOne, Insertion.statements, dump]
      cases data.parameters.validUtf8 <;> simp [eq_comm]
  | simulation data =>
      rw [Insertion.Sends, insertSimulation, calls_runOne, Insertion.statements, dump, dump]
      cases data.parameters.validUtf8 <;> cases data.result.validUtf8 <;> simp [eq_comm]
  | packet sourceIp destIp frameId payload =>
      rw [Insertion.Sends, logProfinetPacket, calls_runOne, Insertion.statements, dump,
        packetJson_validUtf8]
      cases validUtf8 payload <;> simp [eq_comm]
  | laserBatch dataList => exact calls_batchInsert dataList q
  | vibrationBatch dataList => exact calls_batchInsert dataList q

section Main

variable (p : Printing R)

theorem forall_batchStatements {α : Type} {row : α → Option (Query R)} {P : Query R → Prop}
    (dataList : List α) : (∀ q ∈ batchStatements row dataList, P q) ↔
      ∀ data ∈ dataList.takeWhile fun data => (row data).isSome, ∀ q, row data = some q → P q := by
  induction dataList with
  | nil => simp [batchStatements]
  | cons data rest ih =>
      rw [batchStatements, List.takeWhile_cons]
      cases hrow : row data with
      | none => simp
      | some q => simp [ih, hrow]

/-- A row whose statement can be built for printable data only. -/
theorem statement_read_iff {statement : Option (Query R)} {printable clean : Bool}
    (hsome : statement.isSome = printable)
    (hread : ∀ {q}, statement = some q → (q.ReadAsWritten p ↔ clean = true)) :
    (∀ q ∈ statement.toList, q.ReadAsWritten p) ↔ (printable = true → clean = true) := by
  rw [← hsome]
  cases hrow : statement with
  | none => simp
  | some q => simp [hread hrow]

/-- The rows of a batch, up to the first that cannot be built. -/
theorem batchStatements_read_iff {α : Type} {row : α → Option (Query R)}
    {printable clean : α → Bool}
    (hsome : ∀ data, (row data).isSome = printable data)
    (hread : ∀ {data q}, row data = some q → (q.ReadAsWritten p ↔ clean data = true))
    (dataList : List α) : (∀ q ∈ batchStatements row dataList, q.ReadAsWritten p) ↔
      ∀ data ∈ dataList.takeWhile printable, clean data = true := by
  rw [forall_batchStatements]
  simp only [hsome]
  refine forall₂_congr fun data hdata => ?_
  have hprintable : (row data).isSome = true := (hsome data).trans (List.mem_takeWhile_imp hdata)
  obtain ⟨q, hrow⟩ := Option.isSome_iff_exists.mp hprintable
  simp [hrow, hread hrow]

/-- The statements of a function are read as written exactly if the data is clean. -/
theorem statements_read_iff (i : Insertion R) :
    (∀ q ∈ i.statements, q.ReadAsWritten p) ↔ i.Clean := by
  cases i with
  | laser data => exact statement_read_iff p (isSome_laserRow data true) (laserRow_read_iff p)
  | vibration data =>
      exact statement_read_iff p (isSome_vibrationRow data true) (vibrationRow_read_iff p)
  | prediction data =>
      have hnames : ["crack_propagation_predictions", "crack_id", "model_type", "parameters",
          "time_horizon_hours", "predicted_depth", "predicted_width", "predicted_length",
          "confidence", "risk_level"].all plainName = true := by decide
      rw [Insertion.Clean, Insertion.statements]
      split
      · next hvalid =>
          rw [List.forall_mem_singleton, readAsWritten_iff_clean]
          · simp [Value.clean, hvalid]
          · exact Bool.and_eq_true_iff.mpr ⟨hnames, rfl⟩
      · next hvalid => simp [hvalid]
  | simulation data =>
      have hnames : ["repair_simulations", "crack_id", "material_id", "method", "parameters",
          "particle_count", "filling_rate", "bonding_strength", "surface_smoothness",
          "durability_score", "simulation_result"].all plainName = true := by decide
      rw [Insertion.Clean, Insertion.statements]
      split
      · next hvalid =>
          rw [Bool.and_eq_true] at hvalid
          rw [List.forall_mem_singleton, readAsWritten_iff_clean]
          · simp [Value.clean, hvalid]
          · exact Bool.and_eq_true_iff.mpr ⟨hnames, rfl⟩
      · next hvalid =>
          rw [Bool.and_eq_true, not_and] at hvalid
          simpa using fun h h' => absurd h' (hvalid h)
  | packet sourceIp destIp frameId payload =>
      have hnames : ["profinet_packets", "source_ip", "destination_ip", "frame_id",
          "payload_length", "payload"].all plainName = true := by decide
      have htype : plainName "inet" = true := by decide
      rw [Insertion.Clean, Insertion.statements]
      split
      · next hvalid =>
          rw [List.forall_mem_singleton, readAsWritten_iff_clean]
          · simp [Value.clean, hvalid, packetJson_quoteFree]
          · refine Bool.and_eq_true_iff.mpr ⟨hnames, ?_⟩
            simp only [List.map_cons, List.all_cons, Value.plainType, htype]
            rfl
      · next hvalid => simp [hvalid]
  | laserBatch dataList =>
      exact batchStatements_read_iff p (fun data => isSome_laserRow data false)
        (laserRow_read_iff p) dataList
  | vibrationBatch dataList =>
      exact batchStatements_read_iff p (fun data => isSome_vibrationRow data false)
        (vibrationRow_read_iff p) dataList

/-- What an insert function sends is read as the `INSERT` that was meant exactly
if no apostrophe and no zero stands in the texts that it pastes. -/
theorem sent_read_iff (i : Insertion R) :
    (∀ q, i.Sends q → q.ReadAsWritten p) ↔ i.Clean := by
  simp only [sends_iff]
  exact statements_read_iff p i

end Main

/-! ## A payload of one apostrophe -/

/-- Numbers and times that are all written alike. -/
def constantPrinting : Printing Rat where
  ostream _ := bytes "0"
  putTime _ := bytes "1970-01-01 00:00:00"
  dumpFloat _ := bytes "0.0"
  ostream_isCode _ := isCode_of_plainName rfl
  putTime_isCode _ := isCode_of_plainName (by decide)
  dumpFloat_isCode _ := isCode_of_plainName rfl

/-- The apostrophe ends the literal, and the one after the JSON opens another. -/
theorem payload_ends_literal : ¬ ∀ (p : Printing Rat) (i : Insertion Rat) (q : Query Rat),
    i.Sends q → q.ReadAsWritten p := by
  intro hall
  have hclean : (Insertion.packet "10.0.0.2" "10.0.0.1" 0x8001 [0x27] : Insertion Rat).Clean :=
    (statements_read_iff constantPrinting _).mp fun q hq =>
      hall constantPrinting _ q ((sends_iff _ q).mpr hq)
  have hcontains := (hclean rfl).2.2
  cases hcontains

end PorcelainMonitor.Database
