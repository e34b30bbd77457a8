import Mathlib.Data.List.Basic

/-!
# Samples of the text exposition format

A sample is a line of a metric name, labels in braces or none, a blank and a
number.  Label values are quoted, with quotes, backslashes and line feeds
escaped.  The name with the labels is the series of the sample.
-/

namespace ExpositionFormat

/-! ## Grammar -/

def isNameChar (c : Char) : Bool := c.isAlphanum || c = '_' || c = ':'

/-- Letters, digits, underscores and colons, and no digit in front. -/
def isMetricName : List Char → Bool
  | [] => false
  | c :: cs => !c.isDigit && (c :: cs).all isNameChar

/-- The same without colons. -/
def isLabelName (name : List Char) : Bool := isMetricName name && name.all fun c => c ≠ ':'

/-- What may stand between the quotes of a label value. -/
inductive Quoted : List Char → Prop
  | nil : Quoted []
  | plain {c : Char} {cs : List Char} : c ≠ '"' → c ≠ '\\' → c ≠ '\n' → Quoted cs → Quoted (c :: cs)
  | escape {c : Char} {cs : List Char} : c = '"' ∨ c = '\\' ∨ c = 'n' → Quoted cs →
      Quoted ('\\' :: c :: cs)

def IsLabel (t : List Char) : Prop :=
  ∃ name value, isLabelName name = true ∧ Quoted value ∧ t = name ++ '=' :: '"' :: value ++ ['"']

/-- No labels, or labels in braces with commas between them. -/
def IsLabels (t : List Char) : Prop :=
  t = [] ∨ ∃ labels : List (List Char), (∀ label ∈ labels, IsLabel label) ∧
    t = '{' :: [','].intercalate labels ++ ['}']

/-- A name and its labels. -/
def IsSeries (t : List Char) : Prop :=
  ∃ name labels, isMetricName name = true ∧ IsLabels labels ∧ t = name ++ labels

/-- A number in print: no blanks, and not nothing. -/
def IsNumber (t : List Char) : Prop := t ≠ [] ∧ ∀ c ∈ t, c ≠ ' ' ∧ c ≠ '\n'

def IsSample (t : List Char) : Prop :=
  ∃ series number, IsSeries series ∧ IsNumber number ∧ t = series ++ ' ' :: number

/-! ## Reading a line -/

/-- A text is split at its last blank in one way. -/
theorem append_blank_inj {x y v w : List Char} (hv : ' ' ∉ v) (hw : ' ' ∉ w)
    (h : x ++ ' ' :: v = y ++ ' ' :: w) : x = y := by
  rcases List.append_eq_append_iff.mp h with ⟨rest, rfl, hrest⟩ | ⟨rest, rfl, hrest⟩
  · cases rest with
    | nil => rw [List.append_nil]
    | cons c rest =>
        refine absurd ?_ hv
        rw [(List.cons.inj hrest).2]
        exact List.mem_append_right rest List.mem_cons_self
  · cases rest with
    | nil => rw [List.append_nil]
    | cons c rest =>
        refine absurd ?_ hw
        rw [(List.cons.inj hrest).2]
        exact List.mem_append_right rest List.mem_cons_self

/-- A line with a number behind it is a sample if the text in front of it is a series. -/
theorem isSample_iff {series number : List Char} (h : IsNumber number) :
    IsSample (series ++ ' ' :: number) ↔ IsSeries series := by
  constructor
  · rintro ⟨series', number', hseries, hnumber, htext⟩
    have hblank : ∀ {t : List Char}, IsNumber t → ' ' ∉ t := fun ht hmem => (ht.2 ' ' hmem).1 rfl
    rwa [append_blank_inj (hblank h) (hblank hnumber) htext]
  · exact fun hseries => ⟨series, number, hseries, h, rfl⟩

theorem isNameChar_of_mem {name : List Char} (h : isMetricName name = true) {c : Char}
    (hc : c ∈ name) : isNameChar c = true := by
  cases name with
  | nil => cases hc
  | cons d ds =>
      rw [isMetricName, Bool.and_eq_true] at h
      exact List.all_eq_true.mp h.2 c hc

/-! ## The end of a series -/

/-- Labels end in a quote. -/
theorem intercalate_ends {labels : List (List Char)} (hne : labels ≠ [])
    (h : ∀ label ∈ labels, IsLabel label) : ∃ t, [','].intercalate labels = t ++ ['"'] := by
  induction labels with
  | nil => exact absurd rfl hne
  | cons label labels ih =>
      cases labels with
      | nil =>
          obtain ⟨name, value, _, _, rfl⟩ := h label List.mem_cons_self
          exact ⟨name ++ '=' :: '"' :: value, List.intercalate_singleton⟩
      | cons next rest =>
          obtain ⟨t, ht⟩ :=
            ih (List.cons_ne_nil next rest) fun l hl => h l (List.mem_cons_of_mem _ hl)
          refine ⟨label ++ ([','] ++ t), ?_⟩
          rw [List.intercalate_cons_cons, ht]
          simp only [List.append_assoc]

/-- No series ends in two braces. -/
theorem not_isSeries_braces (t : List Char) : ¬ IsSeries (t ++ ['}', '}']) := by
  rintro ⟨name, labels, hname, rfl | ⟨labels, hlabels, rfl⟩, htext⟩
  · rw [List.append_nil] at htext
    have hbrace := isNameChar_of_mem hname (c := '}') (by rw [← htext]; simp)
    revert hbrace
    decide
  · have hend : t ++ ['}'] = name ++ '{' :: [','].intercalate labels := by
      refine (List.append_left_inj ['}']).mp ?_
      simpa only [List.append_assoc, List.cons_append, List.nil_append] using htext
    cases labels with
    | nil =>
        rw [List.intercalate_nil] at hend
        have hlast := (List.append_inj' hend rfl).2
        cases hlast
    | cons label rest =>
        obtain ⟨s, hs⟩ := intercalate_ends (List.cons_ne_nil label rest) hlabels
        rw [hs, ← List.cons_append, ← List.append_assoc] at hend
        have hlast := (List.append_inj' hend rfl).2
        cases hlast

end ExpositionFormat
