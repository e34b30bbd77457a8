import Mathlib.Data.List.AList
import Mathlib.Data.List.Induction

/-!
# Tables of last writes

`table key xs` is what is left of the writes `xs` in a map: under each key the
last one with that key.  `values` are the writes that are left.
-/

namespace LastWrite

variable {α κ : Type} [DecidableEq κ] (key : α → κ)

/-- The values by their keys, each over the one before. -/
def table (xs : List α) : AList fun _ : κ => α := xs.foldl (fun t x => t.insert (key x) x) ∅

@[simp] theorem table_nil : table key [] = ∅ := rfl

@[simp] theorem table_concat (xs : List α) (x : α) :
    table key (xs ++ [x]) = (table key xs).insert (key x) x := by
  rw [table, List.foldl_append]
  rfl

variable {key}

/-- What stands under a key was written, and under that key. -/
theorem of_lookup {xs : List α} {k : κ} {x : α} (h : (table key xs).lookup k = some x) :
    x ∈ xs ∧ key x = k := by
  induction xs using List.reverseRecOn with
  | nil => cases h
  | append_singleton xs y ih =>
      rw [table_concat] at h
      by_cases hk : k = key y
      · subst hk
        rw [AList.lookup_insert] at h
        cases h
        exact ⟨List.mem_append_right xs List.mem_cons_self, rfl⟩
      · rw [AList.lookup_insert_ne hk] at h
        obtain ⟨hmem, hkey⟩ := ih h
        exact ⟨List.mem_append_left [y] hmem, hkey⟩

/-- A key that was written is not empty. -/
theorem exists_lookup {xs : List α} {x : α} (h : x ∈ xs) :
    ∃ y, (table key xs).lookup (key x) = some y := by
  induction xs using List.reverseRecOn with
  | nil => cases h
  | append_singleton xs y ih =>
      rw [table_concat]
      by_cases hk : key x = key y
      · rw [hk]
        exact ⟨y, AList.lookup_insert _⟩
      · rw [AList.lookup_insert_ne hk]
        rcases List.mem_append.mp h with hxs | hy
        · exact ih hxs
        · exact absurd (congrArg key (List.mem_singleton.mp hy)) hk

/-- Writes of one thing leave that thing. -/
theorem table_of_forall_eq {xs : List α} {a : α} (hne : xs ≠ []) (h : ∀ x ∈ xs, x = a) :
    table key xs = AList.singleton (key a) a := by
  induction xs using List.reverseRecOn with
  | nil => exact absurd rfl hne
  | append_singleton xs y ih =>
      have hy := h y (List.mem_append_right xs List.mem_cons_self)
      rw [table_concat, hy]
      cases xs with
      | nil =>
          rw [table_nil]
          exact AList.insert_empty _ _
      | cons x xs =>
          rw [ih (List.cons_ne_nil x xs) fun z hz => h z (List.mem_append_left _ hz)]
          exact AList.insert_singleton_eq

/-! ## The writes that are left -/

variable (key) in
/-- The values that are left. -/
def values (xs : List α) : List α := (table key xs).entries.map Sigma.snd

theorem mem_values {xs : List α} {x : α} :
    x ∈ values key xs ↔ (table key xs).lookup (key x) = some x := by
  rw [values, List.mem_map]
  constructor
  · rintro ⟨⟨k, y⟩, hentry, rfl⟩
    have hlookup : (table key xs).lookup k = some y := AList.mem_lookup_iff.mpr hentry
    rw [(of_lookup hlookup).2]
    exact hlookup
  · exact fun h => ⟨⟨key x, x⟩, AList.mem_lookup_iff.mp h, rfl⟩

/-- What is left was written. -/
theorem mem_of_values {xs : List α} {x : α} (h : x ∈ values key xs) : x ∈ xs :=
  (of_lookup (mem_values.mp h)).1

/-- Each key has one write left. -/
theorem values_inj {xs : List α} {x y : α} (hx : x ∈ values key xs) (hy : y ∈ values key xs)
    (h : key x = key y) : x = y := by
  rw [mem_values, h] at hx
  rw [mem_values, hx] at hy
  exact Option.some.inj hy

/-- A later value has taken the place of each that is gone. -/
theorem exists_value {xs : List α} {x : α} (h : x ∈ xs) :
    ∃ y ∈ values key xs, key y = key x := by
  have hwritten : ∃ y, (table key xs).lookup (key x) = some y := exists_lookup h
  obtain ⟨y, hy⟩ := hwritten
  have hkey := (of_lookup hy).2
  exact ⟨y, mem_values.mpr (by rwa [hkey]), hkey⟩

theorem entry_key {xs : List α} {e : Sigma fun _ : κ => α} (h : e ∈ (table key xs).entries) :
    key e.2 = e.1 :=
  (of_lookup (AList.mem_lookup_iff.mpr h : (table key xs).lookup e.1 = some e.2)).2

/-- No key is left twice. -/
theorem nodup_values (xs : List α) : (values key xs).Nodup := by
  have hkeys : ((values key xs).map key).Nodup := by
    have hmap : (values key xs).map key = (table key xs).keys := by
      rw [values, List.map_map]
      exact List.map_congr_left fun e (he : e ∈ (table key xs).entries) => entry_key he
    rw [hmap]
    exact (table key xs).keys_nodup
  exact List.Nodup.of_map key hkeys

end LastWrite
