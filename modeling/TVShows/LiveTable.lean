import Mathlib.Data.List.Nodup
import Mathlib.Data.List.Perm.Basic
import Mathlib.Logic.Function.Basic

/-! An ordered table of live objects with unique keys. A new row goes to the
end and gets a handle that is never used again; a deletion moves the last row
over the deleted one, so handles of other rows stay attached while their
positions change. As a map from keys to values the table is `lookup`, and both
operations are point updates of it. -/

namespace LiveTable

variable {ρ κ : Type*}

def moveLastOver (xs : List ρ) (i : Nat) : List ρ :=
  match xs.getLast? with
  | none => []
  | some last => (xs.set i last).dropLast

theorem moveLastOver_concat_of_lt {ys : List ρ} {i : Nat} (last : ρ) (h : i < ys.length) :
    moveLastOver (ys ++ [last]) i = ys.set i last := by
  simp [moveLastOver, List.set_append_left _ _ h]

theorem moveLastOver_concat_length (ys : List ρ) (last : ρ) :
    moveLastOver (ys ++ [last]) ys.length = ys := by
  simp [moveLastOver]

theorem moveLastOver_perm (xs : List ρ) (i : Nat) (hi : i < xs.length) :
    (moveLastOver xs i).Perm (xs.eraseIdx i) := by
  obtain rfl | ⟨ys, last, rfl⟩ := List.eq_nil_or_concat' xs
  · simp at hi
  have hbound : i < ys.length + 1 := by simpa using hi
  obtain hlt | rfl := Nat.lt_succ_iff_lt_or_eq.mp hbound
  · rw [moveLastOver_concat_of_lt last hlt, List.eraseIdx_append_of_lt_length hlt]
    exact (List.set_perm_cons_eraseIdx hlt last).trans (List.perm_append_singleton _ _).symm
  · rw [moveLastOver_concat_length]
    simp [List.eraseIdx_append_of_length_le]

theorem moveLastOver_eq_eraseIdx_iff {xs : List ρ} (hn : xs.Nodup) {i : Nat}
    (hi : i < xs.length) : moveLastOver xs i = xs.eraseIdx i ↔ xs.length ≤ i + 2 := by
  obtain rfl | ⟨ys, last, rfl⟩ := List.eq_nil_or_concat' xs
  · simp at hi
  have hlength : (ys ++ [last]).length = ys.length + 1 := by simp
  rw [hlength] at hi ⊢
  obtain hlt | rfl := Nat.lt_succ_iff_lt_or_eq.mp hi
  · rw [moveLastOver_concat_of_lt last hlt, List.eraseIdx_append_of_lt_length hlt]
    constructor
    · intro heq
      by_contra hfar
      have hnext : i + 1 < ys.length := by omega
      have hfound : (ys.set i last)[i]? = some last := List.getElem?_set_self hlt
      rw [heq, List.getElem?_append_left (by rw [List.length_eraseIdx_of_lt hlt]; omega),
        List.getElem?_eraseIdx_of_ge (Nat.le_refl i)] at hfound
      have hmem := List.mem_of_getElem? hfound
      rw [List.nodup_append] at hn
      exact hn.2.2 last hmem last (by simp) rfl
    · intro hnear
      obtain ⟨zs, z, rfl⟩ : ∃ zs z, ys = zs ++ [z] := by
        obtain rfl | ⟨zs, z, rfl⟩ := List.eq_nil_or_concat' ys
        · simp at hlt
        · exact ⟨zs, z, rfl⟩
      obtain rfl : i = zs.length := by
        simp only [List.length_append, List.length_singleton] at hlt hnear
        omega
      simp [List.eraseIdx_append_of_length_le]
  · rw [moveLastOver_concat_length]
    simp [List.eraseIdx_append_of_length_le]

theorem moveLastOver_map {σ : Type*} (f : ρ → σ) (xs : List ρ) (i : Nat) :
    (moveLastOver xs i).map f = moveLastOver (xs.map f) i := by
  unfold moveLastOver
  rw [List.getLast?_map]
  cases xs.getLast? with
  | none => rfl
  | some last => simp [List.map_dropLast, List.map_set]

structure Row (ρ : Type*) where
  handle : Nat
  value : ρ
deriving DecidableEq, Repr

structure Table {ρ κ : Type*} (key : ρ → κ) where
  rows : List (Row ρ)
  next : Nat
  keys_nodup : (rows.map fun r => key r.value).Nodup
  handles_nodup : (rows.map Row.handle).Nodup
  handles_lt : ∀ r ∈ rows, r.handle < next

/-- The rows left when the row of a handle goes; a detached handle deletes nothing. -/
def deleteRow (rows : List (Row ρ)) (h : Nat) : List (Row ρ) :=
  if rows.findIdx (fun r => r.handle == h) < rows.length then
    moveLastOver rows (rows.findIdx fun r => r.handle == h)
  else rows

theorem eraseIdx_findIdx_handle (rows : List (Row ρ)) (h : Nat) (hn : (rows.map Row.handle).Nodup) :
    rows.eraseIdx (rows.findIdx fun r => r.handle == h) = rows.filter fun r => r.handle != h := by
  induction rows with
  | nil => rfl
  | cons r rows ih =>
    obtain ⟨hr, hn⟩ := List.nodup_cons.mp hn
    by_cases hh : r.handle = h
    · have hkeep : ∀ q ∈ rows, (q.handle != h) = true := by
        intro q hq
        have hne : q.handle ≠ r.handle := fun e => hr (e ▸ List.mem_map_of_mem hq)
        simpa [hh] using hne
      rw [List.filter_cons_of_neg (by simp [hh]), List.filter_eq_self.mpr hkeep]
      simp [List.findIdx_cons, hh]
    · have hb : (r.handle == h) = false := by simpa using hh
      rw [List.filter_cons_of_pos (by simp [hh]), ← ih hn]
      simp [List.findIdx_cons, hb]

theorem deleteRow_perm (rows : List (Row ρ)) (h : Nat) (hn : (rows.map Row.handle).Nodup) :
    (deleteRow rows h).Perm (rows.filter fun r => r.handle != h) := by
  unfold deleteRow
  split_ifs with hlt
  · rw [← eraseIdx_findIdx_handle rows h hn]
    exact moveLastOver_perm _ _ hlt
  · have habsent := List.findIdx_eq_length.mp
      (Nat.le_antisymm List.findIdx_le_length (Nat.le_of_not_lt hlt))
    rw [List.filter_eq_self.mpr fun q hq => by simpa using habsent q hq]

namespace Table

variable {key : ρ → κ}

def empty (key : ρ → κ) : Table key :=
  ⟨[], 0, List.nodup_nil, List.nodup_nil, by simp⟩

def handles (t : Table key) : List Nat :=
  t.rows.map Row.handle

def row? (t : Table key) (h : Nat) : Option (Row ρ) :=
  t.rows.find? fun r => r.handle = h

def delete (t : Table key) (h : Nat) : Table key where
  rows := deleteRow t.rows h
  next := t.next
  keys_nodup := ((deleteRow_perm _ h t.handles_nodup).map _).nodup_iff.mpr
    (t.keys_nodup.sublist (List.filter_sublist.map _))
  handles_nodup := ((deleteRow_perm _ h t.handles_nodup).map _).nodup_iff.mpr
    (t.handles_nodup.sublist (List.filter_sublist.map _))
  handles_lt r hr := t.handles_lt r
    (List.mem_of_mem_filter ((deleteRow_perm _ h t.handles_nodup).mem_iff.mp hr))

theorem row_eq_of_handle {t : Table key} {r q : Row ρ} (hr : r ∈ t.rows) (hq : q ∈ t.rows)
    (h : r.handle = q.handle) : r = q :=
  List.inj_on_of_nodup_map t.handles_nodup hr hq h

theorem row_eq_of_key {t : Table key} {r q : Row ρ} (hr : r ∈ t.rows) (hq : q ∈ t.rows)
    (h : key r.value = key q.value) : r = q :=
  List.inj_on_of_nodup_map t.keys_nodup hr hq h

theorem row?_eq_some_iff {t : Table key} {h : Nat} {r : Row ρ} :
    t.row? h = some r ↔ r ∈ t.rows ∧ r.handle = h := by
  constructor
  · intro hf
    exact ⟨List.mem_of_find?_eq_some hf, by simpa using List.find?_some hf⟩
  · rintro ⟨hr, rfl⟩
    cases hf : t.row? r.handle with
    | none => simpa using List.find?_eq_none.mp hf r hr
    | some q =>
      have hq : q.handle = r.handle := by simpa using List.find?_some hf
      rw [row_eq_of_handle (List.mem_of_find?_eq_some hf) hr hq]

theorem mem_rows_delete {t : Table key} {h : Nat} {r : Row ρ} :
    r ∈ (t.delete h).rows ↔ r ∈ t.rows ∧ r.handle ≠ h := by
  rw [show (t.delete h).rows = deleteRow t.rows h from rfl,
    (deleteRow_perm t.rows h t.handles_nodup).mem_iff, List.mem_filter, bne_iff_ne]

theorem handles_delete_perm (t : Table key) (h : Nat) :
    (t.delete h).handles.Perm (t.handles.erase h) := by
  rw [show t.handles.erase h = t.handles.filter (· != h) from
    List.Nodup.erase_eq_filter t.handles_nodup h, handles, handles, List.filter_map]
  exact (deleteRow_perm t.rows h t.handles_nodup).map _

theorem handles_delete {t : Table key} {i h : Nat} (hi : t.handles[i]? = some h) :
    (t.delete h).handles = moveLastOver t.handles i := by
  have hfind : t.rows.findIdx (fun r => r.handle == h) = t.handles.idxOf h := by
    rw [List.idxOf, handles, List.findIdx_map]
    rfl
  obtain ⟨hlt, hget⟩ := List.getElem?_eq_some_iff.mp hi
  have hidx : t.handles.idxOf h = i := by
    rw [← hget]
    exact List.Nodup.idxOf_getElem t.handles_nodup i hlt
  have hrow : i < t.rows.length := by simpa [handles] using hlt
  have hrows : (t.delete h).rows = moveLastOver t.rows i := by
    rw [show (t.delete h).rows = deleteRow t.rows h from rfl, deleteRow, hfind, hidx, if_pos hrow]
  rw [handles, hrows, moveLastOver_map]
  rfl

section Keyed
variable [DecidableEq κ]

def find? (t : Table key) (k : κ) : Option (Row ρ) :=
  t.rows.find? fun r => key r.value = k

def lookup (t : Table key) (k : κ) : Option ρ :=
  (t.find? k).map Row.value

theorem find?_eq_some_iff {t : Table key} {k : κ} {r : Row ρ} :
    t.find? k = some r ↔ r ∈ t.rows ∧ key r.value = k := by
  constructor
  · intro hf
    exact ⟨List.mem_of_find?_eq_some hf, by simpa using List.find?_some hf⟩
  · rintro ⟨hr, rfl⟩
    cases hf : t.find? (key r.value) with
    | none => simpa using List.find?_eq_none.mp hf r hr
    | some q =>
      have hq : key q.value = key r.value := by simpa using List.find?_some hf
      rw [row_eq_of_key (List.mem_of_find?_eq_some hf) hr hq]

theorem lookup_eq_some_iff {t : Table key} {k : κ} {v : ρ} :
    t.lookup k = some v ↔ ∃ r ∈ t.rows, r.value = v ∧ key v = k := by
  simp only [lookup, Option.map_eq_some_iff, find?_eq_some_iff]
  constructor
  · rintro ⟨r, ⟨hr, hk⟩, rfl⟩
    exact ⟨r, hr, rfl, hk⟩
  · rintro ⟨r, hr, rfl, hk⟩
    exact ⟨r, ⟨hr, hk⟩, rfl⟩

theorem lookup_of_mem {t : Table key} {r : Row ρ} (hr : r ∈ t.rows) :
    t.lookup (key r.value) = some r.value :=
  lookup_eq_some_iff.mpr ⟨r, hr, rfl, rfl⟩

theorem lookup_eq_none_iff {t : Table key} {k : κ} :
    t.lookup k = none ↔ ∀ r ∈ t.rows, key r.value ≠ k := by
  simp [lookup, find?]

@[simp] theorem lookup_empty (k : κ) : (empty key).lookup k = none := rfl

def insert (t : Table key) (v : ρ) (fresh : t.lookup (key v) = none) : Table key where
  rows := t.rows ++ [⟨t.next, v⟩]
  next := t.next + 1
  keys_nodup := by
    rw [List.map_append, List.nodup_append]
    refine ⟨t.keys_nodup, by simp, ?_⟩
    rintro _ ha _ hb
    obtain ⟨r, hr, rfl⟩ := List.mem_map.mp ha
    obtain rfl : _ = key v := by simpa using hb
    exact lookup_eq_none_iff.mp fresh r hr
  handles_nodup := by
    rw [List.map_append, List.nodup_append]
    refine ⟨t.handles_nodup, by simp, ?_⟩
    rintro _ ha _ hb
    obtain ⟨r, hr, rfl⟩ := List.mem_map.mp ha
    obtain rfl : _ = t.next := by simpa using hb
    exact Nat.ne_of_lt (t.handles_lt r hr)
  handles_lt r hr := by
    obtain hr | hr := List.mem_append.mp hr
    · exact Nat.lt_succ_of_lt (t.handles_lt r hr)
    · obtain rfl : r = ⟨t.next, v⟩ := by simpa using hr
      exact Nat.lt_succ_self _

theorem mem_rows_insert {t : Table key} {v : ρ} {fresh : t.lookup (key v) = none} {r : Row ρ} :
    r ∈ (t.insert v fresh).rows ↔ r ∈ t.rows ∨ r = ⟨t.next, v⟩ := by
  simp [insert]

theorem lookup_insert {t : Table key} {v : ρ} (fresh : t.lookup (key v) = none) :
    (t.insert v fresh).lookup = Function.update t.lookup (key v) (some v) := by
  funext k
  ext w
  rw [lookup_eq_some_iff, Function.update_apply]
  simp only [mem_rows_insert]
  split_ifs with hk
  · subst hk
    constructor
    · rintro ⟨r, hr | rfl, rfl, hk⟩
      · exact absurd hk (lookup_eq_none_iff.mp fresh r hr)
      · rfl
    · intro hw
      obtain rfl : v = w := by simpa using hw
      exact ⟨⟨t.next, v⟩, .inr rfl, rfl, rfl⟩
  · rw [lookup_eq_some_iff]
    constructor
    · rintro ⟨r, hr | rfl, rfl, hw⟩
      · exact ⟨r, hr, rfl, hw⟩
      · exact absurd hw.symm hk
    · rintro ⟨r, hr, hw⟩
      exact ⟨r, .inl hr, hw⟩

theorem lookup_delete {t : Table key} {r : Row ρ} (hr : r ∈ t.rows) :
    (t.delete r.handle).lookup = Function.update t.lookup (key r.value) none := by
  funext k
  ext w
  rw [lookup_eq_some_iff, Function.update_apply]
  simp only [mem_rows_delete]
  split_ifs with hk
  · subst hk
    constructor
    · rintro ⟨q, ⟨hq, hne⟩, rfl, hw⟩
      exact absurd (congrArg Row.handle (row_eq_of_key hq hr hw)) hne
    · intro hw
      cases hw
  · rw [lookup_eq_some_iff]
    constructor
    · rintro ⟨q, ⟨hq, -⟩, rfl, hw⟩
      exact ⟨q, hq, rfl, hw⟩
    · rintro ⟨q, hq, rfl, hw⟩
      refine ⟨q, ⟨hq, fun e => ?_⟩, rfl, hw⟩
      exact hk (hw.symm.trans (by rw [row_eq_of_handle hq hr e]))

end Keyed

end Table

end LiveTable
