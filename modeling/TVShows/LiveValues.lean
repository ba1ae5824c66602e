import TVShows.LiveTable

/-! The values of a live table in table order. To them an insertion is an append
and a deletion moves the last value into the gap, so a sequence of operations is
a fold over a plain list with unique keys; handles do not matter. -/

namespace LiveTable

variable {ρ κ : Type*} [DecidableEq κ]

/-- Move the last value over the one with the key; an absent key changes nothing. -/
def removeKey (key : ρ → κ) (k : κ) (xs : List ρ) : List ρ :=
  if xs.findIdx (fun v => key v == k) < xs.length then
    moveLastOver xs (xs.findIdx fun v => key v == k)
  else xs

theorem removeKey_of_absent {key : ρ → κ} {k : κ} {xs : List ρ} (h : ∀ v ∈ xs, key v ≠ k) :
    removeKey key k xs = xs := by
  have habsent : xs.findIdx (fun v => key v == k) = xs.length :=
    List.findIdx_eq_length.mpr fun v hv => by simpa using h v hv
  rw [removeKey, if_neg (by omega)]

theorem mem_of_mem_removeKey {key : ρ → κ} {k : κ} {xs : List ρ} {v : ρ}
    (h : v ∈ removeKey key k xs) : v ∈ xs := by
  unfold removeKey at h
  split_ifs at h with hlt
  · exact List.mem_of_mem_eraseIdx ((moveLastOver_perm xs _ hlt).mem_iff.mp h)
  · exact h

theorem findIdx_of_nodup_map {α β : Type*} [BEq β] [LawfulBEq β] {f : α → β} {xs : List α}
    (hn : (xs.map f).Nodup) {i : Nat} {x : α} (hi : xs[i]? = some x) :
    xs.findIdx (fun y => f y == f x) = i := by
  have hmap : (xs.map f)[i]? = some (f x) := by rw [List.getElem?_map, hi, Option.map_some]
  obtain ⟨hlt, hget⟩ := List.getElem?_eq_some_iff.mp hmap
  have hidx := List.Nodup.idxOf_getElem hn i hlt
  rw [hget, List.idxOf, List.findIdx_map] at hidx
  exact hidx

theorem mem_removeKey {key : ρ → κ} {k : κ} {xs : List ρ} (hn : (xs.map key).Nodup) {v : ρ} :
    v ∈ removeKey key k xs ↔ v ∈ xs ∧ key v ≠ k := by
  unfold removeKey
  split_ifs with hlt
  · rw [(moveLastOver_perm xs _ hlt).mem_iff, List.mem_eraseIdx_iff_getElem?]
    constructor
    · rintro ⟨i, hne, hi⟩
      refine ⟨List.mem_of_getElem? hi, fun heq => hne ?_⟩
      rw [← heq]
      exact (findIdx_of_nodup_map hn hi).symm
    · rintro ⟨hmem, hne⟩
      obtain ⟨i, hi⟩ := List.mem_iff_getElem?.mp hmem
      refine ⟨i, fun heq => hne ?_, hi⟩
      have hfound := List.findIdx_getElem (w := hlt)
      rw [heq, List.getElem?_eq_getElem hlt, Option.some.injEq] at hi
      rw [hi] at hfound
      simpa using hfound
  · have habsent := List.findIdx_eq_length.mp
      (Nat.le_antisymm List.findIdx_le_length (Nat.le_of_not_lt hlt))
    refine (and_iff_left_of_imp fun hmem => ?_).symm
    simpa using habsent v hmem

theorem foldl_update_apply {ν ε : Type*} (key : ε → κ) (value : ε → ν) (es : List ε) (f : κ → ν)
    (k : κ) : es.foldl (fun f e => Function.update f (key e) (value e)) f k =
      ((es.filter fun e => key e = k).getLast?.map value).getD (f k) := by
  induction es generalizing f with
  | nil => rfl
  | cons e es ih =>
    rw [List.foldl_cons, ih]
    by_cases hkey : key e = k
    · subst hkey
      rw [List.filter_cons_of_pos (by simp), List.getLast?_cons, Function.update_self]
      cases (es.filter fun e' => key e' = key e).getLast? <;> rfl
    · rw [List.filter_cons_of_neg (by simpa using hkey), Function.update_of_ne (Ne.symm hkey)]

namespace Table
variable {key : ρ → κ} {t t' : Table key}

def values (t : Table key) : List ρ :=
  t.rows.map Row.value

omit [DecidableEq κ] in
theorem values_keys_nodup (t : Table key) : (t.values.map key).Nodup := by
  rw [values, List.map_map]
  exact t.keys_nodup

theorem mem_values {v : ρ} : v ∈ t.values ↔ t.lookup (key v) = some v := by
  rw [lookup_eq_some_iff, values, List.mem_map]
  exact exists_congr fun r => by tauto

theorem values_insert {v : ρ} (fresh : t.lookup (key v) = none) :
    (t.insert v fresh).values = t.values ++ [v] := by
  simp [values, insert]

theorem values_delete {r : Row ρ} (hr : r ∈ t.rows) :
    (t.delete r.handle).values = removeKey key (key r.value) t.values := by
  obtain ⟨i, hi⟩ := List.mem_iff_getElem?.mp hr
  obtain ⟨hlt, -⟩ := List.getElem?_eq_some_iff.mp hi
  have hhandle : t.rows.findIdx (fun q => q.handle == r.handle) = i :=
    findIdx_of_nodup_map t.handles_nodup hi
  have hkey : t.values.findIdx (fun v => key v == key r.value) = i := by
    rw [values, List.findIdx_map]
    exact findIdx_of_nodup_map t.keys_nodup hi
  have hlength : i < t.values.length := by rwa [values, List.length_map]
  have hrows : (t.delete r.handle).rows = moveLastOver t.rows i := by
    rw [show (t.delete r.handle).rows = deleteRow t.rows r.handle from rfl, deleteRow, hhandle,
      if_pos hlt]
  rw [removeKey, hkey, if_pos hlength, values, hrows, moveLastOver_map, values]

/-! What the values say about the lookup: an append and a removal are point updates. -/

theorem lookup_eq_some_iff_values {k : κ} {v : ρ} :
    t.lookup k = some v ↔ v ∈ t.values ∧ key v = k := by
  constructor
  · intro h
    obtain ⟨row, hrow, rfl, hkey⟩ := lookup_eq_some_iff.mp h
    exact ⟨List.mem_map_of_mem hrow, hkey⟩
  · rintro ⟨hmem, rfl⟩
    exact mem_values.mp hmem

theorem lookup_of_values (h : t'.values = t.values) : t'.lookup = t.lookup := by
  funext k
  ext v
  rw [lookup_eq_some_iff_values, lookup_eq_some_iff_values, h]

theorem lookup_of_append {v : ρ} (h : t'.values = t.values ++ [v]) :
    t'.lookup = Function.update t.lookup (key v) (some v) := by
  funext k
  ext w
  rw [lookup_eq_some_iff_values]
  by_cases hk : k = key v
  · subst hk
    have hadded : v ∈ t'.values := by simp [h]
    rw [Function.update_self, Option.some.injEq]
    constructor
    · rintro ⟨hmem, hkey⟩
      exact (List.inj_on_of_nodup_map t'.values_keys_nodup hmem hadded hkey).symm
    · rintro rfl
      exact ⟨hadded, rfl⟩
  · rw [Function.update_of_ne hk, lookup_eq_some_iff_values, h, List.mem_append,
      List.mem_singleton]
    constructor
    · rintro ⟨hmem | rfl, hkey⟩
      · exact ⟨hmem, hkey⟩
      · exact absurd hkey.symm hk
    · rintro ⟨hmem, hkey⟩
      exact ⟨.inl hmem, hkey⟩

theorem lookup_of_removeKey {k : κ} (h : t'.values = removeKey key k t.values) :
    t'.lookup = Function.update t.lookup k none := by
  funext k'
  ext w
  rw [lookup_eq_some_iff_values, h, mem_removeKey t.values_keys_nodup]
  by_cases hk : k' = k
  · subst hk
    rw [Function.update_self]
    exact iff_of_false (fun hw => hw.1.2 hw.2) (by simp)
  · rw [Function.update_of_ne hk, lookup_eq_some_iff_values]
    constructor
    · rintro ⟨⟨hmem, -⟩, hkey⟩
      exact ⟨hmem, hkey⟩
    · rintro ⟨hmem, hkey⟩
      exact ⟨⟨hmem, fun heq => hk (hkey.symm.trans heq)⟩, hkey⟩

end Table

end LiveTable
