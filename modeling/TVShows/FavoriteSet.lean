import Mathlib.Data.Set.Insert
import TVShows.FavoriteStore
import TVShows.TransitionRun

/-! What the favorites are for: a set of shows, told apart by their optional
id. The store implements it as long as every show it is asked about has an id
other than zero. A missing id is read and saved as the key zero but never
deleted, so the two spellings of key zero break the set in both ways: such a
favorite cannot be removed, and two different shows share it. -/

namespace TVShows

open LiveTable TransitionRun

inductive FavoriteOp
  | setFavoriteStatus (t : TVShow) (favorite : Bool)
  | deleteFavorite (r : Accessor)

namespace FavoriteOp

/-- The calls the app makes: a status that differs from the current one, and
the deletion of a record that the store has just listed. -/
def Called (realm : Realm) : FavoriteOp → Prop
  | setFavoriteStatus t favorite => favorite ≠ t.isFavorite realm
  | deleteFavorite r => r ∈ TVShowStore.getSavedShows realm

instance (realm : Realm) : (op : FavoriteOp) → Decidable (op.Called realm)
  | setFavoriteStatus t favorite => inferInstanceAs (Decidable (favorite ≠ t.isFavorite realm))
  | deleteFavorite r => inferInstanceAs (Decidable (r ∈ TVShowStore.getSavedShows realm))

def run (realm : Realm) : FavoriteOp → Except Trap Realm
  | setFavoriteStatus t favorite => t.setFavoriteStatus realm favorite
  | deleteFavorite r => .ok (TVShowStore.deleteFavorite realm r)

/-- The show has an id of its own: one is present and it is not zero. -/
def HasOwnKey : FavoriteOp → Prop
  | setFavoriteStatus t _ => ∃ id, t.id = some id ∧ id ≠ 0
  | deleteFavorite _ => True

end FavoriteOp

def FavoriteStep (realm : Realm) (op : FavoriteOp) (realm' : Realm) : Prop :=
  op.run realm = .ok realm'

structure SetsStatus (realm : Realm) (t : TVShow) (favorite : Bool) (realm' : Realm) : Prop where
  observed : t.isFavorite realm' = favorite
  others : ∀ u : TVShow, u.id ≠ t.id →
    u.isFavorite realm' = u.isFavorite realm ∧ u.storedRecord realm' = u.storedRecord realm

def SavedShowsMatch (realm : Realm) : Prop :=
  ∃ records, (TVShowStore.getSavedShows realm).mapM realm.read = .ok records ∧
    (records.map TVShowStore.id).Nodup ∧
    ∀ u : TVShow, u.isFavorite realm = true ↔ ∃ r ∈ records, u.id = some r.id

def DeletePathsAgree (realm : Realm) : Prop :=
  ∀ r ∈ TVShowStore.getSavedShows realm, ∃ record, realm.read r = .ok record ∧
    record.buildTVShowModel.setFavoriteStatus realm false =
      .ok (TVShowStore.deleteFavorite realm r)

/-- The operation keeps the set discipline: it succeeds, it changes the status
of its own show only, and the listing is right before and after it. -/
def KeepsSet (realm : Realm) (op : FavoriteOp) : Prop :=
  ∃ realm', op.run realm = .ok realm' ∧
    (∀ t favorite, op = .setFavoriteStatus t favorite → SetsStatus realm t favorite realm') ∧
    SavedShowsMatch realm ∧ SavedShowsMatch realm' ∧
    DeletePathsAgree realm ∧ DeletePathsAgree realm'

theorem isFavorite_congr {t u : TVShow} (realm : Realm) (h : u.id.getD 0 = t.id.getD 0) :
    u.isFavorite realm = t.isFavorite realm := by
  rw [isFavorite_eq, isFavorite_eq, TVShow.storedRecord, TVShow.storedRecord, h]

theorem mapM_eq_ok {α β : Type} {f : α → Except Trap β} {g : α → β} {xs : List α}
    (h : ∀ x ∈ xs, f x = .ok (g x)) : xs.mapM f = .ok (xs.map g) := by
  induction xs with
  | nil => rfl
  | cons x xs ih =>
    have hx := h x List.mem_cons_self
    have hxs := ih fun y hy => h y (List.mem_cons_of_mem x hy)
    rw [List.mapM_cons, hx, hxs]
    rfl

theorem savedShows_read (realm : Realm) :
    (TVShowStore.getSavedShows realm).mapM realm.read = .ok (realm.rows.map Row.value) := by
  have hread : ∀ row ∈ realm.rows, realm.read row.handle = .ok row.value := by
    intro row hrow
    exact read_eq_ok_iff.mpr ⟨row, hrow, rfl, rfl⟩
  rw [getSavedShows_eq, Table.handles, List.mapM_map]
  exact mapM_eq_ok hread

theorem mem_getSavedShows {realm : Realm} {r : Accessor} :
    r ∈ TVShowStore.getSavedShows realm ↔ ∃ record, realm.read r = .ok record := by
  rw [getSavedShows_eq, Table.handles, List.mem_map]
  constructor
  · rintro ⟨row, hrow, rfl⟩
    exact ⟨row.value, read_eq_ok_iff.mpr ⟨row, hrow, rfl, rfl⟩⟩
  · rintro ⟨record, hread⟩
    obtain ⟨row, hrow, hhandle, -⟩ := read_eq_ok_iff.mp hread
    exact ⟨row, hrow, hhandle⟩

theorem deletePathsAgree (realm : Realm) : DeletePathsAgree realm := by
  intro r hr
  obtain ⟨record, hread⟩ := mem_getSavedShows.mp hr
  exact ⟨record, hread, unfavorite_buildTVShowModel hread⟩

theorem savedShowsMatch {realm : Realm} (h : realm.lookup 0 = none) : SavedShowsMatch realm := by
  have hnodup : ((realm.rows.map Row.value).map TVShowStore.id).Nodup := by
    rw [List.map_map]
    exact realm.keys_nodup
  refine ⟨realm.rows.map Row.value, savedShows_read realm, hnodup, fun u => ?_⟩
  rw [isFavorite_eq, TVShow.storedRecord]
  constructor
  · intro hsome
    obtain ⟨record, hrecord⟩ := Option.isSome_iff_exists.mp hsome
    obtain ⟨row, hrow, rfl, hkey⟩ := Table.lookup_eq_some_iff.mp hrecord
    refine ⟨row.value, List.mem_map_of_mem hrow, ?_⟩
    cases hid : u.id with
    | none =>
      rw [hid, Option.getD_none, h] at hrecord
      cases hrecord
    | some id => rw [hkey, hid, Option.getD_some]
  · rintro ⟨record, hrecord, hid⟩
    obtain ⟨row, hrow, rfl⟩ := List.mem_map.mp hrecord
    rw [hid, Option.getD_some, Table.lookup_of_mem hrow]
    rfl

theorem setFavoriteStatus_lookup {realm : Realm} {t : TVShow} {favorite : Bool} {id : Int}
    (hid : t.id = some id) (h : favorite ≠ t.isFavorite realm) :
    ∃ realm', t.setFavoriteStatus realm favorite = .ok realm' ∧
      realm'.lookup =
        Function.update realm.lookup id (if favorite then some t.storeObject else none) := by
  have hkey : t.id.getD 0 = id := by rw [hid, Option.getD_some]
  cases favorite with
  | true =>
    have habsent : realm.lookup (t.id.getD 0) = none := by
      rw [isFavorite_eq, TVShow.storedRecord] at h
      simpa using h.symm
    have hsaved := saveShow_of_absent habsent
    rw [hkey] at hsaved
    exact hsaved
  | false =>
    refine ⟨TVShowStore.deleteShow realm id, ?_, deleteShow_lookup realm id⟩
    simp only [TVShow.setFavoriteStatus, TVShow.deleteShow, hid, Bool.false_eq_true, if_false]

theorem setsStatus_of_ownKey {realm : Realm} {t : TVShow} {favorite : Bool} {id : Int}
    (hid : t.id = some id) (hne : id ≠ 0) (h : favorite ≠ t.isFavorite realm) :
    ∃ realm', t.setFavoriteStatus realm favorite = .ok realm' ∧ SetsStatus realm t favorite realm' ∧
      realm'.lookup 0 = realm.lookup 0 := by
  obtain ⟨realm', hok, hlookup⟩ := setFavoriteStatus_lookup hid h
  have hother : ∀ u : TVShow, u.id ≠ t.id → u.storedRecord realm' = u.storedRecord realm := by
    intro u hu
    have hkey : u.id.getD 0 ≠ id := by
      cases huid : u.id with
      | none => exact fun e => hne e.symm
      | some j => exact fun e => hu (by rw [huid, hid, ← e, Option.getD_some])
    rw [TVShow.storedRecord, hlookup, Function.update_of_ne hkey, TVShow.storedRecord]
  refine ⟨realm', hok, ⟨?_, fun u hu => ⟨?_, hother u hu⟩⟩, ?_⟩
  · rw [isFavorite_eq, TVShow.storedRecord, hid, Option.getD_some, hlookup, Function.update_self]
    cases favorite <;> rfl
  · rw [isFavorite_eq, isFavorite_eq, hother u hu]
  · rw [hlookup, Function.update_of_ne (Ne.symm hne)]

theorem ownKey_of_setsStatus {realm realm' : Realm} {t : TVShow} {favorite : Bool}
    (h : favorite ≠ t.isFavorite realm) (hset : SetsStatus realm t favorite realm') :
    ∃ id, t.id = some id ∧ id ≠ 0 := by
  by_contra hnot
  have hzero : t.id = none ∨ t.id = some 0 := by
    cases hid : t.id with
    | none => exact .inl rfl
    | some id =>
      refine .inr (congrArg some ?_)
      by_contra hne
      exact hnot ⟨id, hid, hne⟩
  have htwin : ∃ u : TVShow, u.id ≠ t.id ∧ u.id.getD 0 = t.id.getD 0 := by
    cases hzero with
    | inl hid => exact ⟨.bare (some 0), by simp [TVShow.bare, hid], by simp [TVShow.bare, hid]⟩
    | inr hid => exact ⟨.bare none, by simp [TVShow.bare, hid], by simp [TVShow.bare, hid]⟩
  obtain ⟨u, hu, hkey⟩ := htwin
  have hsame := (hset.others u hu).1
  rw [isFavorite_congr realm' hkey, isFavorite_congr realm hkey, hset.observed] at hsame
  exact h hsame

theorem keepsSet_of_ownKey {realm : Realm} {op : FavoriteOp} (hzero : realm.lookup 0 = none)
    (hcalled : op.Called realm) (hkey : op.HasOwnKey) :
    KeepsSet realm op ∧ ∀ realm', FavoriteStep realm op realm' → realm'.lookup 0 = none := by
  cases op with
  | setFavoriteStatus t favorite =>
    obtain ⟨id, hid, hne⟩ := hkey
    obtain ⟨realm', hok, hset, hkeep⟩ := setsStatus_of_ownKey hid hne hcalled
    have hzero' : realm'.lookup 0 = none := hkeep.trans hzero
    have hspec : ∀ u b, FavoriteOp.setFavoriteStatus t favorite = .setFavoriteStatus u b →
        SetsStatus realm u b realm' := by
      intro u b hop
      cases hop
      exact hset
    refine ⟨⟨realm', hok, hspec, savedShowsMatch hzero, savedShowsMatch hzero',
      deletePathsAgree _, deletePathsAgree _⟩, fun realm'' hstep => ?_⟩
    have hsame : realm' = realm'' := Except.ok.inj (hok.symm.trans hstep)
    rw [← hsame, hzero']
  | deleteFavorite r =>
    obtain ⟨record, hread⟩ := mem_getSavedShows.mp hcalled
    have hzero' : (TVShowStore.deleteFavorite realm r).lookup 0 = none := by
      rw [deleteFavorite_lookup hread, Function.update_apply, hzero, ite_self]
    refine ⟨⟨_, rfl, ?_, savedShowsMatch hzero, savedShowsMatch hzero',
      deletePathsAgree _, deletePathsAgree _⟩, fun realm'' hstep => ?_⟩
    · intro t favorite hop
      cases hop
    · have hsame : TVShowStore.deleteFavorite realm r = realm'' := Except.ok.inj hstep
      rw [← hsame, hzero']

theorem ownKey_of_keepsSet {realm : Realm} {op : FavoriteOp} (hcalled : op.Called realm)
    (h : KeepsSet realm op) : op.HasOwnKey := by
  cases op with
  | setFavoriteStatus t favorite =>
    obtain ⟨realm', -, hset, -⟩ := h
    exact ownKey_of_setsStatus hcalled (hset t favorite rfl)
  | deleteFavorite r => trivial

theorem keepsSet_along_iff {realm : Realm} (hzero : realm.lookup 0 = none) (ops : List FavoriteOp)
    (hcalled : Along FavoriteStep FavoriteOp.Called realm ops)
    (hdone : ∀ op ∈ ops, op.HasOwnKey) : Along FavoriteStep KeepsSet realm ops := by
  induction ops generalizing realm with
  | nil => trivial
  | cons op ops ih =>
    have hstep := keepsSet_of_ownKey hzero hcalled.1 (hdone op List.mem_cons_self)
    refine ⟨hstep.1, fun realm' ht => ?_⟩
    exact ih (hstep.2 realm' ht) (hcalled.2 realm' ht)
      fun p hp => hdone p (List.mem_cons_of_mem op hp)

theorem ownKeys_of_along {realm : Realm} (ops : List FavoriteOp)
    (hcalled : Along FavoriteStep FavoriteOp.Called realm ops)
    (hkeeps : Along FavoriteStep KeepsSet realm ops) : ∀ op ∈ ops, op.HasOwnKey := by
  induction ops generalizing realm with
  | nil => simp
  | cons op ops ih =>
    obtain ⟨realm', hok, -⟩ := hkeeps.1
    have hrest := ih (hcalled.2 realm' hok) (hkeeps.2 realm' hok)
    intro p hp
    cases List.mem_cons.mp hp with
    | inl he => exact he ▸ ownKey_of_keepsSet hcalled.1 hkeeps.1
    | inr hp => exact hrest p hp

/-- From the empty store, calls keep the set discipline all along exactly when
every show whose status they set has an id other than zero. -/
theorem favorites_keep_set_iff (ops : List FavoriteOp)
    (hcalled : Along FavoriteStep FavoriteOp.Called Realm.empty ops) :
    Along FavoriteStep KeepsSet Realm.empty ops ↔ ∀ op ∈ ops, op.HasOwnKey :=
  ⟨ownKeys_of_along ops hcalled, keepsSet_along_iff (Table.lookup_empty 0) ops hcalled⟩

theorem favorites_keep_set_iff_two :
    Along FavoriteStep KeepsSet Realm.empty [.setFavoriteStatus (.bare (some 7)) true,
      .setFavoriteStatus (.bare (some 8)) true, .setFavoriteStatus (.bare (some 7)) false,
      .deleteFavorite 1] := by
  have hcalled : Along FavoriteStep FavoriteOp.Called Realm.empty
      [.setFavoriteStatus (.bare (some 7)) true, .setFavoriteStatus (.bare (some 8)) true,
        .setFavoriteStatus (.bare (some 7)) false, .deleteFavorite 1] := by
    refine ⟨by decide, fun first hfirst => ?_⟩
    obtain rfl := Except.ok.inj hfirst
    refine ⟨by decide, fun second hsecond => ?_⟩
    obtain rfl := Except.ok.inj hsecond
    refine ⟨by decide, fun third hthird => ?_⟩
    obtain rfl := Except.ok.inj hthird
    exact ⟨by decide, fun _ _ => trivial⟩
  refine (favorites_keep_set_iff _ hcalled).mpr fun op hop => ?_
  simp only [List.mem_cons, List.not_mem_nil, or_false] at hop
  obtain rfl | rfl | rfl | rfl := hop
  · exact ⟨7, rfl, by decide⟩
  · exact ⟨8, rfl, by decide⟩
  · exact ⟨7, rfl, by decide⟩
  · trivial

/-- A show without an id is saved under key zero, and from then on unfavoriting
it changes nothing. -/
theorem favorite_without_id_stays :
    Along FavoriteStep FavoriteOp.Called Realm.empty
        [.setFavoriteStatus (.bare none) true, .setFavoriteStatus (.bare none) false] ∧
      ¬ Along FavoriteStep KeepsSet Realm.empty
        [.setFavoriteStatus (.bare none) true, .setFavoriteStatus (.bare none) false] := by
  have hcalled : Along FavoriteStep FavoriteOp.Called Realm.empty
      [.setFavoriteStatus (.bare none) true, .setFavoriteStatus (.bare none) false] := by
    refine ⟨by decide, fun realm hfirst => ⟨?_, fun _ _ => trivial⟩⟩
    have hstored := Except.ok.inj hfirst
    rw [← hstored]
    decide
  refine ⟨hcalled, fun hkeeps => ?_⟩
  have hkeys := ownKeys_of_along _ hcalled hkeeps
  obtain ⟨id, hid, -⟩ := hkeys (.setFavoriteStatus (.bare none) true) List.mem_cons_self
  cases hid

section Abstraction

def favoriteIds (realm : Realm) : Set (Option Int) :=
  {i | ∃ t : TVShow, t.id = i ∧ t.isFavorite realm = true}

def SetStep (ids : Set (Option Int)) (op : FavoriteOp) (ids' : Set (Option Int)) : Prop :=
  match op with
  | .setFavoriteStatus t favorite => ids' = if favorite then insert t.id ids else ids \ {t.id}
  | .deleteFavorite _ => ∃ id, some id ∈ ids ∧ ids' = ids \ {some id}

theorem mem_favoriteIds {realm : Realm} {i : Option Int} :
    i ∈ favoriteIds realm ↔ (realm.lookup (i.getD 0)).isSome = true := by
  constructor
  · rintro ⟨t, rfl, ht⟩
    rwa [isFavorite_eq] at ht
  · intro h
    refine ⟨.bare i, rfl, ?_⟩
    rw [isFavorite_eq]
    exact h

theorem mem_favoriteIds_update {realm realm' : Realm} {id : Int} {v : Option TVShowStore}
    (hne : id ≠ 0) (h : realm'.lookup = Function.update realm.lookup id v) (i : Option Int) :
    i ∈ favoriteIds realm' ↔ if i = some id then v.isSome = true else i ∈ favoriteIds realm := by
  rw [mem_favoriteIds, mem_favoriteIds, h, Function.update_apply]
  cases i with
  | none => simp [Ne.symm hne]
  | some j =>
    by_cases hj : j = id
    · simp [hj]
    · simp [hj]

theorem setStep_of_step {realm realm' : Realm} {op : FavoriteOp} (hzero : realm.lookup 0 = none)
    (hcalled : op.Called realm) (hkey : op.HasOwnKey) (hstep : FavoriteStep realm op realm') :
    SetStep (favoriteIds realm) op (favoriteIds realm') := by
  cases op with
  | setFavoriteStatus t favorite =>
    obtain ⟨id, hid, hne⟩ := hkey
    obtain ⟨realm'', hok, hlookup⟩ := setFavoriteStatus_lookup hid hcalled
    have hsame : realm'' = realm' := Except.ok.inj (hok.symm.trans hstep)
    rw [hsame] at hlookup
    have hmem := mem_favoriteIds_update hne hlookup
    ext i
    cases favorite with
    | true => by_cases hi : i = some id <;> simp [hmem, hid, hi]
    | false => by_cases hi : i = some id <;> simp [hmem, hid, hi]
  | deleteFavorite r =>
    obtain ⟨record, hread⟩ := mem_getSavedShows.mp hcalled
    have hstored : realm.lookup record.id = some record := by
      obtain ⟨row, hrow, -, hvalue⟩ := read_eq_ok_iff.mp hread
      rw [← hvalue, Table.lookup_of_mem hrow]
    have hne : record.id ≠ 0 := by
      intro he
      rw [he, hzero] at hstored
      cases hstored
    have hsame : TVShowStore.deleteFavorite realm r = realm' := Except.ok.inj hstep
    have hmem := mem_favoriteIds_update hne (hsame ▸ deleteFavorite_lookup hread)
    refine ⟨record.id, mem_favoriteIds.mpr (by simp [hstored]), ?_⟩
    ext i
    by_cases hi : i = some record.id <;> simp [hmem, hi]

theorem favorites_refine_set {ops : List FavoriteOp} {realm : Realm}
    (h : Run (guarded (fun realm op => op.Called realm ∧ op.HasOwnKey) FavoriteStep)
      Realm.empty ops realm) : Run SetStep ∅ ops (favoriteIds realm) := by
  have hempty : favoriteIds Realm.empty = ∅ := by
    ext i
    simp [mem_favoriteIds, Realm.empty]
  have hsim := h.simulate (P := fun realm => realm.lookup 0 = none)
    (R := fun realm ids => ids = favoriteIds realm)
    (fun realm op realm' hzero hs => (keepsSet_of_ownKey hzero hs.1.1 hs.1.2).2 realm' hs.2)
    (fun realm op realm' ids hzero hR hs =>
      ⟨favoriteIds realm', hR ▸ setStep_of_step hzero hs.1.1 hs.1.2 hs.2, rfl⟩)
    (Table.lookup_empty 0) hempty.symm
  obtain ⟨ids, hrun, hids⟩ := hsim
  exact hids ▸ hrun

end Abstraction

end TVShows
