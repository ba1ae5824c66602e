import TVShows.LiveTable
import TVShows.Models

/-! The favorites in Realm. The table is the one of `LiveTable`: an object goes
to the end under a primary key, and deleting an object moves the last row over
it. An accessor is the handle of the row it is attached to; it is invalid once
the row is gone. Opening the file and committing a write always succeed. -/

namespace TVShows

open LiveTable

/-- What ends the process: an exception of Realm or UIKit, or a Swift runtime trap. -/
inductive Trap
  | duplicatePrimaryKey (key : Int)
  | invalidatedObject
  | indexOutOfRange
  | invalidRowUpdate
deriving DecidableEq, Repr

def index {α : Type} (xs : List α) (row : Nat) : Except Trap α :=
  match xs[row]? with
  | some x => .ok x
  | none => .error .indexOutOfRange

theorem index_of_lt {α : Type} {xs : List α} {row : Nat} (h : row < xs.length) :
    index xs row = .ok xs[row] := by
  rw [index, List.getElem?_eq_getElem h]

theorem index_eq_ok {α : Type} {xs : List α} {row : Nat} {x : α} (h : index xs row = .ok x) :
    xs[row]? = some x := by
  unfold index at h
  cases hx : xs[row]? with
  | none => simp [hx] at h
  | some y =>
    simp only [hx, Except.ok.injEq] at h
    rw [h]

theorem index_eq_error {α : Type} {xs : List α} {row : Nat} {trap : Trap}
    (h : index xs row = .error trap) : trap = .indexOutOfRange := by
  unfold index at h
  cases hx : xs[row]? with
  | none =>
    simp only [hx, Except.error.injEq] at h
    exact h.symm
  | some y => simp [hx] at h

theorem map_eq_ok {α β : Type} {f : α → β} {x : Except Trap α} {y : β} (h : x.map f = .ok y) :
    ∃ a, x = .ok a ∧ f a = y := by
  cases x with
  | error trap => cases h
  | ok a => exact ⟨a, rfl, Except.ok.inj h⟩

theorem map_eq_error_iff {α β : Type} {f : α → β} {x : Except Trap α} {trap : Trap} :
    x.map f = .error trap ↔ x = .error trap := by
  cases x with
  | error t => simp [Except.map]
  | ok a => simp [Except.map]

abbrev Realm := Table TVShowStore.id

abbrev Accessor := Nat

namespace Realm

def empty : Realm :=
  Table.empty TVShowStore.id

def add (realm : Realm) (object : TVShowStore) : Except Trap Realm :=
  if fresh : realm.lookup object.id = none then .ok (realm.insert object fresh)
  else .error (.duplicatePrimaryKey object.id)

def objectForPrimaryKey (realm : Realm) (key : Int) : Option Accessor :=
  (realm.find? key).map Row.handle

def objects (realm : Realm) : List Accessor :=
  realm.handles

def read (realm : Realm) (object : Accessor) : Except Trap TVShowStore :=
  match realm.row? object with
  | some row => .ok row.value
  | none => .error .invalidatedObject

end Realm

namespace TVShowStore

def getSavedShows (realm : Realm) : List Accessor :=
  let results := realm.objects
  if !results.isEmpty then results else []

def saveShow (self : TVShowStore) (realm : Realm) : Except Trap Realm :=
  realm.add self

def checkFavoriteStatus (realm : Realm) (showID : Int) : Bool :=
  match realm.objectForPrimaryKey showID with
  | none => false
  | some _ => true

def deleteShow (realm : Realm) (showID : Int) : Realm :=
  match realm.objectForPrimaryKey showID with
  | none => realm
  | some object => realm.delete object

/-- Deleting through a live accessor; a detached one deletes no row. -/
def deleteFavorite (realm : Realm) (self : Accessor) : Realm :=
  realm.delete self

end TVShowStore

namespace TVShow

def isFavorite (self : TVShow) (realm : Realm) : Bool :=
  TVShowStore.checkFavoriteStatus realm (self.id.getD 0)

def deleteShow (self : TVShow) (realm : Realm) : Realm :=
  match self.id with
  | some id => TVShowStore.deleteShow realm id
  | none => realm

def saveShow (self : TVShow) (realm : Realm) : Except Trap Realm :=
  self.storeObject.saveShow realm

def setFavoriteStatus (self : TVShow) (realm : Realm) (favorite : Bool) : Except Trap Realm :=
  if favorite then self.saveShow realm else .ok (self.deleteShow realm)

def storedRecord (self : TVShow) (realm : Realm) : Option TVShowStore :=
  realm.lookup (self.id.getD 0)

end TVShow

section Lookup

theorem getSavedShows_eq (realm : Realm) : TVShowStore.getSavedShows realm = realm.handles := by
  unfold TVShowStore.getSavedShows Realm.objects
  cases realm.handles <;> rfl

theorem objectForPrimaryKey_eq_some_iff {realm : Realm} {key : Int} {object : Accessor} :
    realm.objectForPrimaryKey key = some object ↔
      ∃ row ∈ realm.rows, row.handle = object ∧ row.value.id = key := by
  simp only [Realm.objectForPrimaryKey, Option.map_eq_some_iff, Table.find?_eq_some_iff]
  exact exists_congr fun row => by tauto

theorem checkFavoriteStatus_eq (realm : Realm) (showID : Int) :
    TVShowStore.checkFavoriteStatus realm showID = (realm.lookup showID).isSome := by
  unfold TVShowStore.checkFavoriteStatus Realm.objectForPrimaryKey Table.lookup
  cases realm.find? showID <;> rfl

theorem isFavorite_eq (t : TVShow) (realm : Realm) :
    t.isFavorite realm = (t.storedRecord realm).isSome :=
  checkFavoriteStatus_eq realm _

theorem read_eq_ok_iff {realm : Realm} {object : Accessor} {record : TVShowStore} :
    realm.read object = .ok record ↔
      ∃ row ∈ realm.rows, row.handle = object ∧ row.value = record := by
  unfold Realm.read
  cases h : realm.row? object with
  | none =>
    simp only [reduceCtorEq, false_iff, not_exists, not_and]
    rintro row hrow rfl
    have := Table.row?_eq_some_iff.mpr ⟨hrow, rfl⟩
    simp [h] at this
  | some row =>
    obtain ⟨hrow, rfl⟩ := Table.row?_eq_some_iff.mp h
    simp only [Except.ok.injEq]
    constructor
    · rintro rfl
      exact ⟨row, hrow, rfl, rfl⟩
    · rintro ⟨q, hq, hhandle, rfl⟩
      rw [Table.row_eq_of_handle hrow hq hhandle.symm]

theorem saveShow_eq_ok {t : TVShow} {realm realm' : Realm} (h : t.saveShow realm = .ok realm') :
    realm.lookup (t.id.getD 0) = none ∧
      realm'.lookup = Function.update realm.lookup (t.id.getD 0) (some t.storeObject) := by
  unfold TVShow.saveShow TVShowStore.saveShow Realm.add at h
  split_ifs at h with fresh
  obtain rfl := Except.ok.inj h
  exact ⟨fresh, Table.lookup_insert fresh⟩

theorem saveShow_of_absent {t : TVShow} {realm : Realm} (h : realm.lookup (t.id.getD 0) = none) :
    ∃ realm', t.saveShow realm = .ok realm' ∧
      realm'.lookup = Function.update realm.lookup (t.id.getD 0) (some t.storeObject) := by
  have hkey : realm.lookup t.storeObject.id = none := h
  exact ⟨_, dif_pos hkey, Table.lookup_insert hkey⟩

theorem saveShow_of_stored {t : TVShow} {realm : Realm} (h : t.isFavorite realm = true) :
    t.saveShow realm = .error (.duplicatePrimaryKey (t.id.getD 0)) := by
  rw [isFavorite_eq, TVShow.storedRecord] at h
  have hkey : ¬ realm.lookup t.storeObject.id = none := by
    intro hnone
    simp [show realm.lookup (t.id.getD 0) = none from hnone] at h
  exact dif_neg hkey

theorem setFavoriteStatus_eq_error_iff {t : TVShow} {realm : Realm} {favorite : Bool}
    {trap : Trap} :
    t.setFavoriteStatus realm favorite = .error trap ↔
      favorite = true ∧ t.isFavorite realm = true ∧ trap = .duplicatePrimaryKey (t.id.getD 0) := by
  unfold TVShow.setFavoriteStatus
  cases favorite with
  | false => simp
  | true =>
    cases hfav : t.isFavorite realm with
    | true => simp [saveShow_of_stored hfav, eq_comm]
    | false =>
      have habsent : realm.lookup (t.id.getD 0) = none := by
        rw [isFavorite_eq, TVShow.storedRecord] at hfav
        simpa using hfav
      obtain ⟨realm', hok, -⟩ := saveShow_of_absent habsent
      simp [hok]

theorem deleteShow_lookup (realm : Realm) (showID : Int) :
    (TVShowStore.deleteShow realm showID).lookup = Function.update realm.lookup showID none := by
  unfold TVShowStore.deleteShow
  cases h : realm.objectForPrimaryKey showID with
  | none =>
    have hnone : realm.lookup showID = none := by
      simpa [Realm.objectForPrimaryKey, Table.lookup] using h
    rw [← hnone, Function.update_eq_self]
  | some object =>
    obtain ⟨row, hrow, rfl, rfl⟩ := objectForPrimaryKey_eq_some_iff.mp h
    exact Table.lookup_delete hrow

theorem deleteFavorite_lookup {realm : Realm} {object : Accessor} {record : TVShowStore}
    (h : realm.read object = .ok record) :
    (TVShowStore.deleteFavorite realm object).lookup =
      Function.update realm.lookup record.id none := by
  obtain ⟨row, hrow, rfl, rfl⟩ := read_eq_ok_iff.mp h
  exact Table.lookup_delete hrow

theorem deleteShow_eq_deleteFavorite {realm : Realm} {object : Accessor} {record : TVShowStore}
    (h : realm.read object = .ok record) :
    TVShowStore.deleteShow realm record.id = TVShowStore.deleteFavorite realm object := by
  obtain ⟨row, hrow, rfl, rfl⟩ := read_eq_ok_iff.mp h
  have hfind : realm.objectForPrimaryKey row.value.id = some row.handle :=
    objectForPrimaryKey_eq_some_iff.mpr ⟨row, hrow, rfl, rfl⟩
  simp only [TVShowStore.deleteShow, hfind, TVShowStore.deleteFavorite]

theorem unfavorite_buildTVShowModel {realm : Realm} {object : Accessor} {record : TVShowStore}
    (h : realm.read object = .ok record) :
    record.buildTVShowModel.setFavoriteStatus realm false =
      .ok (TVShowStore.deleteFavorite realm object) := by
  rw [← deleteShow_eq_deleteFavorite h]
  rfl

end Lookup

end TVShows
