import TVShows.FavoriteStore

/-! The Favorites screen: an array of live accessors that is loaded when the
screen appears, and the delete confirmation, which captures a row. Reading an
accessor whose row is gone is an exception, and so is a table update that does
not take exactly the removed row out of the count. -/

namespace TVShows

structure FavoritesScreen where
  favorites : List Accessor
  tvShow : Option TVShow
  rowCount : Nat
  alerts : List Nat

namespace FavoritesScreen

def initial : FavoritesScreen where
  favorites := []
  tvShow := none
  rowCount := 0
  alerts := []

def loadShows (self : FavoritesScreen) (realm : Realm) : FavoritesScreen :=
  { self with
    favorites := TVShowStore.getSavedShows realm
    rowCount := (TVShowStore.getSavedShows realm).length }

def viewWillAppear (self : FavoritesScreen) (realm : Realm) : FavoritesScreen :=
  self.loadShows realm

def record (self : FavoritesScreen) (realm : Realm) (row : Nat) : Except Trap TVShowStore :=
  match index self.favorites row with
  | .ok object => realm.read object
  | .error trap => .error trap

def cellForRowAt (self : FavoritesScreen) (realm : Realm) (row : Nat) : Except Trap TVShowStore :=
  self.record realm row

def didSelectRowAt (self : FavoritesScreen) (realm : Realm) (row : Nat) :
    Except Trap FavoritesScreen :=
  (self.record realm row).map fun tvShowStore =>
    { self with tvShow := some tvShowStore.buildTVShowModel }

/-- The closure of the row action: `showActionAlert`, the row captured. -/
def unfavoriteAction (self : FavoritesScreen) (row : Nat) : FavoritesScreen :=
  { self with alerts := self.alerts ++ [row] }

def removeFavorite (self : FavoritesScreen) (realm : Realm) (row : Nat) :
    Except Trap (FavoritesScreen × Realm) :=
  match index self.favorites row with
  | .error trap => .error trap
  | .ok object =>
    let favorites := self.favorites.eraseIdx row
    if favorites.length + 1 = self.rowCount then
      .ok ({ self with favorites := favorites, rowCount := favorites.length },
        TVShowStore.deleteFavorite realm object)
    else .error .invalidRowUpdate

def answerAlert (self : FavoritesScreen) (realm : Realm) (i : Nat) (confirmed : Bool) :
    Except Trap (FavoritesScreen × Realm) :=
  match self.alerts[i]? with
  | none => .ok (self, realm)
  | some row =>
    let answered := { self with alerts := self.alerts.eraseIdx i }
    if confirmed then answered.removeFavorite realm row else .ok (answered, realm)

end FavoritesScreen

/-- The array holds the listed objects in some order, and the table knows how many. -/
structure FavoritesScreen.Fresh (screen : FavoritesScreen) (realm : Realm) : Prop where
  objects : screen.favorites.Perm realm.handles
  count : screen.rowCount = screen.favorites.length

namespace FavoritesScreen.Fresh
variable {screen : FavoritesScreen} {realm : Realm}

theorem loadShows (screen : FavoritesScreen) (realm : Realm) :
    (screen.loadShows realm).Fresh realm := by
  refine ⟨?_, rfl⟩
  rw [FavoritesScreen.loadShows, getSavedShows_eq]

theorem read (fresh : screen.Fresh realm) {object : Accessor} (h : object ∈ screen.favorites) :
    ∃ record, realm.read object = .ok record := by
  obtain ⟨row, hrow, hhandle⟩ := List.mem_map.mp (fresh.objects.mem_iff.mp h)
  exact ⟨row.value, read_eq_ok_iff.mpr ⟨row, hrow, hhandle, rfl⟩⟩

theorem record (fresh : screen.Fresh realm) {row : Nat} (h : row < screen.rowCount) :
    ∃ object record, screen.favorites[row]? = some object ∧ realm.read object = .ok record ∧
      screen.record realm row = .ok record := by
  have hlt : row < screen.favorites.length := fresh.count ▸ h
  obtain ⟨record, hread⟩ := fresh.read (List.getElem_mem hlt)
  refine ⟨screen.favorites[row], record, List.getElem?_eq_getElem hlt, hread, ?_⟩
  rw [FavoritesScreen.record, index_of_lt hlt]
  exact hread

theorem removeFavorite (fresh : screen.Fresh realm) {row : Nat} (h : row < screen.rowCount) :
    ∃ object record screen', screen.favorites[row]? = some object ∧
      realm.read object = .ok record ∧
      screen.removeFavorite realm row = .ok (screen', TVShowStore.deleteFavorite realm object) ∧
      screen'.Fresh (TVShowStore.deleteFavorite realm object) ∧ screen'.alerts = screen.alerts := by
  have hlt : row < screen.favorites.length := fresh.count ▸ h
  have hlength := List.length_eraseIdx_of_lt hlt
  obtain ⟨record, hread⟩ := fresh.read (List.getElem_mem hlt)
  have hcount : (screen.favorites.eraseIdx row).length + 1 = screen.rowCount := by
    have hsame := fresh.count
    omega
  refine ⟨screen.favorites[row], record,
    { screen with
      favorites := screen.favorites.eraseIdx row
      rowCount := (screen.favorites.eraseIdx row).length },
    List.getElem?_eq_getElem hlt, hread, ?_, ⟨?_, rfl⟩, rfl⟩
  · simp only [FavoritesScreen.removeFavorite, index_of_lt hlt, hcount, if_true]
  · have herase : (screen.favorites.erase screen.favorites[row]).Perm
        (screen.favorites.eraseIdx row) := List.erase_getElem hlt
    exact herase.symm.trans ((fresh.objects.erase _).trans
      (LiveTable.Table.handles_delete_perm realm _).symm)

end FavoritesScreen.Fresh

end TVShows
