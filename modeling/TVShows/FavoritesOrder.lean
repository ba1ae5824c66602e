import TVShows.FavoritesScreen
import TVShows.TransitionRun

/-! The order of the Favorites rows. A confirmed removal takes one element out
of the array and leaves the others in place; Realm moves its last row over the
deleted one, and the next load lists the objects in row order. Both lists hold
the same objects, but they agree as lists only while the rows that go are among
the last two. -/

namespace TVShows

open LiveTable TransitionRun

def RemoveStep (s : FavoritesScreen × Realm) (row : Nat) (s' : FavoritesScreen × Realm) : Prop :=
  s.1.removeFavorite s.2 row = .ok s'

def ValidRow (s : FavoritesScreen × Realm) (row : Nat) : Prop :=
  row < s.1.favorites.length

def LastTwoRows (s : FavoritesScreen × Realm) (row : Nat) : Prop :=
  s.1.favorites.length ≤ row + 2

structure InReloadOrder (s : FavoritesScreen × Realm) : Prop where
  objects : s.1.favorites = TVShowStore.getSavedShows s.2
  count : s.1.rowCount = s.1.favorites.length

theorem InReloadOrder.fresh {s : FavoritesScreen × Realm} (h : InReloadOrder s) :
    s.1.Fresh s.2 := by
  refine ⟨?_, h.count⟩
  rw [h.objects, getSavedShows_eq]

theorem inReloadOrder_loadShows (screen : FavoritesScreen) (realm : Realm) :
    InReloadOrder (screen.loadShows realm, realm) :=
  ⟨rfl, rfl⟩

section Steps
variable {s s' : FavoritesScreen × Realm} {row : Nat}

theorem RemoveStep.change (h : RemoveStep s row s') :
    ∃ object, s.1.favorites[row]? = some object ∧
      s'.1.favorites = s.1.favorites.eraseIdx row ∧
      s'.1.rowCount = s'.1.favorites.length ∧ s'.2 = TVShowStore.deleteFavorite s.2 object := by
  unfold RemoveStep FavoritesScreen.removeFavorite at h
  split at h
  · cases h
  · rename_i object hindex
    dsimp only at h
    split at h
    · obtain rfl := Except.ok.inj h
      exact ⟨object, index_eq_ok hindex, rfl, rfl, rfl⟩
    · cases h

theorem removeStep_fresh (hfresh : s.1.Fresh s.2) (h : RemoveStep s row s') :
    s'.1.Fresh s'.2 := by
  obtain ⟨object, hobject, hfavorites, hcount, hrealm⟩ := h.change
  obtain ⟨hlt, -⟩ := List.getElem?_eq_some_iff.mp hobject
  obtain ⟨_, _, screen', -, -, hok, hfresh', -⟩ := hfresh.removeFavorite (hfresh.count ▸ hlt)
  obtain rfl := Except.ok.inj (hok.symm.trans h)
  exact hfresh'

theorem removeStep_enabled (hfresh : s.1.Fresh s.2) (hvalid : ValidRow s row) :
    ∃ s', RemoveStep s row s' := by
  have hrow : row < s.1.rowCount := by
    rw [hfresh.count]
    exact hvalid
  obtain ⟨_, _, _, -, -, hok, -⟩ := hfresh.removeFavorite hrow
  exact ⟨_, hok⟩

theorem removeStep_inReloadOrder_iff (horder : InReloadOrder s) (hvalid : ValidRow s row)
    (h : RemoveStep s row s') : InReloadOrder s' ↔ LastTwoRows s row := by
  obtain ⟨object, hobject, hfavorites, hcount, hrealm⟩ := h.change
  have hhandles : s.1.favorites = s.2.handles := by rw [horder.objects, getSavedShows_eq]
  have hreload : TVShowStore.getSavedShows s'.2 = moveLastOver s.1.favorites row := by
    rw [getSavedShows_eq, hrealm, TVShowStore.deleteFavorite, hhandles]
    exact Table.handles_delete (hhandles ▸ hobject)
  have hnodup : s.1.favorites.Nodup := hhandles ▸ s.2.handles_nodup
  have hiff : InReloadOrder s' ↔ s.1.favorites.eraseIdx row = moveLastOver s.1.favorites row := by
    rw [← hfavorites, ← hreload]
    exact ⟨InReloadOrder.objects, fun hobjects => ⟨hobjects, hcount⟩⟩
  rw [hiff, eq_comm]
  exact moveLastOver_eq_eraseIdx_iff hnodup hvalid

end Steps

section Runs
variable {s s' : FavoritesScreen × Realm} {rows : List Nat}

theorem removals_fresh (h : Run RemoveStep s rows s') (hfresh : s.1.Fresh s.2) :
    s'.1.Fresh s'.2 :=
  h.preserves (P := fun s => s.1.Fresh s.2) (fun _ _ _ hs hstep => removeStep_fresh hs hstep) hfresh

theorem exists_removals (hfresh : s.1.Fresh s.2) (rows : List Nat)
    (h : Along RemoveStep ValidRow s rows) : ∃ s', Run RemoveStep s rows s' := by
  refine run_of_along (P := fun s => s.1.Fresh s.2) ?_ ?_ hfresh rows h
  · exact fun _ _ _ hs hstep => removeStep_fresh hs hstep
  · exact fun _ _ hs hrow => removeStep_enabled hs hrow

theorem removals_sublist (h : Run RemoveStep s rows s') :
    s'.1.favorites.Sublist s.1.favorites := by
  induction h with
  | nil s => exact List.Sublist.refl _
  | cons hstep _ ih =>
    obtain ⟨_, -, hfavorites, -⟩ := hstep.change
    rw [hfavorites] at ih
    exact ih.trans (List.eraseIdx_sublist ..)

theorem inReloadOrder_throughout_iff (horder : InReloadOrder s) (rows : List Nat)
    (h : Along RemoveStep ValidRow s rows) :
    (∀ done s', done <+: rows → Run RemoveStep s done s' → InReloadOrder s') ↔
      Along RemoveStep LastTwoRows s rows := by
  refine throughout_iff_along (P := InReloadOrder) (Q := ValidRow) ?_ ?_ horder rows h
  · exact fun _ _ hs hrow => removeStep_enabled hs.fresh hrow
  · exact fun _ _ _ hs hrow hstep => removeStep_inReloadOrder_iff hs hrow hstep

end Runs

/-- Removals at valid rows never trap. The rows that stay are the objects that a
reload lists, in the order they had; they are in the order of a reload after
every removal exactly when each removal takes one of the last two rows, and the
first removal that takes another row leaves it. -/
theorem removed_rows_match_reload (screen : FavoritesScreen) (realm : Realm) (rows : List Nat)
    (hvalid : Along RemoveStep ValidRow (screen.loadShows realm, realm) rows) :
    (∃ s, Run RemoveStep (screen.loadShows realm, realm) rows s) ∧
      (∀ s, Run RemoveStep (screen.loadShows realm, realm) rows s →
        s.1.favorites.Perm (TVShowStore.getSavedShows s.2) ∧
          s.1.favorites.Sublist (TVShowStore.getSavedShows realm)) ∧
      ((∀ done s, done <+: rows → Run RemoveStep (screen.loadShows realm, realm) done s →
          s.1.favorites = TVShowStore.getSavedShows s.2) ↔
        Along RemoveStep LastTwoRows (screen.loadShows realm, realm) rows) ∧
      ∀ done row s s', done ++ [row] <+: rows →
        Along RemoveStep LastTwoRows (screen.loadShows realm, realm) done →
        Run RemoveStep (screen.loadShows realm, realm) done s → RemoveStep s row s' →
          (s'.1.favorites = TVShowStore.getSavedShows s'.2 ↔ LastTwoRows s row) := by
  have horder := inReloadOrder_loadShows screen realm
  have hsame : ∀ done s, Run RemoveStep (screen.loadShows realm, realm) done s →
      (s.1.favorites = TVShowStore.getSavedShows s.2 ↔ InReloadOrder s) := fun done s hrun =>
    ⟨fun hobjects => ⟨hobjects, (removals_fresh hrun horder.fresh).count⟩, InReloadOrder.objects⟩
  refine ⟨?_, fun s hrun => ⟨?_, removals_sublist hrun⟩, ?_,
    fun done row s s' hprefix halong hrun hstep => ?_⟩
  · exact exists_removals horder.fresh rows hvalid
  · rw [getSavedShows_eq]
    exact (removals_fresh hrun horder.fresh).objects
  · rw [← inReloadOrder_throughout_iff horder rows hvalid]
    exact forall₂_congr fun done s => forall₂_congr fun _ hrun => hsame done s hrun
  · obtain ⟨rest, rfl⟩ := hprefix
    rw [List.append_assoc, along_append] at hvalid
    have hbefore := (inReloadOrder_throughout_iff horder done hvalid.1).mpr halong done s
      (List.prefix_refl _) hrun
    rw [hsame _ s' (hrun.snoc hstep)]
    exact removeStep_inReloadOrder_iff hbefore (hvalid.2 s hrun).1 hstep

theorem removed_rows_match_reload_two :
    ∃ realm s, [1, 2].foldlM (fun realm id => (TVShow.bare (some id)).saveShow realm) Realm.empty =
        .ok realm ∧
      Run RemoveStep (FavoritesScreen.initial.loadShows realm, realm) [0] s ∧
      s.1.favorites = TVShowStore.getSavedShows s.2 := by
  obtain ⟨realm, hsaved, hlisted⟩ : ∃ realm,
      [1, 2].foldlM (fun realm id => (TVShow.bare (some id)).saveShow realm) Realm.empty =
        .ok realm ∧ TVShowStore.getSavedShows realm = [0, 1] := ⟨_, rfl, rfl⟩
  have hvalid : Along RemoveStep ValidRow (FavoritesScreen.initial.loadShows realm, realm) [0] :=
    ⟨by simp [ValidRow, FavoritesScreen.loadShows, hlisted], fun _ _ => trivial⟩
  have hnear : Along RemoveStep LastTwoRows (FavoritesScreen.initial.loadShows realm, realm) [0] :=
    ⟨by simp [LastTwoRows, FavoritesScreen.loadShows, hlisted], fun _ _ => trivial⟩
  obtain ⟨⟨s, hrun⟩, -, hiff, -⟩ := removed_rows_match_reload .initial realm [0] hvalid
  exact ⟨realm, s, hsaved, hrun, hiff.mpr hnear [0] s (List.prefix_refl _) hrun⟩

/-- Three shows, and the one saved first is removed: the screen keeps the other
two in order, the next load swaps them. -/
theorem first_of_three_removed :
    ∃ realm s, [1, 2, 3].foldlM (fun realm id => (TVShow.bare (some id)).saveShow realm)
        Realm.empty = .ok realm ∧
      Along RemoveStep ValidRow (FavoritesScreen.initial.loadShows realm, realm) [0] ∧
      Run RemoveStep (FavoritesScreen.initial.loadShows realm, realm) [0] s ∧
      (s.1.favorites.mapM s.2.read).map (List.map TVShowStore.id) = .ok [2, 3] ∧
      ((TVShowStore.getSavedShows s.2).mapM s.2.read).map (List.map TVShowStore.id) =
        .ok [3, 2] ∧
      s.1.favorites ≠ TVShowStore.getSavedShows s.2 := by
  refine ⟨_, _, rfl, ⟨Nat.zero_lt_succ _, fun _ _ => trivial⟩, .single rfl, rfl, rfl, ?_⟩
  decide

end TVShows
