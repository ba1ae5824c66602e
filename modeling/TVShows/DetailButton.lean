import TVShows.AppRuns

/-! The bar button of a visible detail screen. Both tabs can show the same show,
and the other tab can change the store while this one is hidden; the button is
still the one that the store asks for, and a tap does what its icon says. A show
without an id is stored under the key 0 and cannot be taken out again. -/

namespace TVShows

open TransitionRun

structure ButtonTellsTruth (app : App) (detail : DetailScreen) (t : TVShow) : Prop where
  icon : detail.rightBarButtonItem = some .trash ↔ (app.realm.lookup (t.id.getD 0)).isSome
  shown : detail.rightBarButtonItem = some .trash ∨ detail.rightBarButtonItem = some .add
  answers : ∃ app', AdmittedStep app .toggleFavorite app'
  adds : ∀ app', AdmittedStep app .toggleFavorite app' →
    detail.rightBarButtonItem = some .add →
      app'.realm.lookup (t.id.getD 0) = some t.storeObject
  removes : ∀ app', AdmittedStep app .toggleFavorite app' →
    detail.rightBarButtonItem = some .trash → t.id ≠ none →
      app'.realm.lookup (t.id.getD 0) = none
  others : ∀ app', AdmittedStep app .toggleFavorite app' →
    ∀ key, key ≠ t.id.getD 0 → app'.realm.lookup key = app.realm.lookup key

section Toggle
variable {t : TVShow} {realm realm' : Realm}

theorem toggle_of_absent (h : t.setFavoriteStatus realm (!t.isFavorite realm) = .ok realm')
    (habsent : t.isFavorite realm = false) :
    realm'.lookup = Function.update realm.lookup (t.id.getD 0) (some t.storeObject) := by
  rw [habsent] at h
  exact (saveShow_eq_ok h).2

theorem toggle_of_stored (h : t.setFavoriteStatus realm (!t.isFavorite realm) = .ok realm')
    (hstored : t.isFavorite realm = true) {id : Int} (hid : t.id = some id) :
    realm'.lookup = Function.update realm.lookup id none := by
  rw [hstored] at h
  obtain rfl : t.deleteShow realm = realm' := Except.ok.inj h
  rw [TVShow.deleteShow, hid]
  exact deleteShow_lookup realm id

theorem toggle_of_stored_without_id
    (h : t.setFavoriteStatus realm (!t.isFavorite realm) = .ok realm')
    (hstored : t.isFavorite realm = true) (hid : t.id = none) : realm' = realm := by
  rw [hstored] at h
  obtain rfl : t.deleteShow realm = realm' := Except.ok.inj h
  rw [TVShow.deleteShow, hid]

theorem toggle_others (h : t.setFavoriteStatus realm (!t.isFavorite realm) = .ok realm') {key : Int}
    (hkey : key ≠ t.id.getD 0) : realm'.lookup key = realm.lookup key := by
  by_cases hstored : t.isFavorite realm = true
  · cases hid : t.id with
    | none => rw [toggle_of_stored_without_id h hstored hid]
    | some id =>
      rw [hid, Option.getD_some] at hkey
      rw [toggle_of_stored h hstored hid, Function.update_of_ne hkey]
  · rw [toggle_of_absent h (by simpa using hstored), Function.update_of_ne hkey]

end Toggle

theorem tap_realm {app app' : App} {detail : DetailScreen} {t : TVShow}
    (hvisible : app.DetailVisible detail) (ht : detail.tvShow = some t)
    (h : AppStep app .toggleFavorite app') :
    t.setFavoriteStatus app.realm (!t.isFavorite app.realm) = .ok app'.realm := by
  obtain ⟨details, hstack⟩ := List.head?_eq_some_iff.mp hvisible
  obtain ⟨realm', hok⟩ := toggle_ok t app.realm
  simp only [AppStep, App.handle, App.toggleFavorite, hstack, DetailScreen.toggleFavorite, ht,
    hok, Except.map] at h
  obtain rfl := Except.ok.inj h
  exact hok

theorem tap_ok {app : App} {detail : DetailScreen} (hvisible : app.DetailVisible detail) :
    ∃ app', AppStep app .toggleFavorite app' := by
  obtain ⟨details, hstack⟩ := List.head?_eq_some_iff.mp hvisible
  obtain ⟨realm', hok⟩ := toggleFavorite_ok detail app.realm
  simp only [AppStep, App.handle, App.toggleFavorite, hstack, hok]
  exact ⟨_, rfl⟩

theorem detail_button_tells_truth {app : App} {detail : DetailScreen} {t : TVShow}
    (h : Reachable Launched AdmittedStep app) (hvisible : app.DetailVisible detail)
    (ht : detail.tvShow = some t) : ButtonTellsTruth app detail t := by
  have inv := AppInvariant.reachable h
  have hbutton := (inv.current detail hvisible).button ht
  have hstored : t.isFavorite app.realm = (app.realm.lookup (t.id.getD 0)).isSome :=
    isFavorite_eq t app.realm
  obtain ⟨details, hstack⟩ := List.head?_eq_some_iff.mp hvisible
  have hdetail : app.navigation app.tab ≠ [] := by simp [hstack]
  refine ⟨?_, ?_, ?_, ?_, ?_, ?_⟩
  · rw [hbutton, ← hstored]
    cases t.isFavorite app.realm <;> simp
  · rw [hbutton]
    cases t.isFavorite app.realm <;> simp
  · obtain ⟨app', hok⟩ := tap_ok hvisible
    exact ⟨app', ⟨inv.noSheet_of_detail hdetail, hdetail⟩, hok⟩
  · intro app' hstep hadd
    have habsent : t.isFavorite app.realm = false := by
      rw [hbutton] at hadd
      cases hfavorite : t.isFavorite app.realm with
      | false => rfl
      | true => simp [hfavorite] at hadd
    rw [toggle_of_absent (tap_realm hvisible ht hstep.2) habsent, Function.update_self]
  · intro app' hstep htrash hid
    have hfavorite : t.isFavorite app.realm = true := by
      rw [hbutton] at htrash
      by_contra habsent
      simp [habsent] at htrash
    obtain ⟨id, hid⟩ := Option.ne_none_iff_exists'.mp hid
    rw [toggle_of_stored (tap_realm hvisible ht hstep.2) hfavorite hid, hid, Option.getD_some,
      Function.update_self]
  · exact fun app' hstep key hkey => toggle_others (tap_realm hvisible ht hstep.2) hkey

theorem detail_button_tells_truth_both_tabs : ∃ app detail,
    app.navigation .shows = [detail] ∧ app.navigation .favorites ≠ [] ∧
      detail.rightBarButtonItem = some .add ∧ ButtonTellsTruth app detail (.bare (some 7)) := by
  have hlaunch : Launched (App.launch [.bare (some 7)] Realm.empty) := ⟨_, _, rfl⟩
  have hswipe := reachable_event (.start hlaunch) (.swipeShowsRow 0)
    ⟨⟨rfl, rfl⟩, ⟨rfl, rfl⟩, Nat.one_pos⟩ rfl
  have hsave := reachable_event hswipe (.tapShowsAction 0)
    ⟨⟨rfl, rfl⟩, ⟨rfl, rfl⟩, Option.some_ne_none RowAction.favorite⟩ rfl
  have hopen := reachable_event hsave (.selectShowsRow 0)
    ⟨⟨rfl, rfl⟩, ⟨rfl, rfl⟩, Nat.one_pos⟩ rfl
  have hswitch := reachable_event hopen .switchTab ⟨rfl, rfl⟩ rfl
  have hselect := reachable_event hswitch (.selectFavoritesRow 0)
    ⟨⟨rfl, rfl⟩, ⟨rfl, rfl⟩, Nat.one_pos⟩ rfl
  have hremove := reachable_event hselect .toggleFavorite ⟨⟨rfl, rfl⟩, List.cons_ne_nil _ _⟩ rfl
  have hback := reachable_event hremove .switchTab ⟨rfl, rfl⟩ rfl
  exact ⟨_, _, rfl, List.cons_ne_nil _ _, rfl, detail_button_tells_truth hback rfl rfl⟩

end TVShows
