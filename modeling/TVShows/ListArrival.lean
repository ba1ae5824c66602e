import TVShows.AppTraps
import TVShows.ShowsFetchingRuns

/-! From the fetch to the app. Until a list arrives there is no row to select,
swipe or delete, so whatever failed and was retried before, the screen that the
list arrives at is the one that the app is launched with. -/

namespace TVShows

open TransitionRun

variable {Data : Type} {decode : Data → Except SwiftError (List TVShow)} {s s' : ShowsSystem Data}

def NothingSelected (screen : ShowsScreen) : Prop :=
  screen.currentTVShows = [] → screen.tvShow = none

theorem fetchEnds_tvShow (screen : ShowsScreen) (response : TVShowsModel) :
    (screen.fetchEnds response).tvShow = screen.tvShow := by
  unfold ShowsScreen.fetchEnds ShowsScreen.update
  split
  · rfl
  · split
    · rfl
    · split <;> rfl

theorem answerAlert_tvShow {screen screen' : ShowsScreen} {realm realm' : Realm} {i : Nat}
    {confirmed : Bool} (h : screen.answerAlert realm i confirmed = .ok (screen', realm')) :
    screen'.tvShow = screen.tvShow := by
  unfold ShowsScreen.answerAlert at h
  split at h
  · exact (Prod.mk.inj (Except.ok.inj h)).1 ▸ rfl
  · dsimp only at h
    split at h
    · split at h
      · exact (Prod.mk.inj (Except.ok.inj h)).1 ▸ rfl
      · obtain ⟨_, -, hpair⟩ := map_eq_ok h
        exact (Prod.mk.inj hpair).1 ▸ rfl
    · exact (Prod.mk.inj (Except.ok.inj h)).1 ▸ rfl

theorem nothingSelected_step {state state' : ShowsScreen × Realm} {event : ShowsEvent}
    (inv : ShowsInvariant state.1) (hnone : NothingSelected state.1)
    (h : ShowsStep state event state') : NothingSelected state'.1 := by
  intro hlist
  by_cases hempty : state.1.currentTVShows = []
  · have hrow : ∀ row, ¬ row < state.1.rowCount := by simp [inv.count, hempty]
    obtain ⟨hpossible, hok⟩ := h
    cases event with
    | fetchEnds response =>
      obtain rfl := Except.ok.inj hok
      exact (fetchEnds_tvShow _ response).trans (hnone hempty)
    | fetchDropped =>
      obtain rfl := Except.ok.inj hok
      exact hnone hempty
    | answerAlert i confirmed => exact (answerAlert_tvShow hok).trans (hnone hempty)
    | cellForRow row => exact absurd hpossible (hrow row)
    | selectRow row => exact absurd hpossible (hrow row)
    | swipeRow row => exact absurd hpossible (hrow row)
    | tapRowAction row =>
      have haction := inv.actions row hpossible
      simp [hempty] at haction
    | storeChanged realm =>
      obtain rfl := Except.ok.inj hok
      exact hnone hempty
  · -- a list that has a row stays
    have hrow := List.length_pos_of_ne_nil hempty
    rw [inv.run_list hrow (.single h)] at hlist
    exact absurd hlist hempty

theorem reachable_nothingSelected (h : Reachable SystemStarted (SystemStep decode) s) :
    NothingSelected s.screen := by
  obtain ⟨_, events, ⟨realm, rfl⟩, hrun⟩ := h
  obtain ⟨screenEvents, hscreen, -⟩ := (FetchingInvariant.viewDidLoad realm).run_screen hrun
  have hkept := hscreen.preserves
    (P := fun state => ShowsInvariant state.1 ∧ NothingSelected state.1)
    (fun _ _ _ hs hstep => ⟨hs.1.step hstep, nothingSelected_step hs.1 hs.2 hstep⟩)
    ⟨ShowsInvariant.viewDidLoad, fun _ => rfl⟩
  exact hkept.2

theorem fetchEnds_launch {screen : ShowsScreen} (inv : ShowsInvariant screen)
    (hnone : NothingSelected screen) (hflight : 0 < screen.fetches) (tvShows : List TVShow)
    (realm : Realm) :
    screen.fetchEnds ⟨some tvShows, none⟩ = (App.launch tvShows realm).shows := by
  obtain ⟨hlist, hone, hdialogs⟩ := inv.of_fetching hflight
  have hactions : screen.rowActions = fun _ => none := by
    funext row
    by_contra hne
    have hlt := inv.actions row hne
    simp [hlist] at hlt
  have halerts : screen.alerts = [] := by
    refine List.eq_nil_iff_forall_not_mem.mpr fun alert hmem => ?_
    cases alert with
    | retry message => exact List.countP_eq_zero.mp hdialogs _ hmem rfl
    | confirmDelete row =>
      have hlt := inv.captured row hmem
      simp [hlist] at hlt
  have htvShow := hnone hlist
  obtain ⟨screenState, currentTVShows, tvShow, rowCount, rowActions, alerts, fetches⟩ := screen
  dsimp only at hactions halerts htvShow hone
  subst hactions halerts htvShow hone
  cases tvShows <;> rfl

/-- After any failures and retries, the step that brings a list makes the Shows
screen, in every field, the one of a launch with that list and the store as it is. -/
theorem list_arrives_as_launch (h : Reachable SystemStarted (SystemStep decode) s)
    (event : SystemEvent Data) (hstep : SystemStep decode s event s')
    (hbefore : s.screen.currentTVShows = []) (hafter : s'.screen.currentTVShows ≠ []) :
    (s'.screen, s'.realm) = ((App.launch s'.screen.currentTVShows s.realm).shows,
      (App.launch s'.screen.currentTVShows s.realm).realm) := by
  have inv := FetchingInvariant.reachable h
  have hselected := reachable_nothingSelected h
  obtain ⟨events, hchange⟩ := hstep.change
  cases hchange with
  | finished i outcome hrunning => exact absurd hbefore hafter
  | handled i outcome hstate => exact absurd hbefore hafter
  | dropped i outcome rest hqueue hnone => exact absurd hbefore hafter
  | user e state hends huser =>
    have hkept := (UserEffect.of_step hends huser).state
    have hlist := (inv.screen.step huser).list
    rw [hkept, ← inv.screen.list, hbefore] at hlist
    exact absurd hlist hafter
  | completed i outcome rest response hqueue hsome =>
    have hflight : 0 < s.screen.fetches := by
      rw [(inv.head hqueue).2.2.2.1]
      exact Nat.one_pos
    obtain ⟨tvShows, error⟩ := response
    cases error with
    | some error => exact absurd rfl hafter
    | none =>
      cases tvShows with
      | none => exact absurd rfl hafter
      | some tvShows =>
        have hlaunch := fetchEnds_launch inv.screen hselected hflight tvShows s.realm
        have hlist : (App.launch tvShows s.realm).shows.currentTVShows = tvShows :=
          shows_list (.nil _)
        dsimp only
        rw [hlaunch, hlist]
        rfl

theorem list_arrives_as_launch_retried :
    ∃ s s' : ShowsSystem (List TVShow), s.service.tasks.length = 2 ∧
      SystemStep .ok s .mainBlockRuns s' ∧ s'.screen.currentTVShows = [.bare (some 1)] ∧
      (s'.screen, s'.realm) = ((App.launch s'.screen.currentTVShows s.realm).shows,
        (App.launch s'.screen.currentTVShows s.realm).realm) := by
  have hstart : Reachable SystemStarted (SystemStep .ok)
      (ShowsSystem.viewDidLoad Realm.empty : ShowsSystem (List TVShow)) := .start ⟨_, rfl⟩
  have hfailed := reachable_systemEvent hstart
    (.taskFinishes 0 ⟨none, none, some (.nsError "NSURLErrorDomain" (-1009))⟩) trivial rfl
  have hqueued := reachable_systemEvent hfailed (.handlerRuns 0) trivial rfl
  have hasked := reachable_systemEvent hqueued .mainBlockRuns trivial rfl
  have hretried := reachable_systemEvent hasked (.screen (.answerAlert 0 true)) Nat.one_pos rfl
  have hloaded := reachable_systemEvent hretried
    (.taskFinishes 1 ⟨some [.bare (some 1)], some (.http 200), none⟩) trivial rfl
  have hwaiting := reachable_systemEvent hloaded (.handlerRuns 1) trivial rfl
  exact ⟨_, _, rfl, ⟨trivial, rfl⟩, rfl,
    list_arrives_as_launch hwaiting .mainBlockRuns ⟨trivial, rfl⟩ rfl
      (List.cons_ne_nil _ _)⟩

end TVShows
