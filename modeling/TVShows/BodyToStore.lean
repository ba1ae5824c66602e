import TVShows.AppContent
import TVShows.ListArrival
import TVShows.ShowDecoding

/-! From the bytes of a response to the store. A body that decodes fills the Shows
screen, the app goes on from there, and whatever is favorited, deleted or opened
then, what it lists, stores and shows are the elements of the document, field by
field, besides the records that were stored before. -/

namespace TVShows

open JSONDecoding TransitionRun

variable {Data N : Type} {parse : Data → Option (JSON N)} {numbers : NumberReading N}

def App.around (shows : ShowsScreen) (realm : Realm) : App where
  realm := realm
  tab := .shows
  shows := shows
  favorites := .initial
  navigation := fun _ => []

def FromDocument (numbers : NumberReading N) (json : JSON N) (stored : List TVShowStore)
    (record : TVShowStore) : Prop :=
  record ∈ stored ∨ ∃ elements members t, json = .array elements ∧ .object members ∈ elements ∧
    ReadsShow numbers members t ∧ record = t.storeObject

structure KeepsDocument (numbers : NumberReading N) (json : JSON N) (stored : List TVShowStore)
    (app : App) : Prop where
  listed : ∀ (row : Nat) t, app.shows.currentTVShows[row]? = some t ↔ ∃ elements members,
    json = .array elements ∧ elements[row]? = some (.object members) ∧ ReadsShow numbers members t
  records : ∀ record ∈ app.realm.records, FromDocument numbers json stored record
  details : ∀ tab, ∀ detail ∈ app.navigation tab,
    ∃ record, FromDocument numbers json stored record ∧ detail.ShowsRecord record

theorem getElem?_of_forall₂ {α β : Type} {R : α → β → Prop} {as : List α} {bs : List β}
    (h : List.Forall₂ R as bs) (i : Nat) :
    (as[i]? = none ∧ bs[i]? = none) ∨ ∃ a b, as[i]? = some a ∧ bs[i]? = some b ∧ R a b := by
  induction h generalizing i with
  | nil => exact .inl ⟨rfl, rfl⟩
  | cons hab _ ih =>
    cases i with
    | zero => exact .inr ⟨_, _, rfl, rfl, hab⟩
    | succ i => simpa using ih i

theorem listed_of_reads {json : JSON N} {shows : List TVShow}
    (h : ReadsShows numbers json shows) (row : Nat) (t : TVShow) :
    shows[row]? = some t ↔ ∃ elements members, json = .array elements ∧
      elements[row]? = some (.object members) ∧ ReadsShow numbers members t := by
  obtain ⟨elements, rfl, hall⟩ := h
  constructor
  · intro ht
    obtain ⟨-, hnone⟩ | ⟨element, u, helement, hu, members, rfl, hreads⟩ :=
      getElem?_of_forall₂ hall row
    · cases hnone.symm.trans ht
    · obtain rfl := Option.some.inj (hu.symm.trans ht)
      exact ⟨elements, members, rfl, helement, hreads⟩
  · rintro ⟨_, members, heq, hmember, hreads⟩
    obtain rfl := JSON.array.inj heq
    obtain ⟨hnone, -⟩ | ⟨element, u, helement, hu, hread⟩ := getElem?_of_forall₂ hall row
    · cases hnone.symm.trans hmember
    · obtain rfl := Option.some.inj (helement.symm.trans hmember)
      have hsame : ∀ v, TVShow.initFrom numbers [] (.object members) = .ok v ↔
          ReadsObject (ReadsShow numbers) (.object members) v :=
        accepts_object (fields_eq_ok_iff numbers) [] (.object members)
      have hboth := ((hsame u).mpr hread).symm.trans ((hsame t).mpr ⟨members, rfl, hreads⟩)
      rw [hu, Except.ok.inj hboth]

theorem fromDocument_of_source {json : JSON N} {shows : List TVShow} {stored : List TVShowStore}
    {record : TVShowStore} (h : ReadsShows numbers json shows)
    (hsource : FromSource shows stored record) : FromDocument numbers json stored record := by
  refine hsource.imp_right ?_
  rintro ⟨t, hmem, rfl⟩
  obtain ⟨row, hrow⟩ := List.mem_iff_getElem?.mp hmem
  obtain ⟨elements, members, hjson, hmember, hreads⟩ := (listed_of_reads h row t).mp hrow
  exact ⟨elements, members, t, hjson, List.mem_of_getElem? hmember, hreads, rfl⟩

section Runs
variable {s s' : ShowsSystem Data} {i : Nat} {data : Data} {response : URLResponse}
  {rest : List (Nat × TaskOutcome Data)}

theorem around_of_body {shows : List TVShow}
    (h : Reachable SystemStarted (SystemStep (decodeShows parse numbers)) s)
    (hqueue : s.service.mainQueue = (i, ⟨some data, some response, none⟩) :: rest)
    (hstep : SystemStep (decodeShows parse numbers) s .mainBlockRuns s')
    (hreads : ReadsBody parse numbers data shows) :
    App.around s'.screen s'.realm = App.launch shows s.realm := by
  have inv := FetchingInvariant.reachable h
  have hflight : 0 < s.screen.fetches := by
    rw [(inv.head hqueue).2.2.2.1]
    exact Nat.one_pos
  have hdecode := (decodeShows_eq_ok_iff data shows).mpr hreads
  have hscreen : s'.screen = s.screen.fetchEnds ⟨some shows, none⟩ := by
    rw [mainBlockRuns_screen hqueue hstep]
    simp [ShowsScreen.afterFetch, fetchCompletion, hdecode]
  have hrealm : s'.realm = s.realm := by
    have hok := hstep.2
    simp only [ShowsSystem.step, ShowsSystem.mainBlockRuns, hqueue] at hok
    obtain ⟨_, -, rfl⟩ := Option.map_eq_some_iff.mp hok
    rfl
  rw [hscreen, hrealm,
    fetchEnds_launch inv.screen (reachable_nothingSelected h) hflight shows s.realm]
  rfl

/-- Whatever the user does after a body has arrived, each row, each record and
each detail screen is an element of its document, or a record from before. -/
theorem body_reaches_store {json : JSON N} {shows : List TVShow}
    (h : Reachable SystemStarted (SystemStep (decodeShows parse numbers)) s)
    (hqueue : s.service.mainQueue = (i, ⟨some data, some response, none⟩) :: rest)
    (hjson : parse data = some json) (hreads : ReadsShows numbers json shows)
    (hstep : SystemStep (decodeShows parse numbers) s .mainBlockRuns s')
    {events : List AppEvent} {app : App}
    (hrun : Run AdmittedStep (App.around s'.screen s'.realm) events app) :
    KeepsDocument numbers json s.realm.records app := by
  rw [around_of_body h hqueue hstep ⟨json, hjson, hreads⟩] at hrun
  have hcontent := content_of_run hrun
  refine ⟨fun row t => ?_, fun record hmem => ?_, fun tab detail hmem => ?_⟩
  · rw [hcontent.list]
    exact listed_of_reads hreads row t
  · exact fromDocument_of_source hreads (hcontent.records record hmem)
  · obtain ⟨record, hsource, hshown⟩ := hcontent.details tab detail hmem
    exact ⟨record, fromDocument_of_source hreads hsource, hshown⟩

end Runs

theorem body_reaches_store_favorited : ∃ app : App,
    KeepsDocument (⟨some, fun _ => none⟩ : NumberReading Int)
      (.array [.object [("id", .number 7), ("name", .string "A"), ("rating", .null)]]) [] app ∧
      app.realm.records = [{ TVShow.bare (some 7) with name := some "A" }.storeObject] := by
  have hstart : Reachable SystemStarted (SystemStep (decodeShows some ⟨some, fun _ => none⟩))
      (ShowsSystem.viewDidLoad Realm.empty : ShowsSystem (JSON Int)) := .start ⟨_, rfl⟩
  have hloaded := reachable_systemEvent hstart (.taskFinishes 0 ⟨some (.array
    [.object [("id", .number 7), ("name", .string "A"), ("rating", .null)]]), some (.http 200),
    none⟩) trivial rfl
  have hwaiting := reachable_systemEvent hloaded (.handlerRuns 0) trivial rfl
  have hreads : ReadsShows (⟨some, fun _ => none⟩ : NumberReading Int)
      (.array [.object [("id", .number 7), ("name", .string "A"), ("rating", .null)]])
      [{ TVShow.bare (some 7) with name := some "A" }] :=
    (accepts_shows _ [] _ _).mp rfl
  have hrun : ∃ app, Run AdmittedStep
      (App.launch [{ TVShow.bare (some 7) with name := some "A" }] Realm.empty)
      [.swipeShowsRow 0, .tapShowsAction 0] app ∧
      app.realm.records = [{ TVShow.bare (some 7) with name := some "A" }.storeObject] :=
    ⟨_, .cons ⟨⟨⟨rfl, rfl⟩, ⟨rfl, rfl⟩, Nat.one_pos⟩, rfl⟩ <|
      .single ⟨⟨⟨rfl, rfl⟩, ⟨rfl, rfl⟩, Option.some_ne_none RowAction.favorite⟩, rfl⟩, rfl⟩
  obtain ⟨app, hrun, hrecords⟩ := hrun
  have haround := around_of_body hwaiting rfl ⟨trivial, rfl⟩ ⟨_, rfl, hreads⟩
  exact ⟨app, body_reaches_store hwaiting rfl rfl hreads ⟨trivial, rfl⟩ (haround ▸ hrun), hrecords⟩

end TVShows
