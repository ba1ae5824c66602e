import TVShows.AppContent
import TVShows.AppStore

/-! The app launched again and again over one store. Each launch fetches its own
list and ends anywhere in its run; only the store stays. After all of them the
record under a key is decided by the last command on the key, so a favorite keeps
the data of the day it was saved, whatever later launches fetch for its show. -/

namespace TVShows

open LiveTable TransitionRun

def StoreCommand.key : StoreCommand → Int
  | save tvShow => tvShow.storeObject.id
  | remove key => key

def StoreCommand.result : StoreCommand → Option TVShowStore
  | save tvShow => some tvShow.storeObject
  | remove _ => none

structure Session where
  tvShows : List TVShow
  events : List AppEvent

/-- Launches one after the other, each over the store that the last one left, and
the commands that their events ask of it. -/
inductive Sessions : Realm → List Session → List StoreCommand → Realm → Prop
  | nil (realm : Realm) : Sessions realm [] [] realm
  | cons {realm realm' : Realm} {app : App} {session : Session} {sessions : List Session}
      {commands : List StoreCommand} :
      Run AdmittedStep (App.launch session.tvShows realm) session.events app →
      Sessions app.realm sessions commands realm' →
      Sessions realm (session :: sessions)
        ((App.launch session.tvShows realm).commands session.events ++ commands) realm'

section Lookup
variable {realm realm' : Realm} {app app' : App}

theorem lookup_of_apply {command : StoreCommand}
    (h : realm'.records = command.apply realm.records) :
    realm'.lookup = Function.update realm.lookup command.key command.result := by
  cases command with
  | save t => exact Table.lookup_of_append h
  | remove key => exact Table.lookup_of_removeKey h

def StoreCommand.update (lookup : Int → Option TVShowStore) (command : StoreCommand) :
    Int → Option TVShowStore :=
  Function.update lookup command.key command.result

theorem lookup_of_run {events : List AppEvent} (inv : AppInvariant app)
    (h : Run AdmittedStep app events app') :
    app'.realm.lookup = (app.commands events).foldl StoreCommand.update app.realm.lookup := by
  induction h with
  | nil app => rfl
  | @cons app next app' event events hstep _ ih =>
    have hrest := ih (inv.of_change (inv.change hstep.1 hstep.2))
    have hrecords := records_of_step inv hstep
    have hhandle := hstep.2
    rw [AppStep] at hhandle
    rw [hrest, App.commands, hhandle, List.foldl_append]
    cases hcommand : app.command event with
    | none =>
      rw [hcommand] at hrecords
      rw [Table.lookup_of_values hrecords]
      rfl
    | some command =>
      rw [hcommand] at hrecords
      rw [lookup_of_apply hrecords]
      rfl

end Lookup

/-- What is left after the launches: the records are those of all commands, one
after the other; each comes from the first store or from a list that was fetched;
and the last command on a key decides its record. -/
structure StoreSurvives (realm : Realm) (sessions : List Session) (commands : List StoreCommand)
    (realm' : Realm) : Prop where
  records : realm'.records = commands.foldl StoreCommand.apply realm.records
  lastCommand : ∀ key, realm'.lookup key =
    ((commands.filter fun command => command.key = key).getLast?.map StoreCommand.result).getD
      (realm.lookup key)
  sources : ∀ record ∈ realm'.records, record ∈ realm.records ∨
    ∃ session ∈ sessions, ∃ t ∈ session.tvShows, record = t.storeObject
  shown : ∀ tvShows app, AdmittedStep (App.launch tvShows realm') .switchTab app →
    ListsRecords app (commands.foldl StoreCommand.apply realm.records)

section Sessions
variable {realm realm' : Realm} {sessions : List Session} {commands : List StoreCommand}

theorem records_of_sessions (h : Sessions realm sessions commands realm') :
    realm'.records = commands.foldl StoreCommand.apply realm.records := by
  induction h with
  | nil realm => rfl
  | cons hrun _ ih =>
    rw [ih, List.foldl_append, records_of_run (AppInvariant.launch _ _) hrun]
    rfl

theorem lookup_of_sessions (h : Sessions realm sessions commands realm') :
    realm'.lookup = commands.foldl StoreCommand.update realm.lookup := by
  induction h with
  | nil realm => rfl
  | cons hrun _ ih =>
    rw [ih, List.foldl_append, lookup_of_run (AppInvariant.launch _ _) hrun]
    rfl

theorem sources_of_sessions (h : Sessions realm sessions commands realm') :
    ∀ record ∈ realm'.records, record ∈ realm.records ∨
      ∃ session ∈ sessions, ∃ t ∈ session.tvShows, record = t.storeObject := by
  induction h with
  | nil realm => exact fun _ hmem => .inl hmem
  | cons hrun _ ih =>
    intro record hmem
    obtain hstored | ⟨session, hsession, hsource⟩ := ih record hmem
    · cases (content_of_run hrun).records record hstored with
      | inl hfirst => exact .inl hfirst
      | inr hfetched => exact .inr ⟨_, List.mem_cons_self, hfetched⟩
    · exact .inr ⟨session, List.mem_cons_of_mem _ hsession, hsource⟩

/-- Over any number of launches, fetched lists and runs, each cut off anywhere,
the favorites are what the user's commands made of them, with the data they were
saved with, and the next launch lists them in their order. -/
theorem store_survives_launches (h : Sessions realm sessions commands realm') :
    StoreSurvives realm sessions commands realm' where
  records := records_of_sessions h
  lastCommand key := by
    rw [lookup_of_sessions h]
    exact foldl_update_apply StoreCommand.key StoreCommand.result commands realm.lookup key
  sources := sources_of_sessions h
  shown tvShows app hstep := by
    rw [← records_of_sessions h]
    obtain rfl := Except.ok.inj hstep.2
    exact viewWillAppear_lists ⟨rfl, rfl⟩

theorem store_survives_launches_renamed : ∃ (realm' : Realm) (commands : List StoreCommand),
    StoreSurvives Realm.empty
      [⟨[{ TVShow.bare (some 7) with name := some "A" }], [.swipeShowsRow 0, .tapShowsAction 0]⟩,
        ⟨[{ TVShow.bare (some 7) with name := some "B" }], [.switchTab]⟩] commands realm' ∧
      realm'.records = [{ TVShow.bare (some 7) with name := some "A" }.storeObject] :=
  ⟨_, _, store_survives_launches
    (.cons (.cons ⟨⟨⟨rfl, rfl⟩, ⟨rfl, rfl⟩, Nat.one_pos⟩, rfl⟩ <|
        .single ⟨⟨⟨rfl, rfl⟩, ⟨rfl, rfl⟩, Option.some_ne_none RowAction.favorite⟩, rfl⟩) <|
      .cons (.single ⟨⟨rfl, rfl⟩, rfl⟩) <| .nil _), rfl⟩

end Sessions

end TVShows
