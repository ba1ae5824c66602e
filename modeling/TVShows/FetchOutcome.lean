import TVShows.ShowsScreen

/-! Where each outcome of a fetch leaves the Shows screen. The completion and
`update` talk through two optionals, so a failure without an error value reads
as an empty list, an error status counts only if its body does not decode, and
an error with the cancellation code is dropped whoever raised it. -/

namespace TVShows

variable {Data : Type}

def URLResponse.ErrorStatus : URLResponse → Prop
  | http statusCode => ¬ (200 ≤ statusCode ∧ statusCode < 300)
  | other => False

/-- The transfer failed: an error, no data, no response, an error status or a
body that does not decode. -/
def TransferFailed (decode : Data → Except SwiftError (List TVShow))
    (outcome : TaskOutcome Data) : Prop :=
  outcome.error ≠ none ∨ outcome.data = none ∨ outcome.response = none ∨
    (∃ response, outcome.response = some response ∧ response.ErrorStatus) ∨
    ∃ data error, outcome.data = some data ∧ decode data = .error error

/-- The screen after the callback has run, with `update` if it called the completion. -/
def ShowsScreen.afterFetch (self : ShowsScreen)
    (decode : Data → Except SwiftError (List TVShow)) (outcome : TaskOutcome Data) : ShowsScreen :=
  match fetchCompletion decode outcome with
  | some response => self.fetchEnds response
  | none => self.fetchDropped

/-- The right state for an outcome: the error state with a retry dialog for a
failed transfer, else the decoded list; the empty state exactly for an empty list. -/
structure ReachesRightState (decode : Data → Except SwiftError (List TVShow))
    (outcome : TaskOutcome Data) (before after : ShowsScreen) : Prop where
  delivered : ∃ response, fetchCompletion decode outcome = some response
  failed : TransferFailed decode outcome →
    (∃ error, after.screenState = .error error) ∧ after.currentTVShows = [] ∧
      ∃ message, after.alerts = before.alerts ++ [.retry message]
  populated : ¬ TransferFailed decode outcome → ∀ data tvShows, outcome.data = some data →
    decode data = .ok tvShows → tvShows ≠ [] →
    after.screenState = .populated tvShows ∧ after.currentTVShows = tvShows
  emptied : ¬ TransferFailed decode outcome → ∀ data, outcome.data = some data →
    decode data = .ok [] → after.screenState = .empty ∧ after.currentTVShows = []
  empty : after.screenState = .empty →
    ¬ TransferFailed decode outcome ∧ ∃ data, outcome.data = some data ∧ decode data = .ok []

/-- What the callback classifies rightly: an error without the cancellation
code, or a body and a response that is in order or whose body does not decode. -/
def ClassifiedOutcome (decode : Data → Except SwiftError (List TVShow))
    (outcome : TaskOutcome Data) : Prop :=
  match outcome.error with
  | some error => error.code ≠ NSURLErrorCancelled
  | none => ∃ data response, outcome.data = some data ∧ outcome.response = some response ∧
      (¬ response.ErrorStatus ∨ ∃ error, decode data = .error error)

theorem fetchEnds_error (screen : ShowsScreen) (error : SwiftError) :
    (screen.fetchEnds (fireErrorCompletion (some error))).screenState = .error error ∧
      (screen.fetchEnds (fireErrorCompletion (some error))).currentTVShows = [] ∧
      ∃ message, (screen.fetchEnds (fireErrorCompletion (some error))).alerts =
        screen.alerts ++ [.retry message] :=
  ⟨rfl, rfl, ShowsScreen.errorMessage error, rfl⟩

theorem fetchEnds_list (screen : ShowsScreen) (tvShows : List TVShow) :
    (screen.fetchEnds ⟨some tvShows, none⟩).screenState =
        (if tvShows = [] then .empty else .populated tvShows) ∧
      (screen.fetchEnds ⟨some tvShows, none⟩).currentTVShows = tvShows := by
  cases tvShows with
  | nil => exact ⟨rfl, rfl⟩
  | cons t ts => exact ⟨rfl, rfl⟩

theorem reachesRightState_of_error {decode : Data → Except SwiftError (List TVShow)}
    {outcome : TaskOutcome Data} (error : SwiftError) (screen : ShowsScreen)
    (hfail : TransferFailed decode outcome)
    (h : fetchCompletion decode outcome = some (fireErrorCompletion (some error))) :
    ReachesRightState decode outcome screen (screen.afterFetch decode outcome) := by
  have hscreen : screen.afterFetch decode outcome =
      screen.fetchEnds (fireErrorCompletion (some error)) := by
    simp only [ShowsScreen.afterFetch, h]
  have hend := fetchEnds_error screen error
  rw [hscreen]
  refine ⟨⟨_, h⟩, fun _ => ⟨⟨error, hend.1⟩, hend.2⟩, fun hok => absurd hfail hok,
    fun hok => absurd hfail hok, fun hempty => ?_⟩
  rw [hend.1] at hempty
  cases hempty

theorem reachesRightState_of_classified {decode : Data → Except SwiftError (List TVShow)}
    {outcome : TaskOutcome Data} (screen : ShowsScreen) (h : ClassifiedOutcome decode outcome) :
    ReachesRightState decode outcome screen (screen.afterFetch decode outcome) := by
  unfold ClassifiedOutcome at h
  cases herror : outcome.error with
  | some error =>
    simp only [herror] at h
    exact reachesRightState_of_error error screen (.inl (by simp [herror]))
      (by simp [fetchCompletion, herror, h])
  | none =>
    simp only [herror] at h
    obtain ⟨data, response, hdata, hresponse, hbody⟩ := h
    cases hdecode : decode data with
    | error error =>
      have hfail : TransferFailed decode outcome :=
        .inr (.inr (.inr (.inr ⟨data, error, hdata, hdecode⟩)))
      exact reachesRightState_of_error error screen hfail
        (by simp [fetchCompletion, herror, hdata, hresponse, hdecode])
    | ok tvShows =>
      have hstatus : ¬ response.ErrorStatus := by simpa [hdecode] using hbody
      have hok : ¬ TransferFailed decode outcome := by
        simp [TransferFailed, herror, hdata, hresponse, hdecode, hstatus]
      have hcompletion : fetchCompletion decode outcome = some ⟨some tvShows, none⟩ := by
        simp [fetchCompletion, herror, hdata, hresponse, hdecode]
      have hscreen : screen.afterFetch decode outcome = screen.fetchEnds ⟨some tvShows, none⟩ := by
        simp only [ShowsScreen.afterFetch, hcompletion]
      have hend := fetchEnds_list screen tvShows
      rw [hscreen]
      refine ⟨⟨_, hcompletion⟩, fun hfail => absurd hfail hok, ?_, ?_,
        fun hempty => ⟨hok, data, hdata, ?_⟩⟩
      · intro _ data' tvShows' hdata' hdecode' hne
        have hdatas : data' = data := Option.some.inj (hdata'.symm.trans hdata)
        rw [hdatas, hdecode] at hdecode'
        have hshows : tvShows = tvShows' := Except.ok.inj hdecode'
        rw [← hshows] at hne ⊢
        exact ⟨hend.1.trans (if_neg hne), hend.2⟩
      · intro _ data' hdata' hnone
        have hdatas : data' = data := Option.some.inj (hdata'.symm.trans hdata)
        rw [hdatas, hdecode] at hnone
        have hnil : tvShows = [] := Except.ok.inj hnone
        exact ⟨hend.1.trans (if_pos hnil), hend.2.trans hnil⟩
      · have hnil : tvShows = [] := by
          by_contra hne
          rw [hend.1, if_neg hne] at hempty
          cases hempty
        rw [hdecode, hnil]

theorem classified_of_reachesRightState {decode : Data → Except SwiftError (List TVShow)}
    {outcome : TaskOutcome Data} {screen : ShowsScreen}
    (h : ReachesRightState decode outcome screen (screen.afterFetch decode outcome)) :
    ClassifiedOutcome decode outcome := by
  unfold ClassifiedOutcome
  cases herror : outcome.error with
  | some error =>
    intro hcode
    have hdrop := (fetchCompletion_eq_none_iff decode outcome).mpr ⟨error, herror, hcode⟩
    obtain ⟨response, hdelivered⟩ := h.delivered
    rw [hdrop] at hdelivered
    cases hdelivered
  | none =>
    cases hdata : outcome.data with
    | none =>
      have hstate : (screen.afterFetch decode outcome).screenState = .empty := by
        simp [ShowsScreen.afterFetch, fetchCompletion, herror, hdata]
        rfl
      exact absurd (.inr (.inl hdata)) (h.empty hstate).1
    | some data =>
      cases hresponse : outcome.response with
      | none =>
        have hstate : (screen.afterFetch decode outcome).screenState = .empty := by
          simp [ShowsScreen.afterFetch, fetchCompletion, herror, hdata, hresponse]
          rfl
        exact absurd (.inr (.inr (.inl hresponse))) (h.empty hstate).1
      | some response =>
        refine ⟨data, response, rfl, rfl, ?_⟩
        by_contra hnot
        obtain ⟨hstatus, hdecoded⟩ := not_or.mp hnot
        have hfail : TransferFailed decode outcome :=
          .inr (.inr (.inr (.inl ⟨response, hresponse, not_not.mp hstatus⟩)))
        cases hdecode : decode data with
        | error error => exact hdecoded ⟨error, hdecode⟩
        | ok tvShows =>
          have hscreen : screen.afterFetch decode outcome =
              screen.fetchEnds ⟨some tvShows, none⟩ := by
            simp [ShowsScreen.afterFetch, fetchCompletion, herror, hdata, hresponse, hdecode]
          obtain ⟨⟨error, hstate⟩, -⟩ := h.failed hfail
          rw [hscreen, (fetchEnds_list screen tvShows).1] at hstate
          split_ifs at hstate

theorem fetch_reaches_right_state_iff (decode : Data → Except SwiftError (List TVShow))
    (outcome : TaskOutcome Data) (screen : ShowsScreen) :
    ReachesRightState decode outcome screen (screen.afterFetch decode outcome) ↔
      ClassifiedOutcome decode outcome :=
  ⟨classified_of_reachesRightState, reachesRightState_of_classified screen⟩

/-- An error page whose body decodes, a response without a body, and an error of
another domain whose code is that of a cancellation. -/
theorem failed_fetch_not_reported :
    ¬ @ReachesRightState (List TVShow) .ok ⟨some [.bare (some 1)], some (.http 500), none⟩
        .initial (ShowsScreen.initial.afterFetch .ok
          ⟨some [.bare (some 1)], some (.http 500), none⟩) ∧
      ¬ @ReachesRightState (List TVShow) .ok ⟨none, some (.http 200), none⟩
        .initial (ShowsScreen.initial.afterFetch .ok ⟨none, some (.http 200), none⟩) ∧
      ¬ @ReachesRightState (List TVShow) .ok
        ⟨none, none, some (.nsError "kCFErrorDomainCFNetwork" (-999))⟩
        .initial (ShowsScreen.initial.afterFetch .ok
          ⟨none, none, some (.nsError "kCFErrorDomainCFNetwork" (-999))⟩) := by
  refine ⟨fun h => ?_, fun h => ?_, fun h => ?_⟩
  · obtain ⟨data, response, -, hresponse, hbody⟩ := classified_of_reachesRightState h
    obtain rfl := Option.some.inj hresponse
    simp [URLResponse.ErrorStatus] at hbody
  · obtain ⟨data, -, hdata, -⟩ := classified_of_reachesRightState h
    cases hdata
  · exact classified_of_reachesRightState h rfl

end TVShows
