import TVShows.PosterDelivery

/-! The poster of a reused cell. A load is followed by the poster of its own show
only, up to the next one, when the earlier loads left nothing for the cell that
the load does not reach and the thumbnail is not left with an earlier poster. -/

namespace TVShows

open TransitionRun

variable {URL Data UIImage : Type}

def PosterEvent.latest (parse : String → Option URL) (cell : Nat) (last : Option URL) :
    PosterEvent Data → Option URL
  | .load i content => if i = cell then content.requested parse else last
  | _ => last

def lastRequested (parse : String → Option URL) (cell : Nat) (last : Option URL)
    (events : List (PosterEvent Data)) : Option URL :=
  events.foldl (PosterEvent.latest parse cell) last

namespace PosterLoader

/-- Nothing that was queued or started for the cell is left to run. -/
def Settled (s : PosterLoader URL Data UIImage) (cell : Nat) : Prop :=
  ∀ block ∈ s.outstanding, block.view ≠ .cell cell

/-- The thumbnail keeps no poster but that of the new load; `load(tvShowStore:)`
blanks it, `load(tvShow:)` does not. -/
def KeepsNoOther (parse : String → Option URL) (s : PosterLoader URL Data UIImage) (cell : Nat) :
    CellContent → Prop
  | .tvShow t => ∀ url image, s.views.shown (.cell cell) = .poster url image →
      (CellContent.tvShow t).requested parse = some url
  | .tvShowStore _ => True

def SureToReplace (parse : String → Option URL) (decode : Data → Option UIImage)
    (s : PosterLoader URL Data UIImage) (cell : Nat) (content : CellContent) : Prop :=
  ∃ url, content.requested parse = some url ∧
    ((s.cachedImage decode url).isSome ∨ ∃ image, ⟨.cell cell, url, image⟩ ∈ s.mainQueue)

def OwnLoad (parse : String → Option URL) (decode : Data → Option UIImage)
    (s : PosterLoader URL Data UIImage) (cell : Nat) (content : CellContent) : Prop :=
  s.CleanLoad parse cell content ∧
    (s.KeepsNoOther parse cell content ∨ s.SureToReplace parse decode cell content)

end PosterLoader

def OwnLoads (parse : String → Option URL) (decode : Data → Option UIImage)
    (s : PosterLoader URL Data UIImage) : PosterEvent Data → Prop
  | .load cell content => s.OwnLoad parse decode cell content
  | .loadImage (.cell _) _ => False
  | _ => True

/-- A download of the block, with a number from `first` on, ended without a poster. -/
def FailedSince (decode : Data → Option UIImage) (first : Nat) (events : List (PosterEvent Data))
    (s : PosterLoader URL Data UIImage) (block : LoadBlock URL) : Prop :=
  ∃ i outcome download, first ≤ i ∧ .downloadCompletes i outcome ∈ events ∧
    acceptedPoster decode outcome = none ∧ s.downloads[i]? = some download ∧
      download.block = block

section OwnPoster
variable [DecidableEq URL]

/-- After a load that left the state, up to the next load of the cell: no other
poster than the requested one is assigned; once all work for the cell has run,
it shows no other poster; and it shows the requested one then, if the row stayed
and no download of it, started since the load, ended without it. -/
structure OwnPosterOnly (parse : String → Option URL) (decode : Data → Option UIImage)
    (cell : Nat) (requested : Option URL) (s : PosterLoader URL Data UIImage) : Prop where
  assigned : ∀ events s' block rest, Run (StepUntilLoad parse decode cell) s events s' →
    s'.mainQueue = block :: rest → block.view = .cell cell → requested = some block.url
  shown : ∀ events s' url image, Run (StepUntilLoad parse decode cell) s events s' →
    s'.Settled cell → s'.views.shown (.cell cell) = .poster url image → requested = some url
  delivered : ∀ events s' url, Run (StepOnRow parse decode cell) s events s' →
    s'.Settled cell → requested = some url →
      (∃ image, s'.views.shown (.cell cell) = .poster url image) ∨
        FailedSince decode s.downloads.length events s' ⟨.cell cell, url⟩

def NeverOtherPoster (parse : String → Option URL) (decode : Data → Option UIImage) (cell : Nat)
    (requested : Option URL) (s : PosterLoader URL Data UIImage) : Prop :=
  ∀ events s' url image, Run (StepUntilLoad parse decode cell) s events s' →
    s'.views.shown (.cell cell) = .poster url image → requested = some url

end OwnPoster

section Settled
variable {s : PosterLoader URL Data UIImage} {cell : Nat}

theorem settled_of_none (h : s.outstanding = 0) : s.Settled cell := by
  intro block hmem
  rw [h] at hmem
  exact absurd hmem (Multiset.notMem_zero block)

theorem settled_loadBlocks (h : s.Settled cell) {url : URL} : ⟨.cell cell, url⟩ ∉ s.loadBlocks := by
  intro hmem
  refine h ⟨.cell cell, url⟩ ?_ rfl
  simp only [PosterLoader.outstanding, Multiset.mem_add, Multiset.mem_coe]
  exact .inl (.inl hmem)

theorem settled_downloads (h : s.Settled cell) {i : Nat} {url : URL} {download : Download URL}
    (hi : s.downloads[i]? = some download) : download.unfinished ≠ some ⟨.cell cell, url⟩ := by
  intro hunfinished
  refine h ⟨.cell cell, url⟩ ?_ rfl
  simp only [PosterLoader.outstanding, Multiset.mem_add, Multiset.mem_coe]
  exact .inl (.inr (List.mem_filterMap.mpr ⟨download, List.mem_of_getElem? hi, hunfinished⟩))

theorem settled_mainQueue (h : s.Settled cell) {url : URL} {image : UIImage} :
    ⟨.cell cell, url, image⟩ ∉ s.mainQueue :=
  fun hmem => h _ (mem_outstanding_of_mainQueue hmem) rfl

theorem settled_sureToCome {decode : Data → Option UIImage} {url : URL} (h : s.Settled cell) :
    ¬ SureToCome decode cell url s := by
  rintro (⟨hblock, -⟩ | ⟨image, hqueued⟩)
  · exact settled_loadBlocks h hblock
  · exact settled_mainQueue h hqueued

end Settled

section Loads
variable {parse : String → Option URL} {decode : Data → Option UIImage}
  {s : PosterLoader URL Data UIImage} {cell : Nat} {url : URL}

def ShowsOwn (decode : Data → Option UIImage) (cell : Nat) (requested : Option URL)
    (s : PosterLoader URL Data UIImage) : Prop :=
  (∀ url, s.Pending (.cell cell) url → requested = some url) ∧
    ((∀ url image, s.views.shown (.cell cell) = .poster url image → requested = some url) ∨
      ∃ url, requested = some url ∧ SureToCome decode cell url s)

theorem pending_of_front {block : Assignment URL UIImage} {rest : List (Assignment URL UIImage)}
    (hqueue : s.mainQueue = block :: rest) (hview : block.view = .cell cell) :
    s.Pending (.cell cell) block.url := by
  refine .inr (.inr ⟨block.image, ?_⟩)
  rw [hqueue, ← hview]
  exact List.mem_cons_self

theorem pendingOwn_load {content : CellContent} (hclean : s.CleanLoad parse cell content)
    (hpending : (s.load parse cell content).Pending (.cell cell) url) :
    content.requested parse = some url := by
  cases (pending_load content).mp hpending with
  | inl hown => exact hown
  | inr hleft => exact hclean url hleft

theorem shownOwn_load {content : CellContent} (hkeeps : s.KeepsNoOther parse cell content)
    {image : UIImage}
    (hshown : (s.load parse cell content).views.shown (.cell cell) = .poster url image) :
    content.requested parse = some url := by
  cases content with
  | tvShow t =>
    rw [PosterLoader.load, loadTVShow_shown] at hshown
    exact hkeeps url image hshown
  | tvShowStore record =>
    rw [PosterLoader.load, loadTVShowStore_shown] at hshown
    cases hshown

theorem load_mainQueue (parse : String → Option URL) (s : PosterLoader URL Data UIImage)
    (cell : Nat) (content : CellContent) :
    (s.load parse cell content).mainQueue = s.mainQueue := by
  obtain ⟨views, -, hload⟩ := PosterLoader.load_eq parse s cell content
  rw [hload]
  exact PosterLoader.cancelTask_mainQueue s cell

theorem load_cachedImage (parse : String → Option URL) (s : PosterLoader URL Data UIImage)
    (cell : Nat) (content : CellContent) (url : URL) :
    (s.load parse cell content).cachedImage decode url = s.cachedImage decode url := by
  obtain ⟨views, -, hload⟩ := PosterLoader.load_eq parse s cell content
  rw [hload]
  simp only [PosterLoader.cachedImage, PosterLoader.cancelTask_cache]

theorem ownBlock_load {content : CellContent} (hrequested : content.requested parse = some url) :
    ⟨.cell cell, url⟩ ∈ (s.load parse cell content).loadBlocks := by
  rw [PosterLoader.load_loadBlocks, hrequested]
  exact List.mem_append_right _ List.mem_cons_self

theorem ownLoad_of_settled {content : CellContent} (hsettled : s.Settled cell)
    (hblank : ∀ url image, s.views.shown (.cell cell) ≠ .poster url image) :
    s.OwnLoad parse decode cell content := by
  refine ⟨fun url hpending => ?_, .inl ?_⟩
  · obtain hblock | ⟨i, hi, -⟩ | ⟨image, hqueued⟩ := hpending
    · exact absurd hblock (settled_loadBlocks hsettled)
    · exact absurd rfl (settled_downloads hsettled hi)
    · exact absurd hqueued (settled_mainQueue hsettled)
  · cases content with
    | tvShow t => exact fun url image hshown => absurd hshown (hblank url image)
    | tvShowStore record => trivial

theorem showsOwn_settled {requested : Option URL} (hs : ShowsOwn decode cell requested s)
    (hsettled : s.Settled cell) {image : UIImage}
    (hshown : s.views.shown (.cell cell) = .poster url image) : requested = some url := by
  obtain hown | ⟨url', -, hcoming⟩ := hs.2
  · exact hown url image hshown
  · exact absurd hcoming (settled_sureToCome hsettled)

theorem showsOwn_load {content : CellContent} (h : s.OwnLoad parse decode cell content) :
    ShowsOwn decode cell (content.requested parse) (s.load parse cell content) := by
  obtain ⟨hclean, hthumbnail⟩ := h
  refine ⟨fun url hpending => pendingOwn_load hclean hpending, ?_⟩
  obtain hkeeps | ⟨url, hrequested, hcached | hqueued⟩ := hthumbnail
  · exact .inl fun url image hshown => shownOwn_load hkeeps hshown
  · rw [← load_cachedImage parse s cell content] at hcached
    exact .inr ⟨url, hrequested, .inl ⟨ownBlock_load hrequested, hcached⟩⟩
  · rw [← load_mainQueue parse s cell content] at hqueued
    exact .inr ⟨url, hrequested, .inr hqueued⟩

end Loads

section Steps
variable [DecidableEq URL] {parse : String → Option URL} {decode : Data → Option UIImage}
  {s s' : PosterLoader URL Data UIImage} {event : PosterEvent Data} {cell : Nat} {url : URL}

theorem showsOwn_step {requested : Option URL} (hs : ShowsOwn decode cell requested s)
    (h : StepUntilLoad parse decode cell s event s') : ShowsOwn decode cell requested s' := by
  refine ⟨fun url hpending => hs.1 url (pending_step h.2 h.1 hpending), ?_⟩
  obtain hown | ⟨url, hrequested, hcoming⟩ := hs.2
  · refine .inl fun url image hshown => ?_
    cases h.2.shown hshown with
    | inl hearlier => exact hown url image hearlier
    | inr hqueued => exact hs.1 url (.inr (.inr ⟨image, hqueued⟩))
  · cases sureToCome_step h.2 hcoming with
    | inl hstill => exact .inr ⟨url, hrequested, hstill⟩
    | inr hreplaced =>
      obtain ⟨image, hposter⟩ := hreplaced
      refine .inl fun url' image' hshown => ?_
      obtain ⟨rfl, -⟩ := Thumbnail.poster.inj (hposter.symm.trans hshown)
      exact hrequested

theorem showsOwn_ownLoads {last : Option URL} (hs : ShowsOwn decode cell last s)
    (h : guarded (OwnLoads parse decode) (PosterStep parse decode) s event s') :
    ShowsOwn decode cell (event.latest parse cell last) s' := by
  by_cases hloads : event.Loads cell
  · cases event with
    | load i content =>
      obtain rfl : i = cell := hloads
      obtain rfl := Option.some.inj h.2
      rw [PosterEvent.latest, if_pos rfl]
      exact showsOwn_load h.1
    | loadImage view string =>
      cases view with
      | cell i => exact h.1.elim
      | imageView i => exact hloads.elim
    | _ => exact hloads.elim
  · have hlast : event.latest parse cell last = last := by
      cases event with
      | load i content => exact if_neg hloads
      | _ => rfl
    rw [hlast]
    exact showsOwn_step hs ⟨hloads, h.2⟩

theorem showsOwn_run {events : List (PosterEvent Data)} {last : Option URL}
    (h : Run (guarded (OwnLoads parse decode) (PosterStep parse decode)) s events s')
    (hs : ShowsOwn decode cell last s) :
    ShowsOwn decode cell (lastRequested parse cell last events) s' := by
  induction h generalizing last with
  | nil s => exact hs
  | cons hstep _ ih => exact ih (showsOwn_ownLoads hs hstep)

end Steps

section Delivery
variable [DecidableEq URL] {parse : String → Option URL} {decode : Data → Option UIImage}
  {s s' : PosterLoader URL Data UIImage} {event : PosterEvent Data} {cell : Nat} {url : URL}
  {first : Nat} {events : List (PosterEvent Data)}

inductive LoadIsAt (decode : Data → Option UIImage) (cell : Nat) (url : URL) (first : Nat)
    (events : List (PosterEvent Data)) (s : PosterLoader URL Data UIImage) : Prop
  | block : ⟨.cell cell, url⟩ ∈ s.loadBlocks → LoadIsAt decode cell url first events s
  | download (i : Nat) (download : Download URL) : first ≤ i →
      s.downloads[i]? = some download → download.unfinished = some ⟨.cell cell, url⟩ →
        LoadIsAt decode cell url first events s
  | assignment (image : UIImage) : ⟨.cell cell, url, image⟩ ∈ s.mainQueue →
      LoadIsAt decode cell url first events s
  | shown (image : UIImage) : s.views.shown (.cell cell) = .poster url image →
      LoadIsAt decode cell url first events s
  | failed : FailedSince decode first events s ⟨.cell cell, url⟩ →
      LoadIsAt decode cell url first events s

theorem FailedSince.snoc {block : LoadBlock URL} (h : FailedSince decode first events s block)
    (hstep : PosterStep parse decode s event s') :
    FailedSince decode first (events ++ [event]) s' block := by
  obtain ⟨i, outcome, download, hfirst, hmem, hrejected, hi, hblock⟩ := h
  obtain ⟨state, hnext⟩ := hstep.download hi
  exact ⟨i, outcome, _, hfirst, List.mem_append_left _ hmem, hrejected, hnext, hblock⟩

theorem loadIsAt_step (hfirst : first ≤ s.downloads.length)
    (hown : ∀ url', s.Pending (.cell cell) url' → url' = url)
    (hs : LoadIsAt decode cell url first events s) (h : StepOnRow parse decode cell s event s') :
    LoadIsAt decode cell url first (events ++ [event]) s' := by
  cases hs with
  | block hblock =>
    obtain hwaiting | ⟨image, hassigning⟩ | ⟨-, hstarted⟩ := h.2.waitingBlock hblock
    · exact .block hwaiting
    · exact .assignment image hassigning
    · refine .download s.downloads.length ⟨.cell cell, url, .running⟩ hfirst ?_ rfl
      simp [hstarted]
  | download i download hi hdownload hunfinished =>
    obtain ⟨next, hnext, hstill⟩ | ⟨image, hassigning⟩ | ⟨outcome, rfl, hrejected⟩ :=
      h.2.unfinishedDownload hdownload hunfinished
    · exact .download i next hi hnext hstill
    · exact .assignment image hassigning
    · obtain ⟨state, hended⟩ := h.2.download hdownload
      have hblock : download.block = ⟨.cell cell, url⟩ := by
        unfold Download.unfinished at hunfinished
        split at hunfinished
        · cases hunfinished
        · exact Option.some.inj hunfinished
      exact .failed ⟨i, outcome, _, hi, List.mem_append_right _ List.mem_cons_self, hrejected,
        hended, hblock⟩
  | assignment image hqueued =>
    cases h.2.waitingAssignment hqueued with
    | inl hwaiting => exact .assignment image hwaiting
    | inr hshown => exact .shown image hshown
  | shown image hshown =>
    obtain hsame | ⟨block, rest, hqueue, hview, hposter⟩ := shown_on_row h.1.1 h.1.2 h.2
    · exact .shown image (hsame.trans hshown)
    · have hurl : block.url = url := hown _ (pending_of_front hqueue hview)
      exact .shown block.image (hurl ▸ hposter)
  | failed hfailed => exact .failed (hfailed.snoc h.2)

theorem downloads_length_le (h : PosterStep parse decode s event s') :
    s.downloads.length ≤ s'.downloads.length := by
  by_contra hshrunk
  obtain ⟨download, hi⟩ : ∃ download, s.downloads[s'.downloads.length]? = some download :=
    ⟨_, List.getElem?_eq_getElem (Nat.lt_of_not_le hshrunk)⟩
  obtain ⟨state, hnext⟩ := h.download hi
  exact absurd (List.getElem?_eq_some_iff.mp hnext).1 (Nat.lt_irrefl _)

theorem loadIsAt_run (hown : ∀ url', s.Pending (.cell cell) url' → url' = url)
    (hblock : ⟨.cell cell, url⟩ ∈ s.loadBlocks)
    (h : Run (StepOnRow parse decode cell) s events s') :
    LoadIsAt decode cell url s.downloads.length events s' := by
  refine (h.recorded (P := fun events u => s.downloads.length ≤ u.downloads.length ∧
    (∀ url', u.Pending (.cell cell) url' → url' = url) ∧
      LoadIsAt decode cell url s.downloads.length events u)
    ⟨Nat.le_refl _, hown, .block hblock⟩ ?_).2.2
  rintro ds u event v - ⟨hlength, hpending, hplace⟩ hstep
  refine ⟨hlength.trans (downloads_length_le hstep.2), fun url' hleft => ?_,
    loadIsAt_step hlength hpending hplace hstep⟩
  exact hpending url' (pending_step hstep.2 hstep.1.1 hleft)

omit [DecidableEq URL] in
theorem delivered_of_settled (h : LoadIsAt decode cell url first events s)
    (hsettled : s.Settled cell) : (∃ image, s.views.shown (.cell cell) = .poster url image) ∨
      FailedSince decode first events s ⟨.cell cell, url⟩ := by
  cases h with
  | block hblock => exact absurd hblock (settled_loadBlocks hsettled)
  | download i download hi hdownload hunfinished =>
    exact absurd hunfinished (settled_downloads hsettled hdownload)
  | assignment image hqueued => exact absurd hqueued (settled_mainQueue hsettled)
  | shown image hshown => exact .inl ⟨image, hshown⟩
  | failed hfailed => exact .inr hfailed

end Delivery

section Conditions
variable [DecidableEq URL] {parse : String → Option URL} {decode : Data → Option UIImage}
  {s s' : PosterLoader URL Data UIImage} {event : PosterEvent Data} {cell : Nat} {url : URL}

def ReachesFront (parse : String → Option URL) (decode : Data → Option UIImage) (cell : Nat)
    (url : URL) (s : PosterLoader URL Data UIImage) : Prop :=
  ∃ events s' image rest, Run (StepUntilLoad parse decode cell) s events s' ∧
    s'.mainQueue = ⟨.cell cell, url, image⟩ :: rest

theorem ReachesFront.of_step (hstep : PosterStep parse decode s event s')
    (hloads : ¬ event.Loads cell) (h : ReachesFront parse decode cell url s') :
    ReachesFront parse decode cell url s := by
  obtain ⟨events, t, image, rest, hrun, hfront⟩ := h
  exact ⟨event :: events, t, image, rest, .cons ⟨hloads, hstep⟩ hrun, hfront⟩

theorem queued_reaches_front (parse : String → Option URL) (decode : Data → Option UIImage)
    {image : UIImage} (h : ⟨.cell cell, url, image⟩ ∈ s.mainQueue) :
    ReachesFront parse decode cell url s := by
  obtain ⟨blocks, rest, hqueue⟩ := List.append_of_mem h
  obtain ⟨s', hrun, hfront⟩ := run_mainQueue parse decode blocks hqueue
  refine ⟨_, s', image, rest, hrun.guarded_of_forall fun event hevent _ => ?_, hfront⟩
  rw [List.eq_of_mem_replicate hevent]
  exact fun hloads => hloads

theorem running_reaches_front (parse : String → Option URL)
    (hdecode : ∃ data image, decode data = some image)
    (h : ⟨.cell cell, url, .running⟩ ∈ s.downloads) : ReachesFront parse decode cell url s := by
  obtain ⟨i, hi⟩ := List.mem_iff_getElem?.mp h
  obtain ⟨data, image, hdata⟩ := hdecode
  have haccepted : acceptedPoster decode ⟨some data, some (.http 200), none⟩ =
      some (⟨.http 200, data⟩, image) := acceptedPoster_eq_some_iff.mpr
    ⟨rfl, rfl, ⟨200, rfl, by decide⟩, hdata⟩
  obtain ⟨t, hstep, -, hmem⟩ := download_accepted parse hi rfl haccepted
  exact .of_step hstep (fun hloads => hloads) (queued_reaches_front parse decode hmem)

theorem pending_reaches_front (parse : String → Option URL)
    (hdecode : ∃ data image, decode data = some image) (h : s.Pending (.cell cell) url) :
    ReachesFront parse decode cell url s := by
  obtain hblock | hdownload | ⟨image, hmem⟩ := h
  · obtain ⟨i, hi⟩ := List.mem_iff_getElem?.mp hblock
    cases hcached : s.cachedImage decode url with
    | some image =>
      obtain ⟨t, hstep, -, hmem⟩ := lookup_hit parse hi hcached
      exact .of_step hstep (fun hloads => hloads) (queued_reaches_front parse decode hmem)
    | none =>
      obtain ⟨t, hstep, hdownloads⟩ := lookup_miss parse hi hcached
      have hrunning : ⟨.cell cell, url, .running⟩ ∈ t.downloads := by simp [hdownloads]
      exact .of_step hstep (fun hloads => hloads) (running_reaches_front parse hdecode hrunning)
  · exact running_reaches_front parse hdecode hdownload
  · exact queued_reaches_front parse decode hmem

theorem cleanLoad_of_assigned (hdecode : ∃ data image, decode data = some image)
    {content : CellContent}
    (h : ∀ events s' block rest,
      Run (StepUntilLoad parse decode cell) (s.load parse cell content) events s' →
      s'.mainQueue = block :: rest → block.view = .cell cell →
        content.requested parse = some block.url) : s.CleanLoad parse cell content := by
  intro url hpending
  obtain ⟨events, s', image, rest, hrun, hqueue⟩ :=
    pending_reaches_front parse hdecode ((pending_load content).mpr (.inr hpending))
  exact h events s' _ rest hrun hqueue rfl

structure KeepsOffline (decode : Data → Option UIImage) (cell : Nat)
    (thumbnail : Thumbnail URL UIImage) (s : PosterLoader URL Data UIImage) : Prop where
  shown : s.views.shown (.cell cell) = thumbnail
  noAssignment : ∀ block ∈ s.mainQueue, block.view ≠ .cell cell
  noHit : ∀ block ∈ s.loadBlocks, block.view = .cell cell → s.cachedImage decode block.url = none

theorem keepsOffline_step {thumbnail : Thumbnail URL UIImage}
    (hs : KeepsOffline decode cell thumbnail s) (h : OfflineStep parse decode s event s') :
    KeepsOffline decode cell thumbnail s' := by
  obtain ⟨hoffline, hinternal, hstep⟩ := h
  cases hstep.change with
  | prepared i => cases hinternal
  | loaded i content views hviews => cases hinternal
  | queued view string => cases hinternal
  | hit i view u image hblock hcached =>
    refine ⟨hs.shown, fun block hmem => ?_,
      fun block hmem => hs.noHit block (List.mem_of_mem_eraseIdx hmem)⟩
    cases List.mem_append.mp hmem with
    | inl hold => exact hs.noAssignment block hold
    | inr hnew =>
      obtain rfl := List.mem_singleton.mp hnew
      intro hview
      have hnone := hs.noHit _ (List.mem_of_getElem? hblock) hview
      rw [hcached] at hnone
      cases hnone
  | missed i view u views hblock hcached hviews =>
    exact ⟨(hviews _).trans hs.shown, hs.noAssignment,
      fun block hmem => hs.noHit block (List.mem_of_mem_eraseIdx hmem)⟩
  | stored i outcome view u entry image hdownload haccepted =>
    rw [hoffline i outcome rfl] at haccepted
    cases haccepted
  | rejected i outcome download hdownload haccepted =>
    exact ⟨hs.shown, hs.noAssignment, hs.noHit⟩
  | assigned block rest hqueue =>
    have hother : PosterView.cell cell ≠ block.view := by
      refine (hs.noAssignment block ?_).symm
      rw [hqueue]
      exact List.mem_cons_self
    refine ⟨(PosterViews.shown_setShown_of_ne _ _ hother).trans hs.shown, fun other hmem => ?_,
      hs.noHit⟩
    refine hs.noAssignment other ?_
    rw [hqueue]
    exact List.mem_cons_of_mem _ hmem

omit [DecidableEq URL] in
theorem keepsOffline_load {content : CellContent} (hclean : s.CleanLoad parse cell content)
    (hreplace : ¬ s.SureToReplace parse decode cell content) :
    KeepsOffline decode cell ((s.load parse cell content).views.shown (.cell cell))
      (s.load parse cell content) where
  shown := rfl
  noAssignment block hmem hview := by
    rw [load_mainQueue] at hmem
    obtain ⟨view, u, image⟩ := block
    obtain rfl : view = .cell cell := hview
    exact hreplace ⟨u, hclean u (.inr (.inr ⟨image, hmem⟩)), .inr ⟨image, hmem⟩⟩
  noHit block hmem hview := by
    obtain ⟨view, u⟩ := block
    obtain rfl : view = .cell cell := hview
    have hrequested := pendingOwn_load hclean (.inl hmem)
    rw [load_cachedImage]
    cases hcached : s.cachedImage decode u with
    | none => rfl
    | some image => exact absurd ⟨u, hrequested, .inl (by simp [hcached])⟩ hreplace

omit [DecidableEq URL] in
theorem not_loads_of_internal (h : event.internal = true) : ¬ event.Loads cell := by
  cases event with
  | loadBlockRuns i => exact fun hloads => hloads
  | downloadCompletes i outcome => exact fun hloads => hloads
  | mainBlockRuns => exact fun hloads => hloads
  | _ => cases h

theorem keepsNoOther_of_shown {content : CellContent} (hclean : s.CleanLoad parse cell content)
    (hreplace : ¬ s.SureToReplace parse decode cell content)
    (h : ∀ events s' url image,
      Run (StepUntilLoad parse decode cell) (s.load parse cell content) events s' →
      s'.Settled cell → s'.views.shown (.cell cell) = .poster url image →
        content.requested parse = some url) : s.KeepsNoOther parse cell content := by
  cases content with
  | tvShowStore record => trivial
  | tvShow t =>
    intro url image hshown
    obtain ⟨events, s', hrun, hnone⟩ :=
      exists_offline_run parse decode (s.load parse cell (.tvShow t))
    have hlast := hrun.preserves (fun _ _ _ hs hstep => keepsOffline_step hs hstep)
      (keepsOffline_load hclean hreplace)
    have hkept : s'.views.shown (.cell cell) = .poster url image := by
      rw [hlast.shown, PosterLoader.load, loadTVShow_shown, hshown]
    refine h events s' url image ?_ (settled_of_none hnone) hkept
    have hinternal := hrun.of_guarded.forall_of_guarded
    refine hrun.of_guarded.of_guarded.guarded_of_forall fun event hevent _ => ?_
    exact not_loads_of_internal (hinternal event hevent)

theorem ownPosterOnly_load_iff (hdecode : ∃ data image, decode data = some image)
    (content : CellContent) :
    OwnPosterOnly parse decode cell (content.requested parse) (s.load parse cell content) ↔
      s.OwnLoad parse decode cell content := by
  constructor
  · intro h
    have hclean := cleanLoad_of_assigned hdecode h.assigned
    refine ⟨hclean, ?_⟩
    by_cases hreplace : s.SureToReplace parse decode cell content
    · exact .inr hreplace
    · exact .inl (keepsNoOther_of_shown hclean hreplace h.shown)
  · intro h
    have hown := showsOwn_load h
    refine ⟨fun events s' block rest hrun hqueue hview => ?_,
      fun events s' url image hrun hsettled hshown => ?_,
      fun events s' url hrun hsettled hrequested => ?_⟩
    · exact hown.1 _ (pending_run hrun (pending_of_front hqueue hview))
    · have hlast := hrun.preserves (fun _ _ _ hs hstep => showsOwn_step hs hstep) hown
      exact showsOwn_settled hlast hsettled hshown
    · have honly : ∀ url', (s.load parse cell content).Pending (.cell cell) url' → url' = url :=
        fun url' hpending => Option.some.inj ((hown.1 url' hpending).symm.trans hrequested)
      exact delivered_of_settled (loadIsAt_run honly (ownBlock_load hrequested) hrun) hsettled

theorem neverOtherPoster_load_iff (hdecode : ∃ data image, decode data = some image)
    (content : CellContent) :
    NeverOtherPoster parse decode cell (content.requested parse) (s.load parse cell content) ↔
      s.CleanLoad parse cell content ∧ s.KeepsNoOther parse cell content := by
  constructor
  · intro h
    refine ⟨cleanLoad_of_assigned hdecode fun events s' block rest hrun hqueue hview => ?_, ?_⟩
    · let next := { s' with
        mainQueue := rest
        views := s'.views.setShown block.view (.poster block.url block.image) }
      have hstep : PosterStep parse decode s' .mainBlockRuns next := by
        simp only [PosterStep, PosterLoader.handle, PosterLoader.runMainBlock, hqueue, next]
      have hlater : StepUntilLoad parse decode cell s' .mainBlockRuns next :=
        ⟨fun hloads => hloads, hstep⟩
      refine h _ next block.url block.image (hrun.snoc hlater) ?_
      rw [← hview]
      exact PosterViews.shown_setShown ..
    · cases content with
      | tvShowStore record => trivial
      | tvShow t =>
        intro url image hshown
        refine h [] _ url image (.nil _) ?_
        rw [PosterLoader.load, loadTVShow_shown, hshown]
  · rintro ⟨hclean, hkeeps⟩ events s' url image hrun
    refine (hrun.preserves (P := fun u =>
      (∀ url, u.Pending (.cell cell) url → content.requested parse = some url) ∧
        ∀ url image, u.views.shown (.cell cell) = .poster url image →
          content.requested parse = some url) ?_
      ⟨fun url => pendingOwn_load hclean, fun url image => shownOwn_load hkeeps⟩).2 url image
    rintro u event v ⟨hpending, hshown⟩ hstep
    refine ⟨fun url hleft => hpending url (pending_step hstep.2 hstep.1 hleft),
      fun url image hlast => ?_⟩
    cases hstep.2.shown hlast with
    | inl hearlier => exact hshown url image hearlier
    | inr hqueued => exact hpending url (.inr (.inr ⟨image, hqueued⟩))

end Conditions

/-- In a run whose loads are all own ones, from whatever cache, the poster that
is assigned to a cell, and the one that it shows once its work has run, is the
one its last load asked for. A load, in whatever state, is followed by its own
poster exactly when it is an own one, and by no other at any moment exactly when
it is clean and keeps no other poster on the thumbnail. -/
theorem reused_cell_shows_own_poster_iff [DecidableEq URL] (parse : String → Option URL)
    (decode : Data → Option UIImage) (hdecode : ∃ data image, decode data = some image) :
    (∀ cache events s cell,
      Run (guarded (OwnLoads parse decode) (PosterStep parse decode)) (.initial cache) events s →
      (∀ block rest, s.mainQueue = block :: rest → block.view = .cell cell →
        lastRequested parse cell none events = some block.url) ∧
      (s.Settled cell → ∀ url image, s.views.shown (.cell cell) = .poster url image →
        lastRequested parse cell none events = some url)) ∧
      ∀ (s : PosterLoader URL Data UIImage) cell content,
        (OwnPosterOnly parse decode cell (content.requested parse) (s.load parse cell content) ↔
          s.OwnLoad parse decode cell content) ∧
        (NeverOtherPoster parse decode cell (content.requested parse)
            (s.load parse cell content) ↔
          s.CleanLoad parse cell content ∧ s.KeepsNoOther parse cell content) := by
  refine ⟨fun cache events s cell hrun => ?_, fun s cell content =>
    ⟨ownPosterOnly_load_iff hdecode content, neverOtherPoster_load_iff hdecode content⟩⟩
  have hstart : ShowsOwn decode cell none (PosterLoader.initial cache) := by
    refine ⟨fun url hpending => ?_, .inl fun url image hshown => (nomatch hshown)⟩
    simp [PosterLoader.Pending, PosterLoader.initial] at hpending
  have hlast := showsOwn_run hrun hstart
  exact ⟨fun block rest hqueue hview => hlast.1 _ (pending_of_front hqueue hview),
    fun hsettled url image hshown => showsOwn_settled hlast hsettled hshown⟩

theorem reused_cell_shows_own_poster_iff_reused : ∃ (events : List (PosterEvent String))
    (s s' s'' : PosterLoader String String String),
    s.views.shown (.cell 0) = .poster "a" "a" ∧
      PosterStep some some s (.prepareForReuse 0) s' ∧
      OwnPosterOnly some some 0 (some "b") (s'.load some 0 (.tvShow (showWithPoster 2 "b"))) ∧
      Run (PosterStep some some) (s'.load some 0 (.tvShow (showWithPoster 2 "b"))) events s'' ∧
      s''.views.shown (.cell 0) = .poster "b" "b" ∧
      lastRequested some 0 none (.load 0 (.tvShow (showWithPoster 1 "a")) :: .loadBlockRuns 0 ::
        .mainBlockRuns :: .prepareForReuse 0 :: .load 0 (.tvShow (showWithPoster 2 "b")) ::
          events) = some "b" := by
  have hruns : ∃ s s' s'' : PosterLoader String String String,
      Run (guarded (OwnLoads some some) (PosterStep some some))
        (.initial fun url => some ⟨.http 200, url⟩)
        [.load 0 (.tvShow (showWithPoster 1 "a")), .loadBlockRuns 0, .mainBlockRuns] s ∧
      PosterStep some some s (.prepareForReuse 0) s' ∧
      s'.OwnLoad some some 0 (.tvShow (showWithPoster 2 "b")) ∧
      Run (guarded (OwnLoads some some) (PosterStep some some))
        (s'.load some 0 (.tvShow (showWithPoster 2 "b"))) [.loadBlockRuns 0, .mainBlockRuns] s'' ∧
      s.views.shown (.cell 0) = .poster "a" "a" ∧ s''.outstanding = 0 ∧
      s''.views.shown (.cell 0) = .poster "b" "b" := by
    refine ⟨_, _, _, .cons ⟨ownLoad_of_settled (settled_of_none rfl) (by nofun), rfl⟩
      (.cons ⟨trivial, rfl⟩ (.cons ⟨trivial, rfl⟩ (.nil _))), rfl,
      ownLoad_of_settled (settled_of_none rfl) (by nofun),
      .cons ⟨trivial, rfl⟩ (.cons ⟨trivial, rfl⟩ (.nil _)), rfl, rfl, rfl⟩
  obtain ⟨s, s', s'', hfirst, hreused, hown, hsecond, hbefore, hrest, hafter⟩ := hruns
  obtain ⟨hrun, hloads⟩ := reused_cell_shows_own_poster_iff some some ⟨"png", "png", rfl⟩
  have hload : guarded (OwnLoads some some) (PosterStep some some) s'
      (.load 0 (.tvShow (showWithPoster 2 "b")))
      (s'.load some 0 (.tvShow (showWithPoster 2 "b"))) := ⟨hown, rfl⟩
  have hprepared : guarded (OwnLoads some some) (PosterStep some some) s (.prepareForReuse 0) s' :=
    ⟨trivial, hreused⟩
  have hwhole := hfirst.append (.cons hprepared (.cons hload hsecond))
  have hlast := (hrun _ _ s'' 0 hwhole).2 (settled_of_none hrest) "b" "b" hafter
  exact ⟨_, s, s', s'', hbefore, hreused, (hloads s' 0 _).1.mpr hown, hsecond.of_guarded, hafter,
    hlast⟩

/-- Both posters are cached. The cell is loaded, reused and loaded again before
the first block of the global queue runs; the second block runs first. Nothing
is left to run, and the cell shows the poster of the earlier show. -/
theorem earlier_poster_after_reuse : ∃ s s' : PosterLoader String String String,
    exec (PosterLoader.handle some some) (.initial fun url => some ⟨.http 200, url⟩)
        [.load 0 (.tvShow (showWithPoster 1 "a")), .prepareForReuse 0,
          .load 0 (.tvShow (showWithPoster 2 "b"))] = some s ∧
      exec (PosterLoader.handle some some) s
        [.loadBlockRuns 1, .loadBlockRuns 0, .mainBlockRuns, .mainBlockRuns] = some s' ∧
      s'.outstanding = 0 ∧ (CellContent.tvShow (showWithPoster 2 "b")).requested some = some "b" ∧
      s'.views.shown (.cell 0) = .poster "a" "a" ∧
      ¬ OwnPosterOnly some some 0 (some "b") s := by
  refine ⟨_, _, rfl, rfl, rfl, rfl, rfl, fun hown => ?_⟩
  have hshown := hown.shown [.loadBlockRuns 1, .loadBlockRuns 0, .mainBlockRuns, .mainBlockRuns] _
    "a" "a" ((run_of_exec rfl).guarded_of_forall (by simp [PosterEvent.Loads]))
    (settled_of_none rfl) rfl
  exact absurd (Option.some.inj hshown) (by decide)

end TVShows
