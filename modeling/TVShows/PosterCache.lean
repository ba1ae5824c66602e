import TVShows.LoaderChange

/-! The shared poster cache. Both loaders store a response only after its status
and its image were checked, so an entry that decodes stays one, a lookup of it
needs no network, and an entry that does not decode is replaced by a download. -/

namespace TVShows

open TransitionRun

variable {URL Data UIImage : Type} [DecidableEq URL]

def Displays (parse : String → Option URL) (decode : Data → Option UIImage)
    (s : PosterLoader URL Data UIImage) (block : Assignment URL UIImage) : Prop :=
  ∃ n s', Run (PosterStep parse decode) s (List.replicate n .mainBlockRuns) s' ∧
    s'.views.shown block.view = .poster block.url block.image

/-- The entry is the HTTP response, with a status below 300 and data that
decodes, that one of the events brought to a download of the URL. -/
def Downloaded (decode : Data → Option UIImage) (events : List (PosterEvent Data))
    (s : PosterLoader URL Data UIImage) (url : URL) (entry : CachedURLResponse Data) : Prop :=
  ∃ i download outcome statusCode, .downloadCompletes i outcome ∈ events ∧
    s.downloads[i]? = some download ∧ download.url = url ∧
    outcome.data = some entry.data ∧ outcome.response = some entry.response ∧
    entry.response = .http statusCode ∧ statusCode < 300 ∧ (decode entry.data).isSome

structure CacheKeepsPosters (parse : String → Option URL) (decode : Data → Option UIImage)
    (s₀ : PosterLoader URL Data UIImage) (events : List (PosterEvent Data))
    (s : PosterLoader URL Data UIImage) : Prop where
  written : ∀ url entry, s.cache url = some entry →
    s₀.cache url = some entry ∨ Downloaded decode events s url entry
  kept : ∀ url, (s₀.cachedImage decode url).isSome → (s.cachedImage decode url).isSome
  stored : ∀ i download outcome, .downloadCompletes i outcome ∈ events →
    s.downloads[i]? = some download → (acceptedPoster decode outcome).isSome →
      (s.cachedImage decode download.url).isSome
  loaded : ∀ cell content url s', PosterStep parse decode s (.load cell content) s' →
    content.requested parse = some url → s'.loadBlocks = s.loadBlocks ++ [⟨.cell cell, url⟩]
  imageLoaded : ∀ view string url s', PosterStep parse decode s (.loadImage view string) s' →
    parse string = some url → s'.loadBlocks = s.loadBlocks ++ [⟨view, url⟩]
  served : ∀ i block image, s.loadBlocks[i]? = some block →
    s.cachedImage decode block.url = some image →
      ∃ s', PosterStep parse decode s (.loadBlockRuns i) s' ∧ s'.downloads = s.downloads ∧
        Displays parse decode s' ⟨block.view, block.url, image⟩
  fallsThrough : ∀ i block, s.loadBlocks[i]? = some block →
    s.cachedImage decode block.url = none →
      ∃ s', PosterStep parse decode s (.loadBlockRuns i) s' ∧
        s'.downloads = s.downloads ++ [⟨block.view, block.url, .running⟩]
  refreshed : ∀ i download outcome entry image, s.downloads[i]? = some download →
    download.state = .running → acceptedPoster decode outcome = some (entry, image) →
      ∃ s', PosterStep parse decode s (.downloadCompletes i outcome) s' ∧
        s'.cache download.url = some entry ∧
        Displays parse decode s' ⟨download.view, download.url, image⟩

section Steps
variable {parse : String → Option URL} {decode : Data → Option UIImage}
  {s s' : PosterLoader URL Data UIImage} {event : PosterEvent Data}

theorem PosterStep.cache (h : PosterStep parse decode s event s') :
    s'.cache = s.cache ∨ ∃ i download outcome entry image,
      event = .downloadCompletes i outcome ∧ s.downloads[i]? = some download ∧
        acceptedPoster decode outcome = some (entry, image) ∧
        s'.cache = Function.update s.cache download.url (some entry) := by
  cases h.change with
  | loaded cell content views hviews => exact .inl PosterLoader.cancelTask_cache
  | stored i outcome view url entry image hdownload haccepted =>
    exact .inr ⟨i, _, outcome, entry, image, rfl, hdownload, haccepted, rfl⟩
  | _ => exact .inl rfl

theorem PosterStep.download (h : PosterStep parse decode s event s') {i : Nat}
    {download : Download URL} (hi : s.downloads[i]? = some download) :
    ∃ state, s'.downloads[i]? = some ⟨download.view, download.url, state⟩ := by
  have hlt := (List.getElem?_eq_some_iff.mp hi).1
  have hset : ∀ j d, s.downloads[j]? = some d → ∃ state,
      (s.downloads.set j ⟨d.view, d.url, .completed⟩)[i]? =
        some ⟨download.view, download.url, state⟩ := by
    intro j d hd
    by_cases hij : j = i
    · subst hij
      obtain rfl := Option.some.inj (hd.symm.trans hi)
      exact ⟨.completed, List.getElem?_set_self hlt⟩
    · exact ⟨download.state, (List.getElem?_set_ne hij).trans hi⟩
  cases h.change with
  | loaded cell content views hviews => exact PosterLoader.cancelTask_download hi
  | missed j view url views hblock hcached hviews =>
    exact ⟨download.state, (List.getElem?_append_left hlt).trans hi⟩
  | stored j outcome view url entry image hd haccepted => exact hset j _ hd
  | rejected j outcome d hd haccepted => exact hset j d hd
  | _ => exact ⟨download.state, hi⟩

theorem PosterStep.cachedImage (h : PosterStep parse decode s event s') {url : URL}
    (hcached : (s.cachedImage decode url).isSome) : (s'.cachedImage decode url).isSome := by
  unfold PosterLoader.cachedImage at *
  obtain hsame | ⟨i, download, outcome, entry, image, -, -, haccepted, hstored⟩ := h.cache
  · rw [hsame]
    exact hcached
  · rw [hstored]
    by_cases hurl : url = download.url
    · simp [hurl, (acceptedPoster_eq_some_iff.mp haccepted).2.2.2]
    · rw [Function.update_of_ne hurl]
      exact hcached

theorem PosterStep.accepted {i : Nat} {outcome : TaskOutcome Data}
    (h : PosterStep parse decode s (.downloadCompletes i outcome) s')
    (haccepted : (acceptedPoster decode outcome).isSome) :
    ∃ download, s.downloads[i]? = some download ∧
      (s'.cachedImage decode download.url).isSome := by
  cases h.change with
  | stored _ _ view url entry image hd hentry =>
    refine ⟨_, hd, ?_⟩
    simp [PosterLoader.cachedImage, (acceptedPoster_eq_some_iff.mp hentry).2.2.2]
  | rejected _ _ d hd hnone => simp [hnone] at haccepted

theorem PosterStep.loadLooksUp {cell : Nat} {content : CellContent} {url : URL}
    (h : PosterStep parse decode s (.load cell content) s')
    (hrequested : content.requested parse = some url) :
    s'.loadBlocks = s.loadBlocks ++ [⟨.cell cell, url⟩] := by
  obtain rfl := Option.some.inj h
  rw [PosterLoader.load_loadBlocks, hrequested]
  rfl

theorem PosterStep.loadImageLooksUp {view : PosterView} {string : String} {url : URL}
    (h : PosterStep parse decode s (.loadImage view string) s') (hparse : parse string = some url) :
    s'.loadBlocks = s.loadBlocks ++ [⟨view, url⟩] := by
  cases h.change with
  | queued _ _ =>
    rw [hparse]
    rfl

theorem displays_of_mem {block : Assignment URL UIImage} (h : block ∈ s.mainQueue) :
    Displays parse decode s block := by
  obtain ⟨blocks, rest, hqueue⟩ := List.append_of_mem h
  obtain ⟨front, hrun, hfront⟩ := run_mainQueue parse decode blocks hqueue
  let after := { front with
    mainQueue := rest
    views := front.views.setShown block.view (.poster block.url block.image) }
  have hstep : PosterStep parse decode front .mainBlockRuns after := by
    simp only [PosterStep, PosterLoader.handle, PosterLoader.runMainBlock, hfront, after]
  refine ⟨blocks.length + 1, after, ?_, PosterViews.shown_setShown ..⟩
  rw [List.replicate_succ']
  exact hrun.snoc hstep

end Steps

section Runs
variable {parse : String → Option URL} {decode : Data → Option UIImage}
  {s₀ s : PosterLoader URL Data UIImage} {events : List (PosterEvent Data)}

theorem run_download (h : Run (PosterStep parse decode) s₀ events s) {i : Nat}
    {download : Download URL} (hi : s₀.downloads[i]? = some download) :
    ∃ state, s.downloads[i]? = some ⟨download.view, download.url, state⟩ := by
  induction h generalizing download with
  | nil s => exact ⟨download.state, hi⟩
  | cons hstep _ ih =>
    obtain ⟨state, hnext⟩ := hstep.download hi
    have hlast := ih hnext
    exact hlast

theorem run_cachedImage (h : Run (PosterStep parse decode) s₀ events s) {url : URL}
    (hcached : (s₀.cachedImage decode url).isSome) : (s.cachedImage decode url).isSome :=
  h.preserves (fun _ _ _ hs hstep => hstep.cachedImage hs) hcached

theorem run_written (h : Run (PosterStep parse decode) s₀ events s) {url : URL}
    {entry : CachedURLResponse Data} (hentry : s.cache url = some entry) :
    s₀.cache url = some entry ∨ Downloaded decode events s url entry := by
  induction h with
  | nil s => exact .inl hentry
  | cons hstep hrun ih =>
    cases ih hentry with
    | inr hlater =>
      obtain ⟨i, download, outcome, statusCode, hmem, hrest⟩ := hlater
      exact .inr ⟨i, download, outcome, statusCode, List.mem_cons_of_mem _ hmem, hrest⟩
    | inl hnext =>
      obtain hsame | ⟨i, download, outcome, stored, image, rfl, hi, haccepted, hstored⟩ :=
        hstep.cache
      · exact .inl (hsame ▸ hnext)
      · -- the step stored an entry: for this URL, or for another one
        by_cases hurl : url = download.url
        · subst hurl
          obtain rfl : stored = entry := by simpa [hstored] using hnext
          obtain ⟨hdata, hresponse, ⟨statusCode, hstatus, hlow⟩, hdecode⟩ :=
            acceptedPoster_eq_some_iff.mp haccepted
          obtain ⟨next, hi'⟩ := hstep.download hi
          obtain ⟨state, hlast⟩ := run_download hrun hi'
          exact .inr ⟨i, _, outcome, statusCode, List.mem_cons_self, hlast, rfl, hdata, hresponse,
            hstatus, hlow, by simp [hdecode]⟩
        · rw [hstored, Function.update_of_ne hurl] at hnext
          exact .inl hnext

theorem run_stored (h : Run (PosterStep parse decode) s₀ events s) {i : Nat}
    {download : Download URL} {outcome : TaskOutcome Data}
    (hmem : .downloadCompletes i outcome ∈ events) (hi : s.downloads[i]? = some download)
    (haccepted : (acceptedPoster decode outcome).isSome) :
    (s.cachedImage decode download.url).isSome := by
  induction h with
  | nil s => cases hmem
  | cons hstep hrun ih =>
    cases List.mem_cons.mp hmem with
    | inr hlater => exact ih hlater hi
    | inl heq =>
      subst heq
      obtain ⟨d, hd, hcached⟩ := hstep.accepted haccepted
      obtain ⟨next, hnext⟩ := hstep.download hd
      obtain ⟨state, hlast⟩ := run_download hrun hnext
      obtain rfl := Option.some.inj (hlast.symm.trans hi)
      exact run_cachedImage hrun hcached

/-- Whatever the initial cache, the loads, the outcomes and the order of the
steps, the loaders never poison the cache and posters stay available. -/
theorem cache_keeps_posters (h : Run (PosterStep parse decode) s₀ events s) :
    CacheKeepsPosters parse decode s₀ events s where
  written _ _ hentry := run_written h hentry
  kept _ hcached := run_cachedImage h hcached
  stored _ _ _ hmem hi haccepted := run_stored h hmem hi haccepted
  loaded _ _ _ _ hstep hrequested := hstep.loadLooksUp hrequested
  imageLoaded _ _ _ _ hstep hparse := hstep.loadImageLooksUp hparse
  served i block image hblock hcached := by
    obtain ⟨s', hstep, hdownloads, hqueued⟩ := lookup_hit parse hblock hcached
    exact ⟨s', hstep, hdownloads, displays_of_mem hqueued⟩
  fallsThrough _ _ hblock hcached := lookup_miss parse hblock hcached
  refreshed i download outcome entry image hi hrunning haccepted := by
    obtain ⟨s', hstep, hstored, hqueued⟩ :=
      download_accepted parse hi hrunning haccepted
    exact ⟨s', hstep, hstored, displays_of_mem hqueued⟩

end Runs

theorem cache_keeps_posters_replaced : ∃ s,
    CacheKeepsPosters some (fun data => if data = "" then none else some data)
      (.initial fun _ => some ⟨.http 200, ""⟩)
      [.loadImage (.cell 0) "a", .loadBlockRuns 0,
        .downloadCompletes 0 ⟨some "png", some (.http 200), none⟩,
        .loadImage (.imageView 0) "a"] s ∧
      s.loadBlocks = [⟨.imageView 0, "a"⟩] ∧ s.cache "a" = some ⟨.http 200, "png"⟩ := by
  refine ⟨_, cache_keeps_posters (run_of_exec rfl), rfl, rfl⟩

end TVShows
