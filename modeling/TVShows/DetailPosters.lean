import TVShows.AppContent
import TVShows.PosterAccounting

/-! The posters of the detail screens. A detail screen comes with an image view of
its own, which its `viewDidLoad` loads once, so no other show's poster can reach
it: neither one of the cells nor one of an earlier screen. -/

namespace TVShows

open TransitionRun

variable {URL Data UIImage : Type}

/-- The app, its loaders, and the image views of the detail screens in each tab,
numbered as the screens are opened. -/
structure DetailPosters (URL Data UIImage : Type) where
  app : App
  loader : PosterLoader URL Data UIImage
  imageViews : Tab → List Nat
  opened : Nat

inductive DetailEvent (Data : Type)
  | app (event : AppEvent)
  | loader (event : PosterEvent Data)

def PosterLoader.detailLoads (parse : String → Option URL) (self : PosterLoader URL Data UIImage)
    (imageView : Nat) (detail : DetailScreen) : PosterLoader URL Data UIImage :=
  match detail.tvShow with
  | none => self
  | some _ => self.imageViewLoadImage parse imageView detail.poster

namespace DetailPosters

def launch (tvShows : List TVShow) (realm : Realm) (cache : URL → Option (CachedURLResponse Data)) :
    DetailPosters URL Data UIImage where
  app := App.launch tvShows realm
  loader := .initial cache
  imageViews := fun _ => []
  opened := 0

def opens (parse : String → Option URL) (self : DetailPosters URL Data UIImage) (tab : Tab)
    (app : App) : DetailPosters URL Data UIImage where
  app := app
  loader := match app.navigation tab with
    | [] => self.loader
    | detail :: _ => self.loader.detailLoads parse self.opened detail
  imageViews := Function.update self.imageViews tab (self.opened :: self.imageViews tab)
  opened := self.opened + 1

def afterEvent (parse : String → Option URL) (self : DetailPosters URL Data UIImage) (app : App) :
    AppEvent → DetailPosters URL Data UIImage
  | .selectShowsRow _ => self.opens parse .shows app
  | .selectFavoritesRow _ => self.opens parse .favorites app
  | .popDetail => { self with
    app := app
    imageViews := Function.update self.imageViews self.app.tab (self.imageViews self.app.tab).tail }
  | _ => { self with app := app }

def step [DecidableEq URL] (parse : String → Option URL) (decode : Data → Option UIImage)
    (self : DetailPosters URL Data UIImage) :
    DetailEvent Data → Option (DetailPosters URL Data UIImage)
  | .app event => (self.app.handle event).toOption.map fun app => self.afterEvent parse app event
  | .loader event => (self.loader.handle parse decode event).map fun loader =>
    { self with loader := loader }

/-- Cells are loaded and reused at any time, image views only by their screens. -/
def Possible (self : DetailPosters URL Data UIImage) : DetailEvent Data → Prop
  | .app event => self.app.Admitted event
  | .loader event => ∀ i url, event ≠ .loadImage (.imageView i) url

end DetailPosters

abbrev DetailStep [DecidableEq URL] (parse : String → Option URL) (decode : Data → Option UIImage) :
    DetailPosters URL Data UIImage → DetailEvent Data → DetailPosters URL Data UIImage → Prop :=
  guarded DetailPosters.Possible fun s event s' => s.step parse decode event = some s'

def DetailStarted (s : DetailPosters URL Data UIImage) : Prop :=
  ∃ tvShows realm cache, s = DetailPosters.launch tvShows realm cache

def LoadBlock.url? (view : PosterView) (block : LoadBlock URL) : Option URL :=
  if block.view = view then some block.url else none

def PosterLoader.pendingFor (self : PosterLoader URL Data UIImage) (view : PosterView) :
    Multiset URL :=
  self.outstanding.filterMap (LoadBlock.url? view)

inductive OnlyOwn (own : Option URL) (i : Nat) (s : PosterLoader URL Data UIImage) : Prop
  | waiting (url : URL) : own = some url → s.views.shown (.imageView i) = .unset →
      s.pendingFor (.imageView i) = {url} → OnlyOwn own i s
  | blank : s.views.shown (.imageView i) = .unset → s.pendingFor (.imageView i) = 0 →
      OnlyOwn own i s
  | shown (url : URL) (image : UIImage) : own = some url →
      s.views.shown (.imageView i) = .poster url image → s.pendingFor (.imageView i) = 0 →
      OnlyOwn own i s

section Loads
variable [DecidableEq URL] {parse : String → Option URL} {decode : Data → Option UIImage}
  {s s' : PosterLoader URL Data UIImage} {event : PosterEvent Data} {i : Nat}

theorem filterMap_toList {α β : Type} (f : α → Option β) (o : Option α) :
    Multiset.filterMap f (o.toList : Multiset α) = (o.bind f).toList := by
  cases o with
  | none => rfl
  | some a =>
    rw [Multiset.filterMap_coe, Option.toList_some, List.filterMap_cons]
    cases hf : f a <;> simp [hf]

theorem PosterStep.pendingFor (h : PosterStep parse decode s event s') (view : PosterView) :
    s.pendingFor view + ((event.request? parse).bind (LoadBlock.url? view)).toList =
      ((s.assigned? event).bind (LoadBlock.url? view)).toList +
        ((s.failed? decode event).bind (LoadBlock.url? view)).toList + s'.pendingFor view := by
  have hbalance := congrArg (Multiset.filterMap (LoadBlock.url? view)) h.balance
  simp only [Multiset.filterMap_add, filterMap_toList] at hbalance
  exact hbalance

theorem shown_imageView (h : PosterStep parse decode s event s') (i : Nat) :
    s'.views.shown (.imageView i) = s.views.shown (.imageView i) ∨
      ∃ block, s.assigned? event = some block ∧ block.view = .imageView i ∧
        ∃ image, s'.views.shown (.imageView i) = .poster block.url image := by
  cases h.change with
  | prepared cell =>
    have hne : PosterView.imageView i ≠ .cell cell := PosterView.noConfusion
    refine .inl ?_
    simp only [PosterLoader.prepareForReuse]
    rw [PosterViews.shown_setShown_of_ne _ _ hne, PosterViews.shown_setTitle]
  | loaded cell content views hviews => exact .inl (hviews _ PosterView.noConfusion)
  | missed j view url views hblock hcached hviews => exact .inl (hviews _)
  | assigned block rest hqueue =>
    by_cases hview : block.view = .imageView i
    · refine .inr ⟨block.block, by simp [PosterLoader.assigned?, hqueue], hview, block.image, ?_⟩
      rw [← hview]
      exact PosterViews.shown_setShown ..
    · exact .inl (PosterViews.shown_setShown_of_ne _ _ (Ne.symm hview))
  | _ => exact .inl rfl

theorem PosterStep.imageView (h : PosterStep parse decode s event s')
    (hrequest : (event.request? parse).bind (LoadBlock.url? (.imageView i)) = none) :
    (s'.views.shown (.imageView i) = s.views.shown (.imageView i) ∧
        s'.pendingFor (.imageView i) ≤ s.pendingFor (.imageView i)) ∨
      ∃ url image, s'.views.shown (.imageView i) = .poster url image ∧
        url ::ₘ s'.pendingFor (.imageView i) ≤ s.pendingFor (.imageView i) := by
  have hbalance := h.pendingFor (.imageView i)
  rw [hrequest, Option.toList_none, Multiset.coe_nil, add_zero] at hbalance
  obtain hkept | ⟨block, hassigned, hview, image, hshown⟩ := shown_imageView h i
  · refine .inl ⟨hkept, ?_⟩
    rw [hbalance]
    exact Multiset.le_add_left _ _
  · have hurl : (some block).bind (LoadBlock.url? (.imageView i)) = some block.url := if_pos hview
    refine .inr ⟨block.url, image, hshown, ?_⟩
    rw [hbalance, hassigned, hurl, Option.toList_some, Multiset.coe_singleton, add_assoc,
      Multiset.singleton_add]
    exact Multiset.cons_le_cons _ (Multiset.le_add_left _ _)

theorem PosterStep.settled (h : PosterStep parse decode s event s')
    (hrequest : (event.request? parse).bind (LoadBlock.url? (.imageView i)) = none)
    (hnone : s.pendingFor (.imageView i) = 0) :
    s'.views.shown (.imageView i) = s.views.shown (.imageView i) ∧
      s'.pendingFor (.imageView i) = 0 := by
  have hstep := h.imageView hrequest
  rw [hnone] at hstep
  obtain ⟨hkept, hle⟩ | ⟨url, image, -, hle⟩ := hstep
  · exact ⟨hkept, Multiset.le_zero.mp hle⟩
  · exact absurd (Multiset.le_zero.mp hle) Multiset.cons_ne_zero

theorem OnlyOwn.step {own : Option URL} (hs : OnlyOwn own i s)
    (hrequest : (event.request? parse).bind (LoadBlock.url? (.imageView i)) = none)
    (h : PosterStep parse decode s event s') : OnlyOwn own i s' := by
  cases hs with
  | waiting url hown hunset hpending =>
    have hstep := h.imageView hrequest
    rw [hpending] at hstep
    obtain ⟨hkept, hle⟩ | ⟨assigned, image, hshown, hle⟩ := hstep
    · cases Multiset.le_singleton.mp hle with
      | inl hnone => exact .blank (hkept.trans hunset) hnone
      | inr hone => exact .waiting url hown (hkept.trans hunset) hone
    · -- the one load that was under way is the one assigned
      cases Multiset.le_singleton.mp hle with
      | inl hnone => exact absurd hnone Multiset.cons_ne_zero
      | inr hone =>
        obtain ⟨rfl, hrest⟩ := (Multiset.singleton_eq_cons_iff _).mp hone.symm
        exact .shown _ image hown hshown hrest
  | blank hunset hpending =>
    obtain ⟨hkept, hnone⟩ := h.settled hrequest hpending
    exact .blank (hkept.trans hunset) hnone
  | shown url image hown hshown hpending =>
    obtain ⟨hkept, hnone⟩ := h.settled hrequest hpending
    exact .shown url image hown (hkept.trans hshown) hnone

theorem detailLoads_step (parse : String → Option URL) (decode : Data → Option UIImage)
    (s : PosterLoader URL Data UIImage) (i : Nat) (detail : DetailScreen) :
    s.detailLoads parse i detail = s ∨
      PosterStep parse decode s (.loadImage (.imageView i) detail.poster)
        (s.detailLoads parse i detail) := by
  unfold PosterLoader.detailLoads
  cases detail.tvShow with
  | none => exact .inl rfl
  | some tvShow => exact .inr rfl

omit [DecidableEq URL] in
theorem request_of_ne {j : Nat} (poster : String) (hne : j ≠ i) :
    ((PosterEvent.loadImage (.imageView i) poster : PosterEvent Data).request? parse).bind
      (LoadBlock.url? (.imageView j)) = none := by
  have hview : PosterView.imageView i ≠ .imageView j := fun heq =>
    hne (PosterView.imageView.inj heq).symm
  cases hparse : parse poster with
  | none => simp [PosterEvent.request?, hparse]
  | some url => simp [PosterEvent.request?, hparse, LoadBlock.url?, hview]

omit [DecidableEq URL] in
theorem request_of_cells (hevent : ∀ i url, event ≠ .loadImage (.imageView i) url) (i : Nat) :
    (event.request? parse).bind (LoadBlock.url? (.imageView i)) = none := by
  cases event with
  | load cell content =>
    cases hurl : content.requested parse <;> simp [PosterEvent.request?, LoadBlock.url?, hurl]
  | loadImage view url =>
    cases view with
    | imageView j => exact absurd rfl (hevent j url)
    | cell j => cases hurl : parse url <;> simp [PosterEvent.request?, LoadBlock.url?, hurl]
  | _ => rfl

theorem OnlyOwn.detailLoads {own : Option URL} {j : Nat} (hs : OnlyOwn own j s) (hne : j ≠ i)
    (detail : DetailScreen) : OnlyOwn own j (s.detailLoads parse i detail) := by
  obtain hsame | hstep := detailLoads_step parse (fun _ : Data => (none : Option UIImage)) s i detail
  · rwa [hsame]
  · exact hs.step (request_of_ne detail.poster hne) hstep

theorem OnlyOwn.opened (hs : OnlyOwn none i s) (detail : DetailScreen) :
    OnlyOwn (parse detail.poster) i (s.detailLoads parse i detail) := by
  cases hs with
  | waiting url hown => cases hown
  | shown url image hown => cases hown
  | blank hunset hpending =>
    unfold PosterLoader.detailLoads
    cases detail.tvShow with
    | none => exact .blank hunset hpending
    | some tvShow =>
      have hstep : PosterStep parse (fun _ : Data => (none : Option UIImage)) s
          (.loadImage (.imageView i) detail.poster)
          (s.imageViewLoadImage parse i detail.poster) := rfl
      have hbalance := hstep.pendingFor (.imageView i)
      have hkept : (s.imageViewLoadImage parse i detail.poster).views = s.views := by
        rw [PosterLoader.imageViewLoadImage, PosterLoader.queueLoad_eq]
      simp only [hpending, PosterLoader.assigned?, PosterLoader.failed?, Option.bind_none,
        Option.toList_none, Multiset.coe_nil, zero_add, PosterEvent.request?] at hbalance
      cases hparse : parse detail.poster with
      | none =>
        rw [hparse] at hbalance
        exact .blank (hkept ▸ hunset) hbalance.symm
      | some url =>
        have hurl : ((some url).map fun url => (⟨.imageView i, url⟩ : LoadBlock URL)).bind
            (LoadBlock.url? (.imageView i)) = some url := if_pos rfl
        rw [hparse, hurl] at hbalance
        exact .waiting url rfl (hkept ▸ hunset) hbalance.symm

end Loads

section Screens
variable {app app' : App} {event : AppEvent} {tab : Tab} {detail : DetailScreen}

def App.details (self : App) (tab : Tab) : List (Option TVShow × String) :=
  (self.navigation tab).map fun detail => (detail.tvShow, detail.poster)

theorem pushDetail_navigation (app : App) (tab : Tab) (tvShow : Option TVShow) :
    (app.pushDetail tab tvShow).navigation = Function.update app.navigation tab
      (((DetailScreen.segue tvShow).viewDidLoad app.realm).viewWillAppear app.realm ::
        app.navigation tab) := rfl

theorem toggleFavoriteButton_poster (detail : DetailScreen) (realm : Realm) :
    (detail.toggleFavoriteButton realm).poster = detail.poster := by
  unfold DetailScreen.toggleFavoriteButton
  split <;> rfl

theorem details_update {top : DetailScreen} {rest : List DetailScreen} (realm : Realm)
    (hstack : app.navigation app.tab = top :: rest)
    (hnavigation : app'.navigation =
      Function.update app.navigation app.tab (top.toggleFavoriteButton realm :: rest)) :
    app'.details = app.details := by
  funext tab
  unfold App.details
  rw [hnavigation]
  by_cases htab : tab = app.tab
  · subst htab
    rw [Function.update_self, hstack, List.map_cons, List.map_cons, toggleFavoriteButton_poster,
      DetailScreen.toggleFavoriteButton_tvShow]
  · rw [Function.update_of_ne htab]

theorem viewWillAppear_details (app : App) : app.viewWillAppear.details = app.details := by
  unfold App.viewWillAppear
  split
  · rename_i detail details hstack
    exact details_update app.realm hstack rfl
  · rfl
  · rfl

theorem details_push (hnavigation : app'.navigation =
      Function.update app.navigation tab (detail :: app.navigation tab)) :
    app'.details =
      Function.update app.details tab ((detail.tvShow, detail.poster) :: app.details tab) := by
  funext other
  unfold App.details
  rw [hnavigation]
  by_cases hother : other = tab
  · subst hother
    rw [Function.update_self, Function.update_self, List.map_cons]
  · rw [Function.update_of_ne hother, Function.update_of_ne hother]

theorem popDetail_details (app : App) : app.popDetail.details =
    Function.update app.details app.tab (app.details app.tab).tail := by
  unfold App.popDetail
  rw [viewWillAppear_details]
  funext other
  unfold App.details
  dsimp only
  by_cases hother : other = app.tab
  · subst hother
    rw [Function.update_self, Function.update_self, List.map_tail]
  · rw [Function.update_of_ne hother, Function.update_of_ne hother]

theorem details_of_step (h : AppStep app event app') (hshows : ∀ row, event ≠ .selectShowsRow row)
    (hfavorites : ∀ row, event ≠ .selectFavoritesRow row) (hpop : event ≠ .popDetail) :
    app'.details = app.details := by
  cases event with
  | selectShowsRow row => exact absurd rfl (hshows row)
  | selectFavoritesRow row => exact absurd rfl (hfavorites row)
  | popDetail => exact absurd rfl hpop
  | toggleFavorite =>
    simp only [AppStep, App.handle, App.toggleFavorite] at h
    split at h
    · exact congrArg App.details (Except.ok.inj h).symm
    · rename_i detail details hstack
      obtain ⟨result, hok, rfl⟩ := map_eq_ok h
      obtain ⟨realm', htoggle⟩ := toggleFavorite_ok detail app.realm
      obtain rfl := Except.ok.inj (htoggle.symm.trans hok)
      exact details_update realm' hstack rfl
  | switchTab =>
    obtain rfl := Except.ok.inj h
    exact viewWillAppear_details _
  | tapFavoritesDelete row =>
    obtain rfl := Except.ok.inj h
    rfl
  | _ =>
    obtain ⟨_, -, rfl⟩ := map_eq_ok h
    rfl

end Screens

theorem exists_of_forall₂ {α β : Type} {R : α → β → Prop} {as : List α} {bs : List β} {b : β}
    (h : List.Forall₂ R as bs) (hb : b ∈ bs) : ∃ a, R a b := by
  induction h with
  | nil => cases hb
  | cons hab _ ih =>
    cases List.mem_cons.mp hb with
    | inl hfirst => exact ⟨_, hfirst ▸ hab⟩
    | inr hrest => exact ih hrest

structure PostersInvariant (parse : String → Option URL) (s : DetailPosters URL Data UIImage) :
    Prop where
  fresh : ∀ i, s.opened ≤ i → OnlyOwn none i s.loader
  own : ∀ tab, List.Forall₂ (fun screen i => i < s.opened ∧ OnlyOwn (parse screen.2) i s.loader)
    (s.app.details tab) (s.imageViews tab)

namespace PostersInvariant
variable {parse : String → Option URL} {s s' : DetailPosters URL Data UIImage} {app' : App}

theorem launch (tvShows : List TVShow) (realm : Realm)
    (cache : URL → Option (CachedURLResponse Data)) : PostersInvariant parse
      (DetailPosters.launch tvShows realm cache : DetailPosters URL Data UIImage) where
  fresh _ _ := .blank rfl rfl
  own _ := .nil

theorem sameDetails (hs : PostersInvariant parse s) (h : app'.details = s.app.details) :
    PostersInvariant parse { s with app := app' } := by
  refine ⟨hs.fresh, fun tab => ?_⟩
  have hown := hs.own tab
  rwa [← h] at hown

theorem popDetail (hs : PostersInvariant parse s) :
    PostersInvariant parse (s.afterEvent parse s.app.popDetail .popDetail) := by
  refine ⟨hs.fresh, fun tab => ?_⟩
  simp only [DetailPosters.afterEvent, popDetail_details]
  by_cases htab : tab = s.app.tab
  · subst htab
    rw [Function.update_self, Function.update_self, ← List.drop_one, ← List.drop_one]
    exact List.forall₂_drop 1 (hs.own s.app.tab)
  · rw [Function.update_of_ne htab, Function.update_of_ne htab]
    exact hs.own tab

variable [DecidableEq URL] {decode : Data → Option UIImage}

theorem opens (hs : PostersInvariant parse s) {tab : Tab} {detail : DetailScreen}
    (hnavigation : app'.navigation =
      Function.update s.app.navigation tab (detail :: s.app.navigation tab)) :
    PostersInvariant parse (s.opens parse tab app') := by
  have hopens : s.opens parse tab app' = ⟨app', s.loader.detailLoads parse s.opened detail,
      Function.update s.imageViews tab (s.opened :: s.imageViews tab), s.opened + 1⟩ := by
    simp [DetailPosters.opens, hnavigation]
  have hold (other : Tab) : List.Forall₂ (fun screen i => i < s.opened + 1 ∧
      OnlyOwn (parse screen.2) i (s.loader.detailLoads parse s.opened detail))
      (s.app.details other) (s.imageViews other) :=
    (hs.own other).imp fun screen i hi =>
      ⟨Nat.lt_succ_of_lt hi.1, hi.2.detailLoads (Nat.ne_of_lt hi.1) detail⟩
  rw [hopens]
  refine ⟨fun i hi => ?_, fun other => ?_⟩
  · exact (hs.fresh i (Nat.le_of_succ_le hi)).detailLoads (Nat.ne_of_gt hi) detail
  · simp only [details_push hnavigation]
    by_cases hother : other = tab
    · subst hother
      have hnew : OnlyOwn (parse detail.poster) s.opened
          (s.loader.detailLoads parse s.opened detail) :=
        (hs.fresh s.opened (Nat.le_refl _)).opened detail
      rw [Function.update_self, Function.update_self]
      exact .cons ⟨Nat.lt_succ_self _, hnew⟩ (hold other)
    · rw [Function.update_of_ne hother, Function.update_of_ne hother]
      exact hold other

theorem app (hs : PostersInvariant parse s) {event : AppEvent} (h : AppStep s.app event app') :
    PostersInvariant parse (s.afterEvent parse app' event) := by
  cases event with
  | selectShowsRow row =>
    obtain ⟨shows, -, rfl⟩ := map_eq_ok h
    exact hs.opens (pushDetail_navigation { s.app with shows := shows } .shows shows.tvShow)
  | selectFavoritesRow row =>
    obtain ⟨favorites, -, rfl⟩ := map_eq_ok h
    exact hs.opens
      (pushDetail_navigation { s.app with favorites := favorites } .favorites favorites.tvShow)
  | popDetail =>
    obtain rfl := Except.ok.inj h
    exact hs.popDetail
  | _ => exact hs.sameDetails (details_of_step h (by simp) (by simp) (by simp))

theorem loader (hs : PostersInvariant parse s) {event : PosterEvent Data}
    {loader' : PosterLoader URL Data UIImage}
    (hevent : ∀ i url, event ≠ .loadImage (.imageView i) url)
    (h : PosterStep parse decode s.loader event loader') :
    PostersInvariant parse { s with loader := loader' } := by
  have hrequest (i : Nat) :
      (event.request? parse).bind (LoadBlock.url? (.imageView i)) = none :=
    request_of_cells hevent i
  exact ⟨fun i hi => (hs.fresh i hi).step (hrequest i) h,
    fun tab => (hs.own tab).imp fun screen i hi => ⟨hi.1, hi.2.step (hrequest i) h⟩⟩

theorem step (hs : PostersInvariant parse s) {event : DetailEvent Data}
    (h : DetailStep parse decode s event s') : PostersInvariant parse s' := by
  obtain ⟨hpossible, hstep⟩ := h
  cases event with
  | app event =>
    obtain ⟨app', hok, rfl⟩ := Option.map_eq_some_iff.mp hstep
    exact hs.app (toOption_eq_some hok)
  | loader event =>
    obtain ⟨loader', hok, rfl⟩ := Option.map_eq_some_iff.mp hstep
    exact hs.loader hpossible hok

theorem reachable_posters (h : Reachable DetailStarted (DetailStep parse decode) s) :
    PostersInvariant parse s := by
  refine h.invariant ?_ fun _ _ _ hs hstep => hs.step hstep
  rintro _ ⟨tvShows, realm, cache, rfl⟩
  exact launch tvShows realm cache

end PostersInvariant

section Numbers
variable {s s' : DetailPosters URL Data UIImage}

def DetailPosters.screens (self : DetailPosters URL Data UIImage) (tab : Tab) :
    List ((Option TVShow × String) × Nat) :=
  (self.app.details tab).zip (self.imageViews tab)

inductive ScreensChange (s s' : DetailPosters URL Data UIImage) : Prop
  | kept : s'.app.details = s.app.details → s'.imageViews = s.imageViews →
      s'.opened = s.opened → ScreensChange s s'
  | opened (tab : Tab) (screen : Option TVShow × String) :
      s'.app.details = Function.update s.app.details tab (screen :: s.app.details tab) →
      s'.imageViews = Function.update s.imageViews tab (s.opened :: s.imageViews tab) →
      s'.opened = s.opened + 1 → ScreensChange s s'
  | closed (tab : Tab) :
      s'.app.details = Function.update s.app.details tab (s.app.details tab).tail →
      s'.imageViews = Function.update s.imageViews tab (s.imageViews tab).tail →
      s'.opened = s.opened → ScreensChange s s'

structure Numbered (s : DetailPosters URL Data UIImage) : Prop where
  below : ∀ tab, ∀ i ∈ s.imageViews tab, i < s.opened
  distinct : (s.imageViews .shows ++ s.imageViews .favorites).Nodup

theorem Numbered.step (hs : Numbered s) (h : ScreensChange s s') : Numbered s' := by
  cases h with
  | kept hdetails hviews hopened =>
    refine ⟨fun tab i hi => ?_, ?_⟩
    · rw [hviews] at hi
      exact hopened ▸ hs.below tab i hi
    · rw [hviews]
      exact hs.distinct
  | opened tab screen hdetails hviews hopened =>
    have hnew : ∀ tab, s.opened ∉ s.imageViews tab := fun tab hmem =>
      Nat.lt_irrefl _ (hs.below tab _ hmem)
    have hfresh : (s.opened :: (s.imageViews .shows ++ s.imageViews .favorites)).Nodup :=
      List.nodup_cons.mpr ⟨fun hmem => (List.mem_append.mp hmem).elim (hnew _) (hnew _),
        hs.distinct⟩
    refine ⟨fun other i hi => ?_, ?_⟩
    · rw [hviews] at hi
      rw [hopened]
      by_cases hother : other = tab
      · subst hother
        rw [Function.update_self] at hi
        cases List.mem_cons.mp hi with
        | inl heq => exact heq ▸ Nat.lt_succ_self _
        | inr hold => exact Nat.lt_succ_of_lt (hs.below other i hold)
      · rw [Function.update_of_ne hother] at hi
        exact Nat.lt_succ_of_lt (hs.below other i hi)
    · rw [hviews]
      cases tab with
      | shows => exact hfresh
      | favorites => exact List.nodup_middle.mpr hfresh
  | closed tab hdetails hviews hopened =>
    have hsub : ∀ other, (s'.imageViews other).Sublist (s.imageViews other) := by
      intro other
      rw [hviews]
      by_cases hother : other = tab
      · subst hother
        rw [Function.update_self]
        exact List.tail_sublist _
      · rw [Function.update_of_ne hother]
    refine ⟨fun other i hi => ?_, ?_⟩
    · rw [hopened]
      exact hs.below other i ((hsub other).subset hi)
    · exact hs.distinct.sublist ((hsub .shows).append (hsub .favorites))

theorem screens_of_change (h : ScreensChange s s') {tab : Tab}
    {screen : (Option TVShow × String) × Nat} (hmem : screen ∈ s'.screens tab) :
    screen ∈ s.screens tab ∨ screen.2 = s.opened := by
  unfold DetailPosters.screens at *
  cases h with
  | kept hdetails hviews hopened =>
    rw [hdetails, hviews] at hmem
    exact .inl hmem
  | opened opening detail hdetails hviews hopened =>
    rw [hdetails, hviews] at hmem
    by_cases htab : tab = opening
    · subst htab
      rw [Function.update_self, Function.update_self, List.zip_cons_cons] at hmem
      cases List.mem_cons.mp hmem with
      | inl heq => exact .inr (heq ▸ rfl)
      | inr hold => exact .inl hold
    · rw [Function.update_of_ne htab, Function.update_of_ne htab] at hmem
      exact .inl hmem
  | closed closing hdetails hviews hopened =>
    rw [hdetails, hviews] at hmem
    by_cases htab : tab = closing
    · subst htab
      rw [Function.update_self, Function.update_self, List.zip, ← List.tail_zipWith] at hmem
      exact .inl (List.mem_of_mem_tail hmem)
    · rw [Function.update_of_ne htab, Function.update_of_ne htab] at hmem
      exact .inl hmem

theorem opened_le (h : ScreensChange s s') : s.opened ≤ s'.opened := by
  cases h with
  | kept hdetails hviews hopened => exact Nat.le_of_eq hopened.symm
  | opened tab screen hdetails hviews hopened => exact hopened ▸ Nat.le_succ _
  | closed tab hdetails hviews hopened => exact Nat.le_of_eq hopened.symm

variable [DecidableEq URL] {parse : String → Option URL} {decode : Data → Option UIImage}

theorem screens_step {event : DetailEvent Data} (h : DetailStep parse decode s event s') :
    ScreensChange s s' := by
  obtain ⟨-, hstep⟩ := h
  cases event with
  | loader event =>
    obtain ⟨loader', -, rfl⟩ := Option.map_eq_some_iff.mp hstep
    exact .kept rfl rfl rfl
  | app event =>
    obtain ⟨app', hok, rfl⟩ := Option.map_eq_some_iff.mp hstep
    have happ : AppStep s.app event app' := toOption_eq_some hok
    cases event with
    | selectShowsRow row =>
      obtain ⟨shows, -, rfl⟩ := map_eq_ok happ
      exact .opened .shows _ (details_push (pushDetail_navigation _ .shows shows.tvShow)) rfl rfl
    | selectFavoritesRow row =>
      obtain ⟨favorites, -, rfl⟩ := map_eq_ok happ
      exact .opened .favorites _
        (details_push (pushDetail_navigation _ .favorites favorites.tvShow)) rfl rfl
    | popDetail =>
      obtain rfl := Except.ok.inj happ
      exact .closed s.app.tab (popDetail_details s.app) rfl rfl
    | _ => exact .kept (details_of_step happ (by simp) (by simp) (by simp)) rfl rfl

theorem numbered_of_reachable (h : Reachable DetailStarted (DetailStep parse decode) s) :
    Numbered s := by
  refine h.invariant ?_ fun _ _ _ hs hstep => hs.step (screens_step hstep)
  rintro _ ⟨tvShows, realm, cache, rfl⟩
  exact ⟨fun tab i hi => (nomatch hi), List.nodup_nil⟩

theorem screens_of_run {events : List (DetailEvent Data)}
    (h : Run (DetailStep parse decode) s events s') : ∀ tab, ∀ screen ∈ s'.screens tab,
      screen.2 < s.opened → screen ∈ s.screens tab := by
  have hlast := h.preserves (P := fun u => s.opened ≤ u.opened ∧
    ∀ tab, ∀ screen ∈ u.screens tab, screen.2 < s.opened → screen ∈ s.screens tab) ?_
    ⟨Nat.le_refl _, fun _ _ hmem _ => hmem⟩
  · exact hlast.2
  · rintro u event v ⟨hle, hu⟩ hstep
    have hchange := screens_step hstep
    refine ⟨hle.trans (opened_le hchange), fun tab screen hmem hlt => ?_⟩
    cases screens_of_change hchange hmem with
    | inl hbefore => exact hu tab screen hbefore hlt
    | inr hnew => exact absurd (hnew ▸ hlt) (Nat.not_lt.mpr hle)

end Numbers

section Shows
variable [DecidableEq URL] {parse : String → Option URL} {decode : Data → Option UIImage}
  {s s' : DetailPosters URL Data UIImage}

theorem app_step {event : DetailEvent Data} (h : DetailStep parse decode s event s') :
    ∃ appEvents, Run AdmittedStep s.app appEvents s'.app := by
  obtain ⟨hpossible, hok⟩ := h
  cases event with
  | loader event =>
    obtain ⟨loader', -, rfl⟩ := Option.map_eq_some_iff.mp hok
    exact ⟨[], .nil _⟩
  | app event =>
    obtain ⟨app', happ, rfl⟩ := Option.map_eq_some_iff.mp hok
    have hkept : (s.afterEvent parse app' event).app = app' := by cases event <;> rfl
    rw [hkept]
    exact ⟨[event], .single ⟨hpossible, toOption_eq_some happ⟩⟩

theorem app_run {events : List (DetailEvent Data)} (h : Run (DetailStep parse decode) s events s') :
    ∃ appEvents, Run AdmittedStep s.app appEvents s'.app := by
  induction h with
  | nil s => exact ⟨[], .nil _⟩
  | cons hstep _ ih =>
    obtain ⟨appEvents, hfirst⟩ := app_step hstep
    obtain ⟨later, hrest⟩ := ih
    exact ⟨appEvents ++ later, hfirst.append hrest⟩

theorem detail_tvShow (h : Reachable DetailStarted (DetailStep parse decode) s) {tab : Tab}
    {detail : DetailScreen} (hmem : detail ∈ s.app.navigation tab) :
    ∃ t, detail.tvShow = some t ∧ detail.poster = (t.image.bind Image.original).getD "" := by
  obtain ⟨_, events, ⟨tvShows, realm, cache, rfl⟩, hrun⟩ := h
  obtain ⟨appEvents, happ⟩ := app_run hrun
  obtain ⟨record, -, hrecord⟩ := (content_of_run happ).details tab detail hmem
  obtain ⟨t, htvShow, rfl⟩ := hrecord.tvShow
  exact ⟨t, htvShow, hrecord.poster⟩

end Shows

/-- Each screen has a show and nothing but the poster of that show, a poster that
a screen has been given stays, and no screen ever has the image view of another. -/
structure DetailShowsOwnPoster [DecidableEq URL] (parse : String → Option URL)
    (decode : Data → Option UIImage) (s : DetailPosters URL Data UIImage) : Prop where
  own : ∀ tab, List.Forall₂ (fun detail i => OnlyOwn (parse detail.poster) i s.loader)
    (s.app.navigation tab) (s.imageViews tab)
  ofShow : ∀ tab, ∀ detail ∈ s.app.navigation tab, ∃ t, detail.tvShow = some t ∧
    detail.poster = (t.image.bind Image.original).getD ""
  final : ∀ tab, ∀ i ∈ s.imageViews tab, ∀ url image,
    s.loader.views.shown (.imageView i) = .poster url image → ∀ events s',
      Run (DetailStep parse decode) s events s' →
        s'.loader.views.shown (.imageView i) = .poster url image
  below : ∀ tab, ∀ i ∈ s.imageViews tab, i < s.opened
  distinct : (s.imageViews .shows ++ s.imageViews .favorites).Nodup
  neverReused : ∀ events s', Run (DetailStep parse decode) s events s' → ∀ tab,
    ∀ screen ∈ s'.screens tab, screen.2 < s.opened → screen ∈ s.screens tab

section Runs
variable [DecidableEq URL] {parse : String → Option URL} {decode : Data → Option UIImage}
  {s s' : DetailPosters URL Data UIImage} {i : Nat}

theorem opens_settled (parse : String → Option URL) (s : DetailPosters URL Data UIImage)
    (tab : Tab) (app : App) (hi : i < s.opened) (hnone : s.loader.pendingFor (.imageView i) = 0) :
    (s.opens parse tab app).loader.views.shown (.imageView i) =
        s.loader.views.shown (.imageView i) ∧
      (s.opens parse tab app).loader.pendingFor (.imageView i) = 0 := by
  unfold DetailPosters.opens
  cases app.navigation tab with
  | nil => exact ⟨rfl, hnone⟩
  | cons detail details =>
    obtain hsame | hstep :=
      detailLoads_step parse (fun _ : Data => (none : Option UIImage)) s.loader s.opened detail
    · dsimp only
      rw [hsame]
      exact ⟨rfl, hnone⟩
    · exact hstep.settled (request_of_ne detail.poster (Nat.ne_of_lt hi)) hnone

theorem settled_step {event : DetailEvent Data} (h : DetailStep parse decode s event s')
    (hi : i < s.opened) (hnone : s.loader.pendingFor (.imageView i) = 0) :
    i < s'.opened ∧ s'.loader.pendingFor (.imageView i) = 0 ∧
      s'.loader.views.shown (.imageView i) = s.loader.views.shown (.imageView i) := by
  obtain ⟨hpossible, hstep⟩ := h
  cases event with
  | loader event =>
    obtain ⟨loader', hok, rfl⟩ := Option.map_eq_some_iff.mp hstep
    have hloader : PosterStep parse decode s.loader event loader' := hok
    obtain ⟨hkept, hnone'⟩ := hloader.settled (request_of_cells hpossible i) hnone
    exact ⟨hi, hnone', hkept⟩
  | app event =>
    obtain ⟨app', -, rfl⟩ := Option.map_eq_some_iff.mp hstep
    cases event with
    | selectShowsRow row =>
      obtain ⟨hkept, hnone'⟩ := opens_settled parse s .shows app' hi hnone
      exact ⟨Nat.lt_succ_of_lt hi, hnone', hkept⟩
    | selectFavoritesRow row =>
      obtain ⟨hkept, hnone'⟩ := opens_settled parse s .favorites app' hi hnone
      exact ⟨Nat.lt_succ_of_lt hi, hnone', hkept⟩
    | _ => exact ⟨hi, hnone, rfl⟩

/-- In every run, with any loads of the cells in between, a detail screen in front
or covered shows no poster but its own show's, has at most that one under way and
keeps it once it has come; and its image view is its own for good. -/
theorem detail_shows_own_poster (h : Reachable DetailStarted (DetailStep parse decode) s) :
    DetailShowsOwnPoster parse decode s := by
  have hs := PostersInvariant.reachable_posters h
  have hnumbers := numbered_of_reachable h
  refine ⟨fun tab => ?_, fun tab detail hmem => detail_tvShow h hmem,
    fun tab i hmem url image hshown events s' hrun => ?_, hnumbers.below, hnumbers.distinct,
    fun events s' hrun => screens_of_run hrun⟩
  · have hown := hs.own tab
    rw [App.details, List.forall₂_map_left_iff] at hown
    exact hown.imp fun detail i hi => hi.2
  · obtain ⟨poster, hi, hown⟩ := exists_of_forall₂ (hs.own tab) hmem
    have hnone : s.loader.pendingFor (.imageView i) = 0 := by
      cases hown with
      | waiting url' hurl hunset => cases hunset.symm.trans hshown
      | blank hunset => cases hunset.symm.trans hshown
      | shown url' image' hurl hshown' hpending => exact hpending
    have hkept := hrun.preserves
      (P := fun s' => i < s'.opened ∧ s'.loader.pendingFor (.imageView i) = 0 ∧
        s'.loader.views.shown (.imageView i) = .poster url image)
      (fun _ _ _ hu hstep =>
        have hnext := settled_step hstep hu.1 hu.2.1
        ⟨hnext.1, hnext.2.1, hnext.2.2.trans hu.2.2⟩) ⟨hi, hnone, hshown⟩
    exact hkept.2.2

theorem detail_shows_own_poster_late : ∃ s : DetailPosters String String String,
    s.imageViews .shows = [1] ∧ s.loader.views.shown (.imageView 0) = .poster "a" "png" ∧
      s.loader.views.shown (.imageView 1) = .unset ∧ DetailShowsOwnPoster some some s := by
  have hrun : ∃ s : DetailPosters String String String,
      Run (DetailStep some some)
        (DetailPosters.launch [{ TVShow.bare (some 1) with image := some ⟨none, some "a"⟩ },
          { TVShow.bare (some 2) with image := some ⟨none, some "b"⟩ }] Realm.empty fun _ => none)
        [.app (.selectShowsRow 0), .app .popDetail, .app (.selectShowsRow 1),
          .loader (.loadBlockRuns 1), .loader (.loadBlockRuns 0),
          .loader (.downloadCompletes 1 ⟨some "png", some (.http 200), none⟩),
          .loader .mainBlockRuns] s ∧
        s.imageViews .shows = [1] ∧ s.loader.views.shown (.imageView 0) = .poster "a" "png" ∧
        s.loader.views.shown (.imageView 1) = .unset := by
    refine ⟨_, .cons ⟨⟨⟨rfl, rfl⟩, ⟨rfl, rfl⟩, Nat.two_pos⟩, rfl⟩ <|
      .cons ⟨⟨⟨rfl, rfl⟩, List.cons_ne_nil _ _⟩, rfl⟩ <|
      .cons ⟨⟨⟨rfl, rfl⟩, ⟨rfl, rfl⟩, Nat.one_lt_two⟩, rfl⟩ <| .cons ⟨by nofun, rfl⟩ <|
      .cons ⟨by nofun, rfl⟩ <| .cons ⟨by nofun, rfl⟩ <| .single ⟨by nofun, rfl⟩, rfl, rfl, rfl⟩
  obtain ⟨s, hrun, hviews, hfirst, hsecond⟩ := hrun
  exact ⟨s, hviews, hfirst, hsecond, detail_shows_own_poster ⟨_, _, ⟨_, _, _, rfl⟩, hrun⟩⟩

end Runs

end TVShows
