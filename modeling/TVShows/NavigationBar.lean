import Mathlib.Data.Nat.Bitwise
import TVShows.AppRuns

/-! The tint of the two navigation bars, one for each tab. A detail screen tints
its bar when it comes in front and takes the tint back when it leaves, so the bar
in front tells a list from a detail screen. Colours are made of 64-bit integers,
with an assertion for each component. -/

namespace TVShows

open TransitionRun

structure UIColor where
  red : Int
  green : Int
  blue : Int
deriving DecidableEq, Repr

inductive Colors
  | unfavorite
  | favorite
  | showListingHeader
  | showDetailHeader
deriving DecidableEq, Repr

def Colors.rawValue : Colors → BitVec 64
  | unfavorite => 0xFF3A30#64
  | favorite => 0x7ED321#64
  | showListingHeader => 0x661fff#64
  | showDetailHeader => 0xffb41f#64

namespace UIColor

def ofComponents (red green blue : BitVec 64) : Option UIColor :=
  if (0 ≤ red.toInt ∧ red.toInt ≤ 255) ∧ (0 ≤ green.toInt ∧ green.toInt ≤ 255) ∧
      0 ≤ blue.toInt ∧ blue.toInt ≤ 255 then
    some ⟨red.toInt, green.toInt, blue.toInt⟩
  else none

def ofRGB (rgb : BitVec 64) : Option UIColor :=
  ofComponents (rgb.sshiftRight 16 &&& 0xFF#64) (rgb.sshiftRight 8 &&& 0xFF#64) (rgb &&& 0xFF#64)

theorem toNat_byte (rgb : BitVec 64) {k : Nat} (hk : k ≤ 56) :
    (rgb.sshiftRight k &&& 0xFF#64).toNat = rgb.toNat / 2 ^ k % 256 := by
  have hshift : rgb.sshiftRight k &&& 0xFF#64 = rgb >>> k &&& 0xFF#64 := by
    refine BitVec.eq_of_getLsbD_eq fun i hi => ?_
    rw [BitVec.getLsbD_and, BitVec.getLsbD_and, BitVec.getLsbD_sshiftRight,
      BitVec.getLsbD_ushiftRight]
    by_cases hbyte : i < 8
    · have hin : k + i < 64 := by omega
      have hnot : ¬ 64 ≤ i := by omega
      simp [hin, hnot]
    · have hmask : (0xFF#64).getLsbD i = false := by
        have hbit : Nat.testBit 255 i = false :=
          (Nat.testBit_two_pow_sub_one 8 i).trans (decide_eq_false hbyte)
        rw [BitVec.getLsbD_ofNat, hbit, Bool.and_false]
      rw [hmask, Bool.and_false, Bool.and_false]
  rw [hshift, BitVec.toNat_and, BitVec.toNat_ushiftRight, Nat.shiftRight_eq_div_pow]
  exact Nat.and_two_pow_sub_one_eq_mod _ 8

theorem toInt_byte (rgb : BitVec 64) {k : Nat} (hk : k ≤ 56) :
    (rgb.sshiftRight k &&& 0xFF#64).toInt = (rgb.toNat / 2 ^ k % 256 : Nat) := by
  have hbyte := toNat_byte rgb hk
  have hlt := Nat.mod_lt (rgb.toNat / 2 ^ k) (by decide : 0 < 256)
  rw [BitVec.toInt_eq_toNat_of_lt (by omega), hbyte]

theorem ofRGB_eq (rgb : BitVec 64) : ofRGB rgb = some
    ⟨(rgb.toNat / 2 ^ 16 % 256 : Nat), (rgb.toNat / 2 ^ 8 % 256 : Nat),
      (rgb.toNat % 256 : Nat)⟩ := by
  have hblue := toInt_byte rgb (Nat.zero_le 56)
  rw [BitVec.sshiftRight_zero, pow_zero, Nat.div_one] at hblue
  have hbyte : ∀ n : Nat, (0 : Int) ≤ (n % 256 : Nat) ∧ ((n % 256 : Nat) : Int) ≤ 255 := by
    intro n
    omega
  rw [ofRGB, ofComponents, toInt_byte rgb (by decide), toInt_byte rgb (by decide), hblue,
    if_pos ⟨hbyte _, hbyte _, hbyte _⟩]

structure ReadsRGB (rgb : BitVec 64) : Prop where
  packed : ∃ color, ofRGB rgb = some color ∧
    color.red * 65536 + color.green * 256 + color.blue = (rgb.toNat % 2 ^ 24 : Nat)
  same : ∀ rgb', ofRGB rgb = ofRGB rgb' ↔ rgb.toNat % 2 ^ 24 = rgb'.toNat % 2 ^ 24

theorem rgb_reads_low_bits (rgb : BitVec 64) : ReadsRGB rgb where
  packed := by
    refine ⟨_, ofRGB_eq rgb, ?_⟩
    dsimp only
    omega
  same rgb' := by
    rw [ofRGB_eq, ofRGB_eq, Option.some.injEq, UIColor.mk.injEq]
    omega

end UIColor

structure TintedApp where
  app : App
  barTintColor : Tab → UIColor

def AppEvent.changesFront : AppEvent → Bool
  | .selectShowsRow _ => true
  | .selectFavoritesRow _ => true
  | .popDetail => true
  | .switchTab => true
  | _ => false

def App.detailInFront (self : App) : Bool :=
  !(self.navigation self.tab).isEmpty

namespace TintedApp

/-- Both bars have the tint of the storyboard: red 0.4, green 31 / 255, blue 1. -/
def launch (tvShows : List TVShow) (realm : Realm) : TintedApp where
  app := App.launch tvShows realm
  barTintColor := fun _ => ⟨102, 31, 255⟩

def setBarTintColor (self : TintedApp) (tab : Tab) (color : Colors) : Option TintedApp :=
  (UIColor.ofRGB color.rawValue).map fun tint =>
    { self with barTintColor := Function.update self.barTintColor tab tint }

def viewWillDisappear (self : TintedApp) : Option TintedApp :=
  if self.app.detailInFront then self.setBarTintColor self.app.tab .showListingHeader
  else some self

def viewWillAppear (self : TintedApp) : Option TintedApp :=
  if self.app.detailInFront then self.setBarTintColor self.app.tab .showDetailHeader
  else some self

/-- The screen that goes is told before the one that comes; `none` when the app
traps or an assertion of a colour fails. -/
def handle (self : TintedApp) (event : AppEvent) : Option TintedApp :=
  match (self.app.handle event).toOption with
  | none => none
  | some app =>
    if event.changesFront then
      self.viewWillDisappear.bind fun gone => { gone with app := app }.viewWillAppear
    else some { self with app := app }

end TintedApp

abbrev TintedStep : TintedApp → AppEvent → TintedApp → Prop :=
  guarded (fun s event => s.app.Admitted event) fun s event s' => s.handle event = some s'

def TintedStarted (s : TintedApp) : Prop :=
  ∃ tvShows realm, s = TintedApp.launch tvShows realm

def App.header (self : App) (tab : Tab) : Colors :=
  if tab = self.tab ∧ self.detailInFront = true then .showDetailHeader else .showListingHeader

structure BarsMatchFront (s : TintedApp) : Prop where
  tints : ∀ tab, UIColor.ofRGB (s.app.header tab).rawValue = some (s.barTintColor tab)
  handled : ∀ event app', s.app.handle event = .ok app' →
    ∃ s', s.handle event = some s' ∧ s'.app = app'

section Bars
variable {s s' : TintedApp} {app app' : App} {event : AppEvent}

theorem front_kept (h : AdmittedStep app event app') (hevent : event.changesFront = false) :
    app'.tab = app.tab ∧ app'.detailInFront = app.detailInFront := by
  obtain ⟨hadmitted, hstep⟩ := h
  cases event with
  | selectShowsRow row => cases hevent
  | selectFavoritesRow row => cases hevent
  | popDetail => cases hevent
  | switchTab => cases hevent
  | toggleFavorite =>
    simp only [AppStep, App.handle, App.toggleFavorite] at hstep
    split at hstep
    · exact absurd ‹_› hadmitted.2
    · rename_i detail details hstack
      obtain ⟨result, -, rfl⟩ := map_eq_ok hstep
      simp [App.detailInFront, hstack]
  | tapFavoritesDelete row =>
    obtain rfl := Except.ok.inj hstep
    exact ⟨rfl, rfl⟩
  | _ =>
    obtain ⟨_, -, rfl⟩ := map_eq_ok hstep
    exact ⟨rfl, rfl⟩

theorem setBarTintColor_eq (s : TintedApp) (tab : Tab) (color : Colors) :
    ∃ tint, UIColor.ofRGB color.rawValue = some tint ∧ s.setBarTintColor tab color =
      some { s with barTintColor := Function.update s.barTintColor tab tint } := by
  have htint := UIColor.ofRGB_eq color.rawValue
  exact ⟨_, htint, by rw [TintedApp.setBarTintColor, htint, Option.map_some]⟩

theorem viewWillDisappear_tints
    (hs : ∀ tab, UIColor.ofRGB (s.app.header tab).rawValue = some (s.barTintColor tab)) :
    ∃ tints, s.viewWillDisappear = some { s with barTintColor := tints } ∧
      ∀ tab, UIColor.ofRGB Colors.showListingHeader.rawValue = some (tints tab) := by
  unfold TintedApp.viewWillDisappear
  by_cases hdetail : s.app.detailInFront = true
  · obtain ⟨tint, htint, hset⟩ := setBarTintColor_eq s s.app.tab .showListingHeader
    rw [if_pos hdetail, hset]
    refine ⟨_, rfl, fun tab => ?_⟩
    by_cases htab : tab = s.app.tab
    · rw [htab, Function.update_self, htint]
    · have hlist := hs tab
      rw [App.header, if_neg (fun h => htab h.1)] at hlist
      rw [Function.update_of_ne htab, hlist]
  · rw [if_neg hdetail]
    refine ⟨s.barTintColor, rfl, fun tab => ?_⟩
    have hlist := hs tab
    rwa [App.header, if_neg (fun h => hdetail h.2)] at hlist

theorem viewWillAppear_tints
    (hs : ∀ tab, UIColor.ofRGB Colors.showListingHeader.rawValue = some (s.barTintColor tab)) :
    ∃ tints, s.viewWillAppear = some { s with barTintColor := tints } ∧
      ∀ tab, UIColor.ofRGB (s.app.header tab).rawValue = some (tints tab) := by
  unfold TintedApp.viewWillAppear
  by_cases hdetail : s.app.detailInFront = true
  · obtain ⟨tint, htint, hset⟩ := setBarTintColor_eq s s.app.tab .showDetailHeader
    rw [if_pos hdetail, hset]
    refine ⟨_, rfl, fun tab => ?_⟩
    by_cases htab : tab = s.app.tab
    · rw [App.header, if_pos ⟨htab, hdetail⟩, htab, Function.update_self, htint]
    · rw [App.header, if_neg (fun h => htab h.1), Function.update_of_ne htab, hs tab]
  · rw [if_neg hdetail]
    refine ⟨s.barTintColor, rfl, fun tab => ?_⟩
    rw [App.header, if_neg (fun h => hdetail h.2), hs tab]

theorem handle_eq
    (hs : ∀ tab, UIColor.ofRGB (s.app.header tab).rawValue = some (s.barTintColor tab))
    (h : s.app.handle event = .ok app') :
    ∃ tints, s.handle event = some ⟨app', tints⟩ ∧
      (event.changesFront = true →
        ∀ tab, UIColor.ofRGB (app'.header tab).rawValue = some (tints tab)) ∧
      (event.changesFront = false → tints = s.barTintColor) := by
  have hok : (s.app.handle event).toOption = some app' := by
    rw [h]
    rfl
  unfold TintedApp.handle
  rw [hok]
  dsimp only
  by_cases hevent : event.changesFront = true
  · obtain ⟨lists, hgone, hlists⟩ := viewWillDisappear_tints hs
    obtain ⟨tints, hcome, htints⟩ := viewWillAppear_tints (s := ⟨app', lists⟩) hlists
    rw [if_pos hevent, hgone]
    exact ⟨tints, hcome, fun _ => htints, fun hnone => absurd (hevent.symm.trans hnone) (by decide)⟩
  · rw [if_neg hevent]
    exact ⟨s.barTintColor, rfl, fun hsome => absurd hsome hevent, fun _ => rfl⟩

theorem tints_step
    (hs : ∀ tab, UIColor.ofRGB (s.app.header tab).rawValue = some (s.barTintColor tab))
    (h : TintedStep s event s') (tab : Tab) :
    UIColor.ofRGB (s'.app.header tab).rawValue = some (s'.barTintColor tab) := by
  obtain ⟨hadmitted, hstep⟩ := h
  cases hok : s.app.handle event with
  | error trap =>
    rw [TintedApp.handle, hok] at hstep
    cases hstep
  | ok app' =>
    obtain ⟨tints, hhandle, hchanged, hkept⟩ := handle_eq hs hok
    obtain rfl := Option.some.inj (hhandle.symm.trans hstep)
    cases hevent : event.changesFront with
    | true => exact hchanged hevent tab
    | false =>
      obtain ⟨htab, hdetail⟩ := front_kept ⟨hadmitted, hok⟩ hevent
      have hheader : app'.header tab = s.app.header tab := by
        rw [App.header, App.header, htab, hdetail]
      rw [hheader, hkept hevent, hs tab]

/-- In every run the bar in front has the detail tint just while a detail screen
is in front, and the hidden bar has the tint of a list. -/
theorem bars_match_front (h : Reachable TintedStarted TintedStep s) : BarsMatchFront s := by
  have hs : ∀ tab, UIColor.ofRGB (s.app.header tab).rawValue = some (s.barTintColor tab) := by
    refine h.invariant ?_ fun _ _ _ hs hstep => tints_step hs hstep
    rintro _ ⟨tvShows, realm, rfl⟩ tab
    have hheader : (TintedApp.launch tvShows realm).app.header tab = .showListingHeader := by
      simp [App.header, App.detailInFront, TintedApp.launch, App.launch]
    rw [hheader]
    rfl
  refine ⟨hs, fun event app' hok => ?_⟩
  obtain ⟨tints, hhandle, -⟩ := handle_eq hs hok
  exact ⟨_, hhandle, rfl⟩

theorem bars_match_front_switched : ∃ s : TintedApp, s.app.tab = .favorites ∧
    s.app.navigation .shows ≠ [] ∧ s.barTintColor .shows = ⟨102, 31, 255⟩ ∧ BarsMatchFront s := by
  have hrun : ∃ s, Run TintedStep (TintedApp.launch [.bare (some 7)] Realm.empty)
      [.selectShowsRow 0, .switchTab] s ∧ s.app.tab = .favorites ∧
        s.app.navigation .shows ≠ [] ∧ s.barTintColor .shows = ⟨102, 31, 255⟩ :=
    ⟨_, .cons ⟨⟨⟨rfl, rfl⟩, ⟨rfl, rfl⟩, Nat.one_pos⟩, rfl⟩ <| .single ⟨⟨rfl, rfl⟩, rfl⟩, rfl,
      List.cons_ne_nil _ _, rfl⟩
  obtain ⟨s, hrun, htab, hdetail, htint⟩ := hrun
  exact ⟨s, htab, hdetail, htint, bars_match_front ⟨_, _, ⟨_, _, rfl⟩, hrun⟩⟩

end Bars

end TVShows
