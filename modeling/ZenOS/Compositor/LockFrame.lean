import Mathlib
import ZenOS.Compositor.LockScreen
import ZenOS.Library.Compositing

/-!
What the lock screen shows: `render_lock_ui`, and the frames of a lock session from its
activation to the unlock.  How Pango and Cairo turn a text or a path into coverage of
pixels is a parameter.
-/

namespace ZenOS.Compositor

open ZenOS.Library.Compositing

abbrev Pixel := Int × Int

/-- How much of a pixel is covered by what is drawn there. -/
abbrev Coverage := Set.Icc (0 : ℚ) 1

abbrev CairoSurface := Pixel → Rgba ℚ

/-- The surface of `zen_cairo_buffer_create`. -/
def CairoSurface.create : CairoSurface :=
  fun _ => Rgba.transparent

structure ClockTime where
  hour : Fin 24
  minute : Fin 60
  deriving DecidableEq

def twoDigits (n : Nat) : List Char :=
  [(n / 10).digitChar, (n % 10).digitChar]

/-- `strftime` with the format `%H:%M`. -/
def ClockTime.strftime (now : ClockTime) : List Char :=
  twoDigits now.hour ++ ':' :: twoDigits now.minute

/-- What `render_lock_ui` builds a path from; the angles are in quarters of a turn. -/
inductive PathOp where
  | newSubPath
  | arc (xc yc radius : ℚ) (angle1 angle2 : Int)
  | closePath
  deriving DecidableEq

structure Toolkit where
  /-- `pango_layout_get_pixel_size` -/
  getPixelSize (font : String) (text : List Char) : Int × Int
  /-- `pango_cairo_show_layout` after `cairo_move_to` -/
  showLayout (font : String) (text : List Char) (x y : Int) : Pixel → Coverage
  /-- `cairo_fill` -/
  fill (path : List PathOp) : Pixel → Coverage

/-- `cairo_fill` after a `cairo_rectangle` of whole pixels. -/
def fillRectangle (x y width height : Int) : Pixel → Coverage :=
  fun p => if x ≤ p.1 ∧ p.1 < x + width ∧ y ≤ p.2 ∧ p.2 < y + height then 1 else 0

def CairoSurface.paint (surface : CairoSurface) (source : Rgba ℚ) : CairoSurface :=
  fun p => source.blend (surface p)

def CairoSurface.draw (surface : CairoSurface) (source : Rgba ℚ) (coverage : Pixel → Coverage) :
    CairoSurface :=
  fun p => (source.masked (coverage p : ℚ)).blend (surface p)

def zenLockAvatarSize : Int := 80

def zenLockPassW : Int := 300

def zenLockPassH : Int := 40

section Render

variable (t : Toolkit) (w h : Int)

def clockCoverage (now : ClockTime) : Pixel → Coverage :=
  let size := t.getPixelSize "Sans Bold 48" now.strftime
  let cx := (w - size.1).tdiv 2
  let cy := h.tdiv 4 - size.2.tdiv 2
  t.showLayout "Sans Bold 48" now.strftime cx cy

def avatarCoverage : Pixel → Coverage :=
  let ax := (w - zenLockAvatarSize).tdiv 2
  let ay := h.tdiv 2 - zenLockAvatarSize - 20
  fillRectangle ax ay zenLockAvatarSize zenLockAvatarSize

def passX : Int := (w - zenLockPassW).tdiv 2

def passY : Int := h.tdiv 2 + 10

def passwordFieldCoverage : Pixel → Coverage :=
  let px : ℚ := passX w
  let py : ℚ := passY h
  let radius : ℚ := 8
  t.fill
    [.newSubPath,
      .arc (px + zenLockPassW - radius) (py + radius) radius (-1) 0,
      .arc (px + zenLockPassW - radius) (py + zenLockPassH - radius) radius 0 1,
      .arc (px + radius) (py + zenLockPassH - radius) radius 1 2,
      .arc (px + radius) (py + radius) radius 2 3,
      .closePath]

def passwordDotsCoverage (passwordLen : Nat) : Pixel → Coverage :=
  let masked := List.replicate passwordLen '*'
  let size := t.getPixelSize "Monospace 16" masked
  t.showLayout "Monospace 16" masked (passX w + (zenLockPassW - size.1).tdiv 2)
    (passY h + (zenLockPassH - size.2).tdiv 2)

def errorCoverage : Pixel → Coverage :=
  let text := "Incorrect password".toList
  let size := t.getPixelSize "Sans 14" text
  let ex := (w - size.1).tdiv 2
  let ey := h.tdiv 2 + zenLockPassH + 20
  t.showLayout "Sans 14" text ex ey

/-- What `render_lock_ui` paints over the pixels of the surface. -/
def drawLockUi (now : ClockTime) (passwordLen : Nat) (showError : Bool)
    (surface : CairoSurface) : CairoSurface :=
  let surface := surface.paint (.ofStraight 0 0 0 (17 / 20))
  let surface := surface.draw (.ofStraight 1 1 1 1) (clockCoverage t w h now)
  let surface := surface.draw (.ofStraight (2 / 5) (2 / 5) (2 / 5) 1) (avatarCoverage w h)
  let surface := surface.draw (.ofStraight (1 / 5) (1 / 5) (1 / 5) (9 / 10))
    (passwordFieldCoverage t w h)
  let surface :=
    if 0 < passwordLen then
      surface.draw (.ofStraight 1 1 1 1) (passwordDotsCoverage t w h passwordLen)
    else surface
  if showError then surface.draw (.ofStraight 1 (1 / 5) (1 / 5) 1) (errorCoverage t w h)
  else surface

end Render

/-- The compositor with the pixels of its lock buffer; `shown` is the time of the clock
in the latest frame. -/
structure LockDisplay where
  compositor : ZenCompositor
  surface : CairoSurface
  shown : ClockTime

namespace LockDisplay

abbrev lock (d : LockDisplay) : LockState :=
  d.compositor.lock

abbrev screen (d : LockDisplay) : ZenLockScreen :=
  d.compositor.lock.screen

end LockDisplay

def renderLockUi (t : Toolkit) (now : ClockTime) (d : LockDisplay) : LockDisplay :=
  if d.screen.lockBuffer = none ∨ d.screen.width ≤ 0 ∨ d.screen.height ≤ 0 then d
  else
    { d with
      surface := drawLockUi t d.screen.width d.screen.height now d.lock.passwordLen
        d.screen.showError d.surface
      shown := now }

/-- `zen_lock_activate` with its frame. -/
def activateDisplay (t : Toolkit) (now : ClockTime) (d : LockDisplay) (bufferOk : Bool) :
    LockDisplay :=
  let s := zenLockActivate d.compositor bufferOk
  if d.lock.locked || !s.lock.locked then { d with compositor := s }
  else renderLockUi t now { d with compositor := s, surface := .create }

/-- The branches of `zen_lock_handle_key` that end in `render_lock_ui`. -/
def rendersLockUi (s : ZenCompositor) (keysym : UInt32) (pressed : Bool)
    (pam : Nat → List UInt8 → Bool) : Bool :=
  if !s.lock.locked || !pressed then false
  else if keysym = keyBackSpace then 0 < s.lock.passwordLen
  else if keysym = keyReturn ∨ keysym = keyKPEnter then !(pamAuthenticatePassword s pam).2
  else if keysym = keyEscape then true
  else if 0x20 ≤ keysym ∧ keysym ≤ 0x7e then s.lock.passwordLen < zenLockPassMax
  else false

/-- `zen_lock_handle_key` with its frame. -/
def handleKeyDisplay (t : Toolkit) (now : ClockTime) (d : LockDisplay) (keysym : UInt32)
    (pressed : Bool) (pam : Nat → List UInt8 → Bool) : LockDisplay :=
  let s := (zenLockHandleKey d.compositor keysym pressed pam).1
  if rendersLockUi d.compositor keysym pressed pam then renderLockUi t now { d with compositor := s }
  else { d with compositor := s }

/-- A lock session, from the activation up to the unlock. -/
inductive LockSession (t : Toolkit) : LockDisplay → Prop where
  | activate {d : LockDisplay} {now : ClockTime} {bufferOk : Bool}
      (hunlocked : d.lock.locked = false)
      (hlocked : (activateDisplay t now d bufferOk).lock.locked = true) :
      LockSession t (activateDisplay t now d bufferOk)
  | key {d : LockDisplay} {now : ClockTime} {keysym : UInt32} {pressed : Bool}
      {pam : Nat → List UInt8 → Bool} (session : LockSession t d)
      (hlocked : (handleKeyDisplay t now d keysym pressed pam).lock.locked = true) :
      LockSession t (handleKeyDisplay t now d keysym pressed pam)

def InBuffer (w h : Int) (p : Pixel) : Prop :=
  0 ≤ p.1 ∧ p.1 < w ∧ 0 ≤ p.2 ∧ p.2 < h

instance (w h : Int) (p : Pixel) : Decidable (InBuffer w h p) :=
  inferInstanceAs (Decidable (_ ∧ _))

/-- The frames of a size show nothing but the clock, the length of the password and the
error message, and nothing shines through them. -/
structure HidesDesktop (t : Toolkit) (w h : Int) : Prop where
  opaque_frame : ∀ d, LockSession t d → d.screen.width = w → d.screen.height = h →
    ∀ p, InBuffer w h p → (d.surface p).a = 1
  no_residue : ∀ d d', LockSession t d → LockSession t d' →
    d.screen.width = w → d.screen.height = h → d'.screen.width = w → d'.screen.height = h →
    d.shown.strftime = d'.shown.strftime → d.lock.passwordLen = d'.lock.passwordLen →
    d.screen.showError = d'.screen.showError → ∀ p, InBuffer w h p → d.surface p = d'.surface p

section Layers

variable (t : Toolkit) (w h : Int) (now : ClockTime) (passwordLen : Nat) (showError : Bool)

/-- What is painted on one pixel, in order. -/
def lockLayers (p : Pixel) : List (Rgba ℚ) :=
  [.ofStraight 0 0 0 (17 / 20),
    Rgba.masked (clockCoverage t w h now p : ℚ) (.ofStraight 1 1 1 1),
    Rgba.masked (avatarCoverage w h p : ℚ) (.ofStraight (2 / 5) (2 / 5) (2 / 5) 1),
    Rgba.masked (passwordFieldCoverage t w h p : ℚ)
      (.ofStraight (1 / 5) (1 / 5) (1 / 5) (9 / 10))] ++
  (if 0 < passwordLen then
    [Rgba.masked (passwordDotsCoverage t w h passwordLen p : ℚ) (.ofStraight 1 1 1 1)]
  else []) ++
  if showError then
    [Rgba.masked (errorCoverage t w h p : ℚ) (.ofStraight 1 (1 / 5) (1 / 5) 1)]
  else []

theorem drawLockUi_apply (surface : CairoSurface) (p : Pixel) :
    drawLockUi t w h now passwordLen showError surface p =
      Rgba.paintAll (lockLayers t w h now passwordLen showError p) (surface p) := by
  cases showError <;> by_cases hlen : 0 < passwordLen <;>
    simp only [drawLockUi, lockLayers, hlen, if_true, if_false, Bool.false_eq_true,
      List.append_nil, List.cons_append, List.nil_append] <;> rfl

/-- The clock or the avatar covers the pixel completely. -/
def Covered (p : Pixel) : Prop :=
  avatarCoverage w h p = 1 ∨ clockCoverage t w h now p = 1

theorem lockLayers_congr {now' : ClockTime} (htime : now.strftime = now'.strftime) :
    lockLayers t w h now passwordLen showError = lockLayers t w h now' passwordLen showError := by
  have hclock : clockCoverage t w h now = clockCoverage t w h now' := by
    simp only [clockCoverage, htime]
  funext p
  simp only [lockLayers, hclock]

theorem masked_ofStraight_a (c : Coverage) (r g b a : ℚ) :
    (Rgba.masked (c : ℚ) (.ofStraight r g b a)).a = c * a :=
  rfl

theorem exists_opaque_layer {p : Pixel} (hp : Covered t w h now p) :
    ∃ layer ∈ lockLayers t w h now passwordLen showError p, layer.a = 1 := by
  rcases hp with hp | hp
  · refine ⟨Rgba.masked (avatarCoverage w h p : ℚ) (.ofStraight (2 / 5) (2 / 5) (2 / 5) 1),
      by simp [lockLayers], ?_⟩
    rw [masked_ofStraight_a, hp, Set.Icc.coe_one, one_mul]
  · refine ⟨Rgba.masked (clockCoverage t w h now p : ℚ) (.ofStraight 1 1 1 1),
      by simp [lockLayers], ?_⟩
    rw [masked_ofStraight_a, hp, Set.Icc.coe_one, one_mul]

theorem covered_of_opaque {p : Pixel}
    (hp : (drawLockUi t w h now 0 false .create p).a = 1) : Covered t w h now p := by
  rw [drawLockUi_apply, Rgba.paintAll_opaque_iff] at hp
  have hfield : (passwordFieldCoverage t w h p : ℚ) * (9 / 10) ≠ 1 := by
    have hle := (passwordFieldCoverage t w h p).2.2
    linarith
  obtain ⟨layer, hmem, ha⟩ | hp := hp
  · simp only [lockLayers, lt_irrefl, if_false, Bool.false_eq_true, List.append_nil,
      List.mem_cons, List.not_mem_nil, or_false] at hmem
    rcases hmem with rfl | rfl | rfl | rfl
    · exact absurd ha (by norm_num [Rgba.ofStraight])
    · exact .inr (Subtype.ext ((mul_one _).symm.trans ha))
    · exact .inl (Subtype.ext ((mul_one _).symm.trans ha))
    · exact absurd ha hfield
  · exact absurd hp zero_ne_one

end Layers

section Key

variable {s : ZenCompositor} {keysym : UInt32} {pressed : Bool}
  {pam : Nat → List UInt8 → Bool}

theorem zenLockDeactivate_locked (s : ZenCompositor) :
    (zenLockDeactivate s).lock.locked = false := by
  rcases hl : s.lock.locked with _ | _
  · simp [zenLockDeactivate, hl]
  · rw [zenLockDeactivate_lock hl]

theorem zenLockHandleKey_screen
    (hlocked : (zenLockHandleKey s keysym pressed pam).1.lock.locked = true) :
    ∃ showError, (zenLockHandleKey s keysym pressed pam).1.lock.screen =
      { s.lock.screen with showError } := by
  rw [zenLockHandleKey] at hlocked ⊢
  split
  · exact ⟨_, rfl⟩
  split
  · split <;> exact ⟨_, rfl⟩
  split
  next hsym =>
    rcases hpam : (pamAuthenticatePassword s pam).2 with _ | _
    · simp only [hpam, Bool.false_eq_true, if_false]
      exact ⟨_, rfl⟩
    · simp_all [zenLockDeactivate_locked]
  split
  · exact ⟨_, rfl⟩
  split
  · split <;> exact ⟨_, rfl⟩
  · exact ⟨_, rfl⟩

theorem zenLockHandleKey_of_not_renders
    (hlocked : (zenLockHandleKey s keysym pressed pam).1.lock.locked = true)
    (hrenders : rendersLockUi s keysym pressed pam = false) :
    (zenLockHandleKey s keysym pressed pam).1.lock.passwordLen = s.lock.passwordLen ∧
      (zenLockHandleKey s keysym pressed pam).1.lock.screen = s.lock.screen := by
  rw [zenLockHandleKey] at hlocked ⊢
  rw [rendersLockUi] at hrenders
  split
  · exact ⟨rfl, rfl⟩
  next hpressed =>
  rw [if_neg hpressed] at hlocked hrenders
  split
  next hsym =>
    have hempty : ¬ 0 < s.lock.passwordLen := by simpa [hsym] using hrenders
    rw [if_neg hempty]
    exact ⟨rfl, rfl⟩
  next hsym =>
  rw [if_neg hsym] at hlocked hrenders
  split
  next hreturn =>
    have hpam : (pamAuthenticatePassword s pam).2 = true := by simpa [hreturn] using hrenders
    simp [hreturn, hpam, zenLockDeactivate_locked] at hlocked
  next hreturn =>
  rw [if_neg hreturn] at hlocked hrenders
  split
  next hescape => simp [hescape] at hrenders
  next hescape =>
  rw [if_neg hescape] at hrenders
  split
  next hprint =>
    have hfull : ¬ s.lock.passwordLen < zenLockPassMax := by simpa [hprint] using hrenders
    rw [if_neg hfull]
    exact ⟨rfl, rfl⟩
  · exact ⟨rfl, rfl⟩

end Key

/-- The surface holds a frame of the current state, drawn over something. -/
structure ShowsState (t : Toolkit) (d : LockDisplay) : Prop where
  lockBuffer : d.screen.lockBuffer ≠ none
  width : 0 < d.screen.width
  height : 0 < d.screen.height
  frame : ∃ before, d.surface = drawLockUi t d.screen.width d.screen.height d.shown
    d.lock.passwordLen d.screen.showError before

section Session

variable {t : Toolkit} {now : ClockTime} {d : LockDisplay}

theorem renderLockUi_compositor : (renderLockUi t now d).compositor = d.compositor := by
  rw [renderLockUi]
  split <;> rfl

theorem renderLockUi_of_drawable (hbuffer : d.screen.lockBuffer ≠ none)
    (hw : 0 < d.screen.width) (hh : 0 < d.screen.height) :
    renderLockUi t now d =
      { d with
        surface := drawLockUi t d.screen.width d.screen.height now d.lock.passwordLen
          d.screen.showError d.surface
        shown := now } :=
  if_neg (by simp [hbuffer, hw, hh])

theorem renderLockUi_showsState (hbuffer : d.screen.lockBuffer ≠ none)
    (hw : 0 < d.screen.width) (hh : 0 < d.screen.height) :
    ShowsState t (renderLockUi t now d) := by
  rw [renderLockUi_of_drawable hbuffer hw hh]
  exact ⟨hbuffer, hw, hh, d.surface, rfl⟩

theorem zenLockActivate_screen {s : ZenCompositor} {bufferOk : Bool}
    (hunlocked : s.lock.locked = false)
    (hlocked : (zenLockActivate s bufferOk).lock.locked = true) :
    (zenLockActivate s bufferOk).lock.passwordLen = 0 ∧
      (zenLockActivate s bufferOk).lock.screen =
        { ZenLockScreen.zero with
          width := (lockBox s.outputLayout).width
          height := (lockBox s.outputLayout).height
          lockBuffer := some (lockBox s.outputLayout) } ∧
      0 < (lockBox s.outputLayout).width ∧ 0 < (lockBox s.outputLayout).height := by
  rcases hcreate : zenCairoBufferCreate (lockDimensions s.outputLayout).1
      (lockDimensions s.outputLayout).2 bufferOk with _ | _
  · simp [zenLockActivate, hunlocked, hcreate] at hlocked
  · have hsize := hcreate
    simp only [zenCairoBufferCreate, Bool.and_eq_true, decide_eq_true_eq] at hsize
    refine ⟨?_, ?_, hsize.1.1, hsize.1.2⟩ <;>
      simp [zenLockActivate, hunlocked, hcreate, lockBox, LockState.clearPassword]

theorem activateDisplay_eq {bufferOk : Bool} (hunlocked : d.lock.locked = false)
    (hlocked : (zenLockActivate d.compositor bufferOk).lock.locked = true) :
    activateDisplay t now d bufferOk =
      { compositor := zenLockActivate d.compositor bufferOk
        surface := drawLockUi t (lockBox d.compositor.outputLayout).width
          (lockBox d.compositor.outputLayout).height now 0 false .create
        shown := now } := by
  obtain ⟨hlen, hscreen, hw, hh⟩ := zenLockActivate_screen hunlocked hlocked
  have hrender : activateDisplay t now d bufferOk =
      renderLockUi t now
        { d with compositor := zenLockActivate d.compositor bufferOk, surface := .create } :=
    if_neg (by simp [hunlocked, hlocked])
  rw [hrender, renderLockUi_of_drawable]
  · simp only [LockDisplay.screen, LockDisplay.lock, hscreen, hlen]
    rfl
  · simp [LockDisplay.screen, hscreen]
  · simpa [LockDisplay.screen, hscreen] using hw
  · simpa [LockDisplay.screen, hscreen] using hh

theorem activateDisplay_locked {bufferOk : Bool}
    (hlocked : (activateDisplay t now d bufferOk).lock.locked = true) :
    (zenLockActivate d.compositor bufferOk).lock.locked = true := by
  rw [activateDisplay] at hlocked
  split at hlocked
  · exact hlocked
  · rwa [LockDisplay.lock, renderLockUi_compositor] at hlocked

theorem handleKeyDisplay_compositor (t : Toolkit) (now : ClockTime) (d : LockDisplay)
    (keysym : UInt32) (pressed : Bool) (pam : Nat → List UInt8 → Bool) :
    (handleKeyDisplay t now d keysym pressed pam).compositor =
      (zenLockHandleKey d.compositor keysym pressed pam).1 := by
  rw [handleKeyDisplay]
  split
  · exact renderLockUi_compositor
  · rfl

theorem activateDisplay_showsState {bufferOk : Bool} (hunlocked : d.lock.locked = false)
    (hlocked : (activateDisplay t now d bufferOk).lock.locked = true) :
    ShowsState t (activateDisplay t now d bufferOk) := by
  have hs := activateDisplay_locked hlocked
  obtain ⟨hlen, hscreen, hw, hh⟩ := zenLockActivate_screen hunlocked hs
  rw [activateDisplay_eq hunlocked hs]
  constructor <;> simp only [LockDisplay.screen, LockDisplay.lock, hscreen, hlen]
  · exact Option.some_ne_none _
  · exact hw
  · exact hh
  · exact ⟨.create, rfl⟩

theorem ShowsState.handleKey {keysym : UInt32} {pressed : Bool} {pam : Nat → List UInt8 → Bool}
    (hd : ShowsState t d)
    (hlocked : (handleKeyDisplay t now d keysym pressed pam).lock.locked = true) :
    ShowsState t (handleKeyDisplay t now d keysym pressed pam) := by
  have hs : (zenLockHandleKey d.compositor keysym pressed pam).1.lock.locked = true := by
    rw [← handleKeyDisplay_compositor t now]
    exact hlocked
  rw [handleKeyDisplay]
  rcases hrenders : rendersLockUi d.compositor keysym pressed pam with _ | _
  · obtain ⟨hlen, hscreen⟩ := zenLockHandleKey_of_not_renders hs hrenders
    simp only [Bool.false_eq_true, if_false]
    obtain ⟨before, hframe⟩ := hd.frame
    constructor <;> simp only [LockDisplay.lock, LockDisplay.screen, hlen, hscreen]
    · exact hd.lockBuffer
    · exact hd.width
    · exact hd.height
    · exact ⟨before, hframe⟩
  · obtain ⟨showError, hscreen⟩ := zenLockHandleKey_screen hs
    simp only [if_true]
    apply renderLockUi_showsState <;> simp only [LockDisplay.screen, hscreen]
    · exact hd.lockBuffer
    · exact hd.width
    · exact hd.height

theorem LockSession.showsState (hd : LockSession t d) : ShowsState t d := by
  induction hd with
  | activate hunlocked hlocked => exact activateDisplay_showsState hunlocked hlocked
  | key _ hlocked ih => exact ih.handleKey hlocked

end Session

/-- A freshly started compositor with one output. -/
def freshDisplay (now : ClockTime) (w h : Int) : LockDisplay :=
  let output : Output :=
    { id := 0, enabled := true, width := w, height := h, transposed := false, scale := 1
      x := 0, y := 0 }
  { compositor := created [output] [] true, surface := .create, shown := now }

theorem activateDisplay_fresh (t : Toolkit) (now : ClockTime) {w h : Int} (hw : 0 < w)
    (hh : 0 < h) :
    let d := activateDisplay t now (freshDisplay now w h) true
    LockSession t d ∧ d.screen.width = w ∧ d.screen.height = h ∧
      d.surface = drawLockUi t w h now 0 false .create := by
  have hbox : lockBox (freshDisplay now w h).compositor.outputLayout = ⟨0, 0, w, h⟩ := by
    simp [freshDisplay, created, lockBox, lockDimensions, hw]
  have hlocked : (zenLockActivate (freshDisplay now w h).compositor true).lock.locked = true := by
    refine (zenLockActivate_locks rfl ?_).1
    simp [hbox, zenCairoBufferCreate, hw, hh]
  have hframe : activateDisplay t now (freshDisplay now w h) true = _ :=
    activateDisplay_eq rfl hlocked
  obtain ⟨-, hscreen, -, -⟩ := zenLockActivate_screen rfl hlocked
  rw [hbox] at hframe hscreen
  refine ⟨.activate rfl ?_, ?_, ?_, ?_⟩ <;> rw [hframe]
  · exact hlocked
  · exact congrArg ZenLockScreen.width hscreen
  · exact congrArg ZenLockScreen.height hscreen

/-- The desktop is hidden when the clock and the avatar cover every pixel completely. -/
theorem hidesDesktop_iff (t : Toolkit) (w h : Int) :
    HidesDesktop t w h ↔ ∀ now p, InBuffer w h p → Covered t w h now p := by
  constructor
  · intro hhides now p hp
    have hw : 0 < w := hp.1.trans_lt hp.2.1
    have hh : 0 < h := hp.2.2.1.trans_lt hp.2.2.2
    obtain ⟨hsession, hwidth, hheight, hsurface⟩ := activateDisplay_fresh t now hw hh
    have ha := hhides.opaque_frame _ hsession hwidth hheight p hp
    rw [hsurface] at ha
    exact covered_of_opaque t w h now ha
  · intro hcovered
    refine ⟨?_, ?_⟩
    · rintro d hd rfl rfl p hp
      obtain ⟨before, hframe⟩ := hd.showsState.frame
      rw [hframe, drawLockUi_apply, Rgba.paintAll_opaque_iff]
      exact .inl (exists_opaque_layer _ _ _ _ _ _ (hcovered d.shown p hp))
    · rintro d d' hd hd' rfl rfl hw' hh' hshown hlen herror p hp
      obtain ⟨before, hframe⟩ := hd.showsState.frame
      obtain ⟨before', hframe'⟩ := hd'.showsState.frame
      rw [hframe, hframe', hw', hh', ← hlen, ← herror, drawLockUi_apply, drawLockUi_apply,
        ← lockLayers_congr _ _ _ _ _ _ hshown]
      have hopaque := exists_opaque_layer t d.screen.width d.screen.height d.shown
        d.lock.passwordLen d.screen.showError (hcovered d.shown p hp)
      exact (Rgba.paintAll_of_opaque (before p) hopaque).trans
        (Rgba.paintAll_of_opaque (before' p) hopaque).symm

/-- Every character is a filled cell, and no corner is rounded. -/
def cellToolkit : Toolkit where
  getPixelSize _ text := (10 * text.length, 20)
  showLayout _ text x y := fillRectangle x y (10 * text.length) 20
  fill path := fun p =>
    let arcs := path.filterMap fun
      | .arc xc yc radius _ _ => some (xc, yc, radius)
      | _ => none
    let x : ℚ := p.1
    let y : ℚ := p.2
    if (∃ c ∈ arcs, c.1 - c.2.2 ≤ x) ∧ (∃ c ∈ arcs, x + 1 ≤ c.1 + c.2.2) ∧
        (∃ c ∈ arcs, c.2.1 - c.2.2 ≤ y) ∧ (∃ c ∈ arcs, y + 1 ≤ c.2.1 + c.2.2) then 1
    else 0

/-- The corner of the desktop shines through the first frame, and it gets darker with
every Escape. -/
theorem corner_shines_through :
    let noon : ClockTime := ⟨12, 0⟩
    let d := activateDisplay cellToolkit noon (freshDisplay noon 1920 1080) true
    let d' := handleKeyDisplay cellToolkit noon d keyEscape true fun _ _ => false
    d'.lock.passwordLen = d.lock.passwordLen ∧ d'.screen.showError = d.screen.showError ∧
      (d.surface (0, 0)).a = 17 / 20 ∧ (d'.surface (0, 0)).a = 391 / 400 ∧
      ¬ HidesDesktop cellToolkit 1920 1080 := by
  refine ⟨by decide +kernel, by decide +kernel, by decide +kernel, by decide +kernel, ?_⟩
  intro hhides
  obtain ⟨hsession, hwidth, hheight, -⟩ :=
    activateDisplay_fresh cellToolkit ⟨12, 0⟩ (w := 1920) (h := 1080) (by decide) (by decide)
  have ha := hhides.opaque_frame _ hsession hwidth hheight (0, 0) (by decide)
  revert ha
  decide +kernel

end ZenOS.Compositor
