import ZenOS.Compositor.Step
import ZenOS.Library.Runs
import ZenOS.Lifecycle.State

/-!
The capabilities of the seat.  `handle_new_input` computes them from the keyboard records
when a device is attached, and no handler computes them when a device goes away.
-/

namespace ZenOS.Compositor

open ZenOS.Library.Runs
open ZenOS.Lifecycle (DeviceType)

def wlSeatCapabilityPointer : UInt32 := 1

def wlSeatCapabilityKeyboard : UInt32 := 2

def wlSeatCapabilityTouch : UInt32 := 4

def hasCapability (mask capability : UInt32) : Bool :=
  mask &&& capability != 0

/-- `struct wlr_input_device`; a keyboard's record bears its device's number. -/
structure InputDevice where
  id : KeyboardId
  type : DeviceType
  deriving DecidableEq

/-- The compositor with the devices of the backend and `seat->capabilities`. -/
structure InputSeat where
  compositor : ZenCompositor
  devices : List InputDevice
  capabilities : UInt32

inductive DeviceEvent where
  | attach (device : InputDevice) (ok : Bool)
  | detach (id : KeyboardId)

namespace InputSeat

/-- The end of `handle_new_input`: update the capabilities. -/
def updateCapabilities (p : InputSeat) : InputSeat :=
  let caps := wlSeatCapabilityPointer
  let caps :=
    if !p.compositor.keyboards.isEmpty then caps ||| wlSeatCapabilityKeyboard else caps
  { p with capabilities := caps }

/-- `handle_new_input`; `ok` says whether a keyboard's record can be allocated. -/
def handleNewInput (p : InputSeat) (device : InputDevice) (ok : Bool) : InputSeat :=
  match device.type with
  | .keyboard =>
      if ok then
        updateCapabilities
          { p with compositor := handleNewKeyboard p.compositor device.id true }
      else p
  | _ => updateCapabilities p

/-- A device goes away: a keyboard with a record has a listener for it, the other devices
have none. -/
def handleDeviceDestroy (p : InputSeat) (id : KeyboardId) : InputSeat :=
  if id ∈ p.compositor.keyboards then
    { p with compositor := handleKeyboardDestroy p.compositor id }
  else p

def stepDevice (p : InputSeat) : DeviceEvent → InputSeat
  | .attach device ok => handleNewInput { p with devices := device :: p.devices } device ok
  | .detach id =>
      handleDeviceDestroy
        { p with devices := p.devices.filter fun device => device.id ≠ id } id

def attached (p : InputSeat) (type : DeviceType) : Bool :=
  p.devices.any fun device => device.type = type

/-- Pointers and touch devices drive the cursor. -/
def pointing (p : InputSeat) : Bool :=
  p.attached .pointer || p.attached .touch

/-- The capabilities are those of the attached devices. -/
structure Reflects (p : InputSeat) : Prop where
  keyboard : hasCapability p.capabilities wlSeatCapabilityKeyboard = p.attached .keyboard
  pointer : hasCapability p.capabilities wlSeatCapabilityPointer = p.pointing
  touch : hasCapability p.capabilities wlSeatCapabilityTouch = p.attached .touch

/-- A new device has an unused number, and an attached one goes away. -/
def DeviceAdmissible (p : InputSeat) : DeviceEvent → Prop
  | .attach device _ => ∀ other ∈ p.devices, other.id ≠ device.id
  | .detach id => ∃ device ∈ p.devices, device.id = id

instance (p : InputSeat) : ∀ e, Decidable (p.DeviceAdmissible e)
  | .attach device _ =>
      inferInstanceAs (Decidable (∀ other ∈ p.devices, other.id ≠ device.id))
  | .detach id => inferInstanceAs (Decidable (∃ device ∈ p.devices, device.id = id))

/-- No touch device is attached, the last keyboard and the last pointer stay, and what is
attached finds a pointer, and a record of some keyboard if there is a keyboard.  A keyboard
whose record cannot be allocated is not the first. -/
def KeepsUp (p : InputSeat) : DeviceEvent → Prop
  | .attach { type := .keyboard, .. } true => p.pointing = true
  | .attach { type := .keyboard, .. } false => p.attached .keyboard = true
  | .attach { type := .pointer, .. } _ =>
      p.attached .keyboard = true → p.compositor.keyboards ≠ []
  | .attach { type := .touch, .. } _ => False
  | .attach _ _ =>
      p.pointing = true ∧ (p.attached .keyboard = true → p.compositor.keyboards ≠ [])
  | .detach id =>
      let remaining := { p with devices := p.devices.filter fun device => device.id ≠ id }
      (p.attached .keyboard = true → remaining.attached .keyboard = true) ∧
        (p.pointing = true → remaining.pointing = true)

section Steps

variable (p : InputSeat)

theorem hasCapability_mask : ∀ records : Bool,
    let caps :=
      if records then wlSeatCapabilityPointer ||| wlSeatCapabilityKeyboard
      else wlSeatCapabilityPointer
    hasCapability caps wlSeatCapabilityPointer = true ∧
      hasCapability caps wlSeatCapabilityKeyboard = records ∧
      hasCapability caps wlSeatCapabilityTouch = false := by
  decide

@[simp] theorem updateCapabilities_pointer :
    hasCapability p.updateCapabilities.capabilities wlSeatCapabilityPointer = true :=
  (hasCapability_mask (!p.compositor.keyboards.isEmpty)).1

@[simp] theorem updateCapabilities_keyboard :
    hasCapability p.updateCapabilities.capabilities wlSeatCapabilityKeyboard =
      !p.compositor.keyboards.isEmpty :=
  (hasCapability_mask (!p.compositor.keyboards.isEmpty)).2.1

@[simp] theorem updateCapabilities_touch :
    hasCapability p.updateCapabilities.capabilities wlSeatCapabilityTouch = false :=
  (hasCapability_mask (!p.compositor.keyboards.isEmpty)).2.2

theorem updateCapabilities_reflects :
    p.updateCapabilities.Reflects ↔
      (!p.compositor.keyboards.isEmpty) = p.attached .keyboard ∧ p.pointing = true ∧
        p.attached .touch = false := by
  constructor
  · rintro ⟨hkeyboard, hpointer, htouch⟩
    rw [updateCapabilities_keyboard] at hkeyboard
    rw [updateCapabilities_pointer] at hpointer
    rw [updateCapabilities_touch] at htouch
    exact ⟨hkeyboard, hpointer.symm, htouch.symm⟩
  · rintro ⟨hkeyboard, hpointer, htouch⟩
    refine ⟨?_, ?_, ?_⟩
    · rw [updateCapabilities_keyboard, hkeyboard]
      rfl
    · rw [updateCapabilities_pointer, ← hpointer]
      rfl
    · rw [updateCapabilities_touch, ← htouch]
      rfl

@[simp] theorem handleNewKeyboard_keyboards (s : ZenCompositor) (k : KeyboardId) :
    (handleNewKeyboard s k true).keyboards = k :: s.keyboards := by
  rw [handleNewKeyboard, if_pos rfl, wlrSeatSetKeyboard]
  split <;> rfl

@[simp] theorem attached_cons (device : InputDevice) (type : DeviceType) :
    attached { p with devices := device :: p.devices } type =
      (decide (device.type = type) || p.attached type) :=
  List.any_cons

theorem attached_of_filter {id : KeyboardId} {type : DeviceType}
    (h : attached { p with devices := p.devices.filter fun device => device.id ≠ id } type
      = true) : p.attached type = true := by
  rw [attached, List.any_eq_true] at h ⊢
  obtain ⟨device, hmem, htype⟩ := h
  exact ⟨device, (List.mem_filter.mp hmem).1, htype⟩

theorem pointing_of_filter {id : KeyboardId}
    (h : pointing { p with devices := p.devices.filter fun device => device.id ≠ id }
      = true) : p.pointing = true := by
  rw [pointing, Bool.or_eq_true] at h ⊢
  exact h.imp (attached_of_filter p) (attached_of_filter p)

end Steps

/-- The records are of attached keyboards, and touch is never announced. -/
structure Recorded (p : InputSeat) : Prop where
  nodup : p.compositor.keyboards.Nodup
  device : ∀ k ∈ p.compositor.keyboards, { id := k, type := .keyboard } ∈ p.devices
  silent : hasCapability p.capabilities wlSeatCapabilityTouch = false

section Steps

variable {p : InputSeat}

theorem Recorded.isEmpty_eq (h : p.Recorded) :
    (!p.compositor.keyboards.isEmpty) = p.attached .keyboard ↔
      (p.attached .keyboard = true → p.compositor.keyboards ≠ []) := by
  cases hkeyboards : p.compositor.keyboards with
  | nil => cases p.attached .keyboard <;> simp
  | cons k keyboards =>
      have hmem := h.device k (hkeyboards ▸ List.mem_cons_self)
      have hattached : p.attached .keyboard = true :=
        List.any_eq_true.mpr ⟨_, hmem, decide_eq_true rfl⟩
      simp [hattached]

theorem Recorded.update (h : p.Recorded) : p.updateCapabilities.Recorded :=
  ⟨h.nodup, h.device, updateCapabilities_touch p⟩

theorem Recorded.step {e : DeviceEvent} (h : p.Recorded) (he : p.DeviceAdmissible e) :
    (p.stepDevice e).Recorded := by
  cases e with
  | attach device ok =>
      have harrive : Recorded { p with devices := device :: p.devices } :=
        ⟨h.nodup, fun k hk => List.mem_cons_of_mem device (h.device k hk), h.silent⟩
      obtain ⟨id, type⟩ := device
      cases type with
      | keyboard =>
          cases ok with
          | false => exact harrive
          | true =>
              refine Recorded.update ⟨?_, ?_, h.silent⟩
              · rw [handleNewKeyboard_keyboards]
                refine List.nodup_cons.mpr ⟨fun hmem => ?_, h.nodup⟩
                exact he _ (h.device id hmem) rfl
              · rw [handleNewKeyboard_keyboards]
                intro k hk
                rcases List.mem_cons.mp hk with rfl | hk
                · exact List.mem_cons_self
                · exact List.mem_cons_of_mem _ (h.device k hk)
      | _ => exact harrive.update
  | detach id =>
      have hother : ∀ k ∈ p.compositor.keyboards, k ≠ id →
          { id := k, type := .keyboard } ∈ p.devices.filter fun device => device.id ≠ id :=
        fun k hk hne => List.mem_filter.mpr ⟨h.device k hk, decide_eq_true hne⟩
      rw [stepDevice, handleDeviceDestroy]
      split
      · refine ⟨h.nodup.erase id, fun k hk => ?_, h.silent⟩
        have hne : k ≠ id := by
          rintro rfl
          exact h.nodup.not_mem_erase hk
        exact hother k (List.mem_of_mem_erase hk) hne
      · next hmem =>
        refine ⟨h.nodup, fun k hk => hother k hk ?_, h.silent⟩
        rintro rfl
        exact hmem hk

theorem Reflects.no_touch (hp : p.Reflects) (h : p.Recorded) : p.attached .touch = false :=
  hp.touch.symm.trans h.silent

theorem Reflects.attach_keyboard (hp : p.Reflects) (h : p.Recorded) (id : KeyboardId)
    (ok : Bool) :
    (p.stepDevice (.attach { id, type := .keyboard } ok)).Reflects ↔
      if ok then p.pointing = true else p.attached .keyboard = true := by
  have htouch := hp.no_touch h
  cases ok with
  | true =>
      rw [if_pos rfl]
      rw [stepDevice, handleNewInput]
      dsimp only
      rw [if_pos rfl, updateCapabilities_reflects]
      constructor
      · exact fun hreflects => hreflects.2.1
      · intro hpointing
        refine ⟨?_, hpointing, htouch⟩
        rw [handleNewKeyboard_keyboards]
        rfl
  | false =>
      rw [if_neg Bool.false_ne_true]
      change Reflects { p with devices := { id, type := .keyboard } :: p.devices } ↔ _
      constructor
      · intro hreflects
        exact hp.keyboard.symm.trans hreflects.keyboard
      · intro hkeyboard
        refine ⟨?_, hp.pointer, hp.touch⟩
        exact hp.keyboard.trans hkeyboard

theorem Reflects.attach_recordless (hp : p.Reflects) (h : p.Recorded) {device : InputDevice}
    (ok : Bool) (hkeyboard : device.type ≠ .keyboard) (htouch : device.type ≠ .touch) :
    (p.stepDevice (.attach device ok)).Reflects ↔
      (device.type = .pointer ∨ p.pointing = true) ∧
        (p.attached .keyboard = true → p.compositor.keyboards ≠ []) := by
  have hnone := hp.no_touch h
  have hstep : p.stepDevice (.attach device ok) =
      updateCapabilities { p with devices := device :: p.devices } := by
    obtain ⟨id, type⟩ := device
    cases type with
    | keyboard => exact absurd rfl hkeyboard
    | _ => rfl
  rw [hstep, updateCapabilities_reflects, attached_cons, attached_cons, pointing, attached_cons,
    attached_cons, decide_eq_false hkeyboard, decide_eq_false htouch, ← h.isEmpty_eq]
  simp only [Bool.false_or, pointing, hnone, Bool.or_false, Bool.or_eq_true,
    decide_eq_true_eq, and_true]
  exact and_comm

theorem not_reflects_attach_touch (id : KeyboardId) (ok : Bool) :
    ¬ (p.stepDevice (.attach { id, type := .touch } ok)).Reflects := by
  intro hreflects
  have hannounced := hreflects.touch
  change hasCapability (updateCapabilities _).capabilities wlSeatCapabilityTouch = _ at hannounced
  rw [updateCapabilities_touch] at hannounced
  cases hannounced

theorem Reflects.detach (hp : p.Reflects) (h : p.Recorded) (id : KeyboardId) :
    (p.stepDevice (.detach id)).Reflects ↔ p.KeepsUp (.detach id) := by
  have hnone := hp.no_touch h
  have hstep : (p.stepDevice (.detach id)).Reflects ↔
      Reflects { p with devices := p.devices.filter fun device => device.id ≠ id } := by
    rw [stepDevice, handleDeviceDestroy]
    split
    · exact ⟨fun ⟨hk, hp, ht⟩ => ⟨hk, hp, ht⟩, fun ⟨hk, hp, ht⟩ => ⟨hk, hp, ht⟩⟩
    · rfl
  rw [hstep]
  constructor
  · intro hreflects
    refine ⟨fun hkeyboard => ?_, fun hpointing => ?_⟩
    · exact hreflects.keyboard.symm.trans (hp.keyboard.trans hkeyboard)
    · exact hreflects.pointer.symm.trans (hp.pointer.trans hpointing)
  · rintro ⟨hkeyboard, hpointing⟩
    refine ⟨?_, ?_, ?_⟩
    · refine hp.keyboard.trans (Bool.eq_iff_iff.mpr ⟨hkeyboard, attached_of_filter p⟩)
    · exact hp.pointer.trans (Bool.eq_iff_iff.mpr ⟨hpointing, pointing_of_filter p⟩)
    · refine h.silent.trans ?_
      cases hremains : attached _ .touch with
      | false => rfl
      | true =>
          have := attached_of_filter p hremains
          rw [hnone] at this
          cases this

theorem Reflects.step_iff (hp : p.Reflects) (h : p.Recorded) (e : DeviceEvent) :
    (p.stepDevice e).Reflects ↔ p.KeepsUp e := by
  cases e with
  | attach device ok =>
      obtain ⟨id, type⟩ := device
      cases type with
      | keyboard =>
          refine (hp.attach_keyboard h id ok).trans ?_
          cases ok <;> rfl
      | pointer =>
          refine (hp.attach_recordless h ok (by rintro ⟨⟩) (by rintro ⟨⟩)).trans ?_
          exact and_iff_right (.inl rfl)
      | touch => exact iff_of_false (not_reflects_attach_touch id ok) fun hfalse => hfalse
      | tablet | tabletPad | switch =>
          refine (hp.attach_recordless h ok (by rintro ⟨⟩) (by rintro ⟨⟩)).trans ?_
          refine and_congr_left' (or_iff_right ?_)
          rintro ⟨⟩
  | detach id => exact hp.detach h id

end Steps

/-- The state `zen_input_init` leaves: a seat without capabilities. -/
def initial (s : ZenCompositor) : InputSeat :=
  { compositor := { s with keyboards := [] }, devices := [], capabilities := 0 }

/-- The capabilities are right after every step of a run exactly when every step finds the
devices that it takes for granted. -/
theorem run_reflects_iff (s : ZenCompositor) (events : List DeviceEvent)
    (h : Along stepDevice DeviceAdmissible (initial s) events) :
    Along stepDevice (fun p e => (p.stepDevice e).Reflects) (initial s) events ↔
      Along stepDevice KeepsUp (initial s) events := by
  refine along_iff_along (I := fun p => p.Recorded ∧ p.Reflects)
    (fun p e hp he hreflects => ⟨hp.1.step he, hreflects⟩)
    (fun p e hp _ => hp.2.step_iff hp.1 e) h ⟨⟨List.nodup_nil, ?_, ?_⟩, ⟨?_, ?_, ?_⟩⟩
  · rintro k ⟨⟩
  all_goals
    change hasCapability 0 _ = false
    decide

/-- A pointer, then a keyboard that comes and goes beside another. -/
theorem run_reflects_iff_two_keyboards :
    let p := initial (created [] [] true)
    let events : List DeviceEvent :=
      [.attach ⟨1, .pointer⟩ true, .attach ⟨2, .keyboard⟩ true, .attach ⟨3, .keyboard⟩ true,
        .detach 2]
    Along stepDevice (fun p e => (p.stepDevice e).Reflects) p events ↔
      Along stepDevice KeepsUp p events :=
  run_reflects_iff (created [] [] true) _ (by decide +kernel)

/-- A seat with a keyboard alone announces a pointer, a touch device is not announced, and
a keyboard that is gone still is. -/
theorem capabilities_of_absent_devices :
    let p := initial (created [] [] true)
    let after (events : List DeviceEvent) := exec stepDevice p events
    let keyboard : List DeviceEvent := [.attach ⟨1, .keyboard⟩ true]
    let touch : List DeviceEvent := [.attach ⟨1, .touch⟩ true]
    let removed : List DeviceEvent :=
      [.attach ⟨1, .pointer⟩ true, .attach ⟨2, .keyboard⟩ true, .detach 2]
    (Along stepDevice DeviceAdmissible p keyboard ∧
        hasCapability (after keyboard).capabilities wlSeatCapabilityPointer = true ∧
        ¬ (after keyboard).Reflects) ∧
      (Along stepDevice DeviceAdmissible p touch ∧
        hasCapability (after touch).capabilities wlSeatCapabilityTouch = false ∧
        ¬ (after touch).Reflects) ∧
      Along stepDevice DeviceAdmissible p removed ∧
        hasCapability (after removed).capabilities wlSeatCapabilityKeyboard = true ∧
        ¬ (after removed).Reflects := by
  intro p after keyboard touch removed
  refine ⟨⟨by decide +kernel, by decide +kernel, fun h => ?_⟩,
    ⟨by decide +kernel, by decide +kernel, fun h => ?_⟩,
    by decide +kernel, by decide +kernel, fun h => ?_⟩
  · have hpointer := h.pointer
    revert hpointer
    decide +kernel
  · have htouch := h.touch
    revert htouch
    decide +kernel
  · have hkeyboard := h.keyboard
    revert hkeyboard
    decide +kernel

end InputSeat

end ZenOS.Compositor
