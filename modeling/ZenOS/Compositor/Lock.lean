import ZenOS.Compositor.Wlroots
import ZenOS.Library.CString

/-!
`lock.c`: the lock screen.  Rendering is left out; of the Cairo buffer only the
box of its scene node is kept.
-/

namespace ZenOS.Compositor

open ZenOS.Library.CString

def ZenLockScreen.zero : ZenLockScreen :=
  { wlrLock := none, lockBuffer := none, width := 0, height := 0, showError := false }

def LockState.clearPassword (l : LockState) : LockState :=
  { l with password := Vector.replicate (zenLockPassMax + 1) 0, passwordLen := 0 }

/-- The parent of overlay buffers: `shell_overlay_tree`, else the root. -/
def overlayParent (s : ZenCompositor) : SceneNode :=
  if s.shellOverlayTree then .shellOverlayTree else .root

/-- The size `zen_lock_activate` takes from the output layout. -/
def lockDimensions (layout : List Output) : Int × Int :=
  match layout with
  | [] => (1920, 1080)
  | o :: layout => if 0 < o.width then (o.width, o.height) else lockDimensions layout

/-- `zen_cairo_buffer_create` returns 0; `bufferOk` says whether every allocation
in it succeeds. -/
def zenCairoBufferCreate (width height : Int) (bufferOk : Bool) : Bool :=
  0 < width && 0 < height && bufferOk

def zenLockActivate (s : ZenCompositor) (bufferOk : Bool) : ZenCompositor :=
  if s.lock.locked then s
  else
    let (outW, outH) := lockDimensions s.outputLayout
    let screen := { ZenLockScreen.zero with width := outW, height := outH }
    let lock := { s.lock.clearPassword with screen }
    if zenCairoBufferCreate outW outH bufferOk then
      { s with
        lock := { lock with
          locked := true
          screen := { screen with
            lockBuffer := some { x := 0, y := 0, width := outW, height := outH } } }
        scene := s.scene.create (overlayParent s) .lockBuffer }
    else
      { s with lock := { lock with locked := false } }

def zenLockDeactivate (s : ZenCompositor) : ZenCompositor :=
  if !s.lock.locked then s
  else
    let s : ZenCompositor := match s.lock.screen.lockBuffer with
      | some _ => { s with scene := s.scene.destroy (overlayParent s) .lockBuffer }
      | none => s
    let s : ZenCompositor := match s.lock.screen.wlrLock with
      | some lock => { s with calls := s.calls ++ [.sessionLockDestroy lock] }
      | none => s
    let s : ZenCompositor := { s with lock := { s.lock.clearPassword with
      locked := false, activeLock := none, screen := ZenLockScreen.zero } }
    if s.lock.idleTimer then
      { s with calls := s.calls ++ [.timerUpdate zenLockIdleTimeoutMs] }
    else s

/-- `pam_authenticate_password`: `pam` answers the attempt of a given number. -/
def pamAuthenticatePassword (s : ZenCompositor) (pam : Nat → List UInt8 → Bool) :
    ZenCompositor × Bool :=
  let password := cString s.lock.password
  let success := pam s.lock.pamAttempts password
  ({ s with
     lock := { s.lock with pamAttempts := s.lock.pamAttempts + 1 }
     calls := s.calls ++ [.pamAuthenticate password success] }, success)

def keyBackSpace : UInt32 := 0xff08

def keyReturn : UInt32 := 0xff0d

def keyKPEnter : UInt32 := 0xff8d

def keyEscape : UInt32 := 0xff1b

/-- `zen_lock_handle_key`; the Boolean says whether the key is consumed. -/
def zenLockHandleKey (s : ZenCompositor) (keysym : UInt32) (pressed : Bool)
    (pam : Nat → List UInt8 → Bool) : ZenCompositor × Bool :=
  if !s.lock.locked || !pressed then (s, s.lock.locked)
  else if keysym = keyBackSpace then
    if 0 < s.lock.passwordLen then
      let len := s.lock.passwordLen - 1
      ({ s with lock := { s.lock with
          passwordLen := len
          password := s.lock.password.setIfInBounds len 0
          screen := { s.lock.screen with showError := false } } }, true)
    else (s, true)
  else if keysym = keyReturn ∨ keysym = keyKPEnter then
    let (s, success) := pamAuthenticatePassword s pam
    if success then (zenLockDeactivate s, true)
    else
      ({ s with lock := { s.lock.clearPassword with
          screen := { s.lock.screen with showError := true } } }, true)
  else if keysym = keyEscape then
    ({ s with lock := { s.lock.clearPassword with
        screen := { s.lock.screen with showError := false } } }, true)
  else if 0x20 ≤ keysym ∧ keysym ≤ 0x7e then
    if s.lock.passwordLen < zenLockPassMax then
      let len := s.lock.passwordLen
      let password := s.lock.password.setIfInBounds len (keysym &&& 0xff).toUInt8
      ({ s with lock := { s.lock with
          passwordLen := len + 1
          password := password.setIfInBounds (len + 1) 0
          screen := { s.lock.screen with showError := false } } }, true)
    else (s, true)
  else (s, true)

def idleTimeoutCb (s : ZenCompositor) (bufferOk : Bool) : ZenCompositor :=
  zenLockActivate s bufferOk

def lockSignalCb (s : ZenCompositor) (bufferOk : Bool) : ZenCompositor :=
  zenLockActivate s bufferOk

def handleNewLock (s : ZenCompositor) (lock : SessionLockId) : ZenCompositor :=
  { s with calls := s.calls ++ [.sendLocked lock] }

end ZenOS.Compositor
