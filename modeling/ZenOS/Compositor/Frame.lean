import ZenOS.Compositor.Step

/-!
What each source file writes.  Every handler belongs to one of four owners and
changes the fields of its owner, the scene and the call log; all else is framed.
-/

namespace ZenOS.Compositor

/-- `desktop` is `xdg.c` and `input.c`; `lock` is `lock.c` and `keybinds.c`. -/
inductive Owner where
  | desktop
  | layers
  | outputs
  | lock
  deriving DecidableEq

/-- `s'` differs from `s` only in what an owner may write. -/
def Writes : Owner → ZenCompositor → ZenCompositor → Prop
  | .desktop, s, s' => ∃ windows seat cursorX cursorY keyboards keycodes modifiers scene calls,
      s' = { s with
        windows, seat, cursorX, cursorY, keyboards, keycodes, modifiers, scene, calls }
  | .layers, s, s' => ∃ layerSurfaces scene calls,
      s' = { s with layerSurfaces, scene, calls }
  | .outputs, s, s' => ∃ outputLayout scene wallpaperTree wallpaperState testOverlay,
      s' = { s with outputLayout, scene, wallpaperTree, wallpaperState, testOverlay }
  | .lock, s, s' => ∃ lock scene keycodes calls, s' = { s with lock, scene, keycodes, calls }

def Event.owner : Event → Owner
  | .newLayerSurface .. | .layerCommit _ | .layerMap _ | .layerUnmap _
  | .layerDestroy _ => .layers
  | .newOutput .. | .outputRequestState .. | .outputDestroy .. | .wallpaperInit ..
  | .wallpaperDestroy => .outputs
  | .key .. | .idleTimeout _ | .lockSignal _ | .newLock _ => .lock
  | _ => .desktop

theorem Writes.refl (o : Owner) (s : ZenCompositor) : Writes o s s := by
  cases o
  · exact ⟨_, _, _, _, _, _, _, _, _, rfl⟩
  · exact ⟨_, _, _, rfl⟩
  · exact ⟨_, _, _, _, _, rfl⟩
  · exact ⟨_, _, _, _, rfl⟩

theorem Writes.trans {o : Owner} {s s' s'' : ZenCompositor} (h : Writes o s s')
    (h' : Writes o s' s'') : Writes o s s'' := by
  cases o with
  | desktop =>
      obtain ⟨_, _, _, _, _, _, _, _, _, rfl⟩ := h
      obtain ⟨_, _, _, _, _, _, _, _, _, rfl⟩ := h'
      exact ⟨_, _, _, _, _, _, _, _, _, rfl⟩
  | layers =>
      obtain ⟨_, _, _, rfl⟩ := h
      obtain ⟨_, _, _, rfl⟩ := h'
      exact ⟨_, _, _, rfl⟩
  | outputs =>
      obtain ⟨_, _, _, _, _, rfl⟩ := h
      obtain ⟨_, _, _, _, _, rfl⟩ := h'
      exact ⟨_, _, _, _, _, rfl⟩
  | lock =>
      obtain ⟨_, _, _, _, rfl⟩ := h
      obtain ⟨_, _, _, _, rfl⟩ := h'
      exact ⟨_, _, _, _, rfl⟩

theorem zenLockActivate_writes (s : ZenCompositor) (bufferOk : Bool) :
    Writes .lock s (zenLockActivate s bufferOk) := by
  rw [zenLockActivate]
  split
  · exact .refl _ s
  · dsimp only
    split <;> exact ⟨_, _, _, _, rfl⟩

theorem zenLockDeactivate_writes (s : ZenCompositor) :
    Writes .lock s (zenLockDeactivate s) := by
  rw [zenLockDeactivate]
  split
  · exact .refl _ s
  · dsimp only
    split <;> split <;> split <;> exact ⟨_, _, _, _, rfl⟩

theorem pamAuthenticatePassword_writes (s : ZenCompositor)
    (pam : Nat → List UInt8 → Bool) :
    Writes .lock s (pamAuthenticatePassword s pam).1 :=
  ⟨_, _, _, _, rfl⟩

theorem zenLockHandleKey_writes (s : ZenCompositor) (keysym : UInt32) (pressed : Bool)
    (pam : Nat → List UInt8 → Bool) :
    Writes .lock s (zenLockHandleKey s keysym pressed pam).1 := by
  rw [zenLockHandleKey]
  split
  · exact .refl _ s
  split
  · split <;> exact ⟨_, _, _, _, rfl⟩
  split
  · have ask := pamAuthenticatePassword_writes s pam
    generalize pamAuthenticatePassword s pam = answer at ask ⊢
    obtain ⟨s', success⟩ := answer
    cases success
    · exact ask.trans ⟨_, _, _, _, rfl⟩
    · exact ask.trans (zenLockDeactivate_writes s')
  split
  · exact ⟨_, _, _, _, rfl⟩
  split
  · split <;> exact ⟨_, _, _, _, rfl⟩
  · exact .refl _ s

theorem handleLockedSyms_writes (s : ZenCompositor) (pressed : Bool)
    (pam : Nat → List UInt8 → Bool) (syms : List UInt32) :
    Writes .lock s (handleLockedSyms s pressed pam syms) := by
  induction syms generalizing s with
  | nil => exact .refl _ s
  | cons keysym syms ih => exact (zenLockHandleKey_writes s keysym pressed pam).trans (ih _)

theorem executeAction_writes (s : ZenCompositor) (action : ZenKeybindAction)
    (customCmd : Option String) (bufferOk : Bool) :
    Writes .lock s (executeAction s action customCmd bufferOk) := by
  unfold executeAction
  split
  · exact ⟨_, _, _, _, rfl⟩
  · exact zenLockActivate_writes s bufferOk
  · split <;> exact ⟨_, _, _, _, rfl⟩
  · split
    · split <;> exact ⟨_, _, _, _, rfl⟩
    · exact .refl _ s
  all_goals exact .refl _ s

theorem zenKeybindsHandleKey_writes (s : ZenCompositor) (modifiers keysym : UInt32)
    (bufferOk : Bool) :
    Writes .lock s (zenKeybindsHandleKey s modifiers keysym bufferOk).1 := by
  rw [zenKeybindsHandleKey]
  split
  · exact executeAction_writes s _ _ bufferOk
  · exact .refl _ s

theorem handleKeybindingSyms_writes (s : ZenCompositor) (modifiers : UInt32)
    (bufferOk : Bool) (syms : List UInt32) :
    Writes .lock s (handleKeybindingSyms s modifiers bufferOk syms).1 := by
  induction syms generalizing s with
  | nil => exact .refl _ s
  | cons keysym syms ih =>
      have h := zenKeybindsHandleKey_writes s modifiers keysym bufferOk
      rw [handleKeybindingSyms]
      split <;> rename_i heq <;> rw [heq] at h
      · exact h
      · exact h.trans (ih _)

theorem handleKeyboardKey_writes (s : ZenCompositor) (keycode : UInt32)
    (syms : List UInt32) (pressed : Bool) (modifiers : UInt32) (bufferOk : Bool)
    (pam : Nat → List UInt8 → Bool) :
    Writes .lock s (handleKeyboardKey s keycode syms pressed modifiers bufferOk pam) := by
  have notifyKey : ∀ s', Writes .lock s' (wlrSeatKeyboardNotifyKey s' keycode pressed) :=
    fun s' => ⟨_, _, _, _, rfl⟩
  have binding := handleKeybindingSyms_writes s modifiers bufferOk syms
  rw [handleKeyboardKey]
  split
  · exact handleLockedSyms_writes s pressed pam syms
  · cases pressed
    · exact notifyKey s
    · simp only [↓reduceIte]
      split
      · exact binding.trans (notifyKey _)
      · exact binding

theorem wlrSeatKeyboardNotifyEnter_writes (s : ZenCompositor) (surface : SurfaceId)
    (keycodes : List UInt32) (modifiers : KeyboardModifiers) :
    Writes .desktop s (wlrSeatKeyboardNotifyEnter s surface keycodes modifiers) := by
  rw [wlrSeatKeyboardNotifyEnter_eq]
  split <;> exact ⟨_, _, _, _, _, _, _, _, _, rfl⟩

theorem enterToplevel_writes (s : ZenCompositor) (t : ToplevelId) :
    Writes .desktop s (enterToplevel s t) := by
  rw [enterToplevel]
  split
  · exact wlrSeatKeyboardNotifyEnter_writes s _ _ _
  · exact .refl _ s

theorem deactivateFocused_writes (s : ZenCompositor) :
    Writes .desktop s (deactivateFocused s) := by
  rw [deactivateFocused]
  split <;> exact ⟨_, _, _, _, _, _, _, _, _, rfl⟩

theorem activateToplevel_writes (s : ZenCompositor) (t : ToplevelId) :
    Writes .desktop s (activateToplevel s t) := by
  have raise : ∀ (s' : ZenCompositor) scene, Writes .desktop s' { s' with scene } :=
    fun s' scene => ⟨_, _, _, _, _, _, _, _, _, rfl⟩
  refine .trans ?_ (raise _ _)
  exact Writes.trans (o := .desktop) ⟨_, _, _, _, _, _, _, _, _, rfl⟩ (enterToplevel_writes _ t)

theorem zenXdgFocusToplevel_writes (s : ZenCompositor) (target : Option ToplevelId) :
    Writes .desktop s (zenXdgFocusToplevel s target) := by
  rw [zenXdgFocusToplevel]
  split
  · exact .refl _ s
  · refine (deactivateFocused_writes s).trans ?_
    cases target with
    | none => exact ⟨_, _, _, _, _, _, _, _, _, rfl⟩
    | some t => exact .trans ⟨_, _, _, _, _, _, _, _, _, rfl⟩ (activateToplevel_writes _ t)

theorem handleToplevelUnmap_writes (s : ZenCompositor) (t : ToplevelId) :
    Writes .desktop s (handleToplevelUnmap s t) := by
  have hide : Writes .desktop s (wlrSceneNodeSetEnabled s t false) :=
    ⟨_, _, _, _, _, _, _, _, _, rfl⟩
  rw [handleToplevelUnmap]
  dsimp only
  split
  · exact hide.trans (zenXdgFocusToplevel_writes _ _)
  · exact hide

theorem handleToplevelDestroy_writes (s : ZenCompositor) (t : ToplevelId) :
    Writes .desktop s (handleToplevelDestroy s t) := by
  rw [handleToplevelDestroy]
  dsimp only
  split
  · have transfer :=
      zenXdgFocusToplevel_writes s (s.windows.toplevels.find? fun iter => iter ≠ t)
    split <;> exact transfer.trans ⟨_, _, _, _, _, _, _, _, _, rfl⟩
  · split <;> exact ⟨_, _, _, _, _, _, _, _, _, rfl⟩

theorem handleToplevelRequestMaximize_writes (s : ZenCompositor) (t : ToplevelId) :
    Writes .desktop s (handleToplevelRequestMaximize s t) := by
  rw [handleToplevelRequestMaximize]
  split
  · exact .refl _ s
  · dsimp only
    split
    · split
      · exact .refl _ s
      · exact ⟨_, _, _, _, _, _, _, _, _, rfl⟩
    · exact ⟨_, _, _, _, _, _, _, _, _, rfl⟩

theorem handleToplevelRequestFullscreen_writes (s : ZenCompositor) (t : ToplevelId)
    (requested : Option OutputId) :
    Writes .desktop s (handleToplevelRequestFullscreen s t requested) := by
  rw [handleToplevelRequestFullscreen]
  split
  · exact .refl _ s
  · dsimp only
    split
    · cases requested <;> dsimp only
      · split
        · exact .refl _ s
        · exact ⟨_, _, _, _, _, _, _, _, _, rfl⟩
      · exact ⟨_, _, _, _, _, _, _, _, _, rfl⟩
    · exact ⟨_, _, _, _, _, _, _, _, _, rfl⟩

theorem wlrSeatSetKeyboard_writes (s : ZenCompositor) (k : KeyboardId) :
    Writes .desktop s (wlrSeatSetKeyboard s k) := by
  rw [wlrSeatSetKeyboard]
  split <;> exact ⟨_, _, _, _, _, _, _, _, _, rfl⟩

theorem handleCursorMotion_writes (s : ZenCompositor) (x y : ℚ) (hit : Option Hit) :
    Writes .desktop s (handleCursorMotion s x y hit) := by
  have enter : ∀ s' surface sx sy,
      Writes .desktop s' (wlrSeatPointerNotifyEnter s' surface sx sy) := by
    intro s' surface sx sy
    rw [wlrSeatPointerNotifyEnter_eq]
    split <;> exact ⟨_, _, _, _, _, _, _, _, _, rfl⟩
  have motion : ∀ s' sx sy, Writes .desktop s' (wlrSeatPointerNotifyMotion s' sx sy) := by
    intro s' sx sy
    rw [wlrSeatPointerNotifyMotion_eq]
    split
    · exact .refl _ s'
    · split <;> exact ⟨_, _, _, _, _, _, _, _, _, rfl⟩
  unfold handleCursorMotion zenInputProcessCursorMotion
  dsimp only
  split
  · exact ⟨_, _, _, _, _, _, _, _, _, rfl⟩
  · split
    · exact .trans ⟨_, _, _, _, _, _, _, _, _, rfl⟩ ((enter _ _ _ _).trans (motion _ _ _))
    · exact ⟨_, _, _, _, _, _, _, _, _, rfl⟩

theorem handleCursorButton_writes (s : ZenCompositor) (pressed : Bool)
    (hit : Option Hit) : Writes .desktop s (handleCursorButton s pressed hit) := by
  have button : ∀ s', Writes .desktop s' (wlrSeatPointerNotifyButton s' pressed) :=
    fun s' => ⟨_, _, _, _, _, _, _, _, _, rfl⟩
  refine .trans ?_ (button _)
  cases pressed
  · simp only [Bool.not_false, Bool.true_and, Bool.false_eq_true, ↓reduceIte]
    split <;> exact ⟨_, _, _, _, _, _, _, _, _, rfl⟩
  · simp only [Bool.not_true, Bool.false_and, Bool.false_eq_true, ↓reduceIte]
    split
    · exact zenXdgFocusToplevel_writes s _
    · exact .refl _ s

theorem handleNewLayerSurface_writes (s : ZenCompositor) (l : LayerId)
    (output : Option OutputId) (ok : Bool) :
    Writes .layers s (handleNewLayerSurface s l output ok) := by
  rw [handleNewLayerSurface]
  split
  · cases output <;> dsimp only
    · exact ⟨_, _, _, rfl⟩
    · split <;> exact ⟨_, _, _, rfl⟩
  · exact .refl _ s

theorem zenWallpaperRenderOutput_fields (s : ZenCompositor) (o : Output) (ok : Bool) :
    ∃ scene wallpaperState,
      zenWallpaperRenderOutput s o ok = { s with scene, wallpaperState } := by
  rw [zenWallpaperRenderOutput]
  split
  · split <;> exact ⟨_, _, rfl⟩
  · exact ⟨_, _, rfl⟩

theorem createTestOverlay_fields (s : ZenCompositor) (o : Output) (ok : Bool) :
    ∃ scene testOverlay, createTestOverlay s o ok = { s with scene, testOverlay } := by
  rw [createTestOverlay]
  split <;> exact ⟨_, _, rfl⟩

theorem handleNewOutput_eq (s : ZenCompositor) (o : Output) (place : OutputId → Int × Int)
    (allocs : OutputAllocs) :
    handleNewOutput s o place allocs =
      if allocs.output then
        createTestOverlay (zenWallpaperRenderOutput
          { s with outputLayout := arrange place (s.outputLayout ++ [o]) } o allocs.wallpaper)
          o allocs.overlay
      else s := by
  rw [handleNewOutput]
  refine if_congr Iff.rfl (congrArg (createTestOverlay · o allocs.overlay) ?_) rfl
  split
  · rfl
  · next hnone =>
      rw [zenWallpaperRenderOutput, hnone]
      cases s.wallpaperState <;> rfl

theorem handleNewOutput_fields (s : ZenCompositor) (o : Output)
    (place : OutputId → Int × Int) (allocs : OutputAllocs) :
    ∃ scene wallpaperState testOverlay,
      handleNewOutput s o place allocs = { s with
        outputLayout :=
          if allocs.output then arrange place (s.outputLayout ++ [o]) else s.outputLayout
        scene, wallpaperState, testOverlay } := by
  rw [handleNewOutput_eq]
  split
  · let added : ZenCompositor :=
      { s with outputLayout := arrange place (s.outputLayout ++ [o]) }
    obtain ⟨_, _, hrender⟩ := zenWallpaperRenderOutput_fields added o allocs.wallpaper
    obtain ⟨_, _, hoverlay⟩ := createTestOverlay_fields
      (zenWallpaperRenderOutput added o allocs.wallpaper) o allocs.overlay
    rw [hrender] at hoverlay
    exact ⟨_, _, _, (congrArg (createTestOverlay · o allocs.overlay) hrender).trans hoverlay⟩
  · exact ⟨_, _, _, rfl⟩

theorem handleNewOutput_outputLayout (s : ZenCompositor) (o : Output)
    (place : OutputId → Int × Int) (allocs : OutputAllocs) :
    (handleNewOutput s o place allocs).outputLayout =
      if allocs.output then arrange place (s.outputLayout ++ [o]) else s.outputLayout := by
  obtain ⟨_, _, _, h⟩ := handleNewOutput_fields s o place allocs
  rw [h]

theorem handleNewOutput_wallpaperTree (s : ZenCompositor) (o : Output)
    (place : OutputId → Int × Int) (allocs : OutputAllocs) :
    (handleNewOutput s o place allocs).wallpaperTree = s.wallpaperTree := by
  obtain ⟨_, _, _, h⟩ := handleNewOutput_fields s o place allocs
  rw [h]

theorem handleNewOutput_writes (s : ZenCompositor) (o : Output)
    (place : OutputId → Int × Int) (allocs : OutputAllocs) :
    Writes .outputs s (handleNewOutput s o place allocs) := by
  obtain ⟨_, _, _, h⟩ := handleNewOutput_fields s o place allocs
  rw [h]
  exact ⟨_, _, _, _, _, rfl⟩

theorem zenWallpaperInit_writes (s : ZenCompositor) (stateOk treeOk : Bool) :
    Writes .outputs s (zenWallpaperInit s stateOk treeOk) := by
  rw [zenWallpaperInit]
  split
  · exact .refl _ s
  · split <;> exact ⟨_, _, _, _, _, rfl⟩

theorem zenWallpaperDestroy_writes (s : ZenCompositor) :
    Writes .outputs s (zenWallpaperDestroy s) := by
  rw [zenWallpaperDestroy]
  split <;> exact ⟨_, _, _, _, _, rfl⟩

/-- An event writes what its owner may write. -/
theorem handle_writes (s : ZenCompositor) (e : Event) :
    Writes e.owner s (handle s e) := by
  cases e with
  | newToplevel t surface ok =>
      cases ok <;> exact ⟨_, _, _, _, _, _, _, _, _, rfl⟩
  | map t =>
      exact .trans (o := .desktop) ⟨_, _, _, _, _, _, _, _, _, rfl⟩
        (zenXdgFocusToplevel_writes _ _)
  | unmap t =>
      have mark : ∀ (s' : ZenCompositor) windows, Writes .desktop s' { s' with windows } :=
        fun s' windows => ⟨_, _, _, _, _, _, _, _, _, rfl⟩
      exact (mark s _).trans ((handleToplevelUnmap_writes _ t).trans (mark _ _))
  | destroy t => exact handleToplevelDestroy_writes s t
  | requestMove t =>
      change Writes .desktop s (handleToplevelRequestMove s t)
      rw [handleToplevelRequestMove]
      split <;> exact ⟨_, _, _, _, _, _, _, _, _, rfl⟩
  | requestMaximize t => exact handleToplevelRequestMaximize_writes s t
  | requestFullscreen t requested =>
      exact handleToplevelRequestFullscreen_writes s t requested
  | focus target => exact zenXdgFocusToplevel_writes s target
  | newLayerSurface l output ok => exact handleNewLayerSurface_writes s l output ok
  | newKeyboard k ok =>
      have init : Writes .desktop s (wlrKeyboardInit s k) := ⟨_, _, _, _, _, _, _, _, _, rfl⟩
      cases ok
      · exact init
      · exact init.trans ((wlrSeatSetKeyboard_writes _ k).trans
          ⟨_, _, _, _, _, _, _, _, _, rfl⟩)
  | modifiers k state =>
      exact Writes.trans (o := .desktop) ⟨_, _, _, _, _, _, _, _, _, rfl⟩
        ((wlrSeatSetKeyboard_writes (wlrKeyboardUpdateModifiers s k state) k).trans
          ⟨_, _, _, _, _, _, _, _, _, rfl⟩)
  | key k keycode syms pressed modifiers bufferOk pam =>
      exact Writes.trans (o := .lock) ⟨_, _, _, _, rfl⟩
        (handleKeyboardKey_writes (wlrKeyboardUpdate s k keycode pressed) keycode syms pressed
          modifiers bufferOk pam)
  | cursorMotion x y hit => exact handleCursorMotion_writes s x y hit
  | cursorButton pressed hit => exact handleCursorButton_writes s pressed hit
  | newOutput o place allocs => exact handleNewOutput_writes s o place allocs
  | wallpaperInit stateOk treeOk => exact zenWallpaperInit_writes s stateOk treeOk
  | wallpaperDestroy => exact zenWallpaperDestroy_writes s
  | idleTimeout bufferOk | lockSignal bufferOk => exact zenLockActivate_writes s bufferOk
  | commit | requestResize | surfaceDestroy | keyboardDestroy =>
      exact ⟨_, _, _, _, _, _, _, _, _, rfl⟩
  | layerCommit | layerMap | layerUnmap | layerDestroy => exact ⟨_, _, _, rfl⟩
  | newLock => exact ⟨_, _, _, _, rfl⟩
  | outputRequestState | outputDestroy => exact ⟨_, _, _, _, _, rfl⟩

/-- What stays the same when only the owner `o` writes. -/
structure Framed (o : Owner) (s s' : ZenCompositor) : Prop where
  windows : o ≠ .desktop → s'.windows = s.windows
  seat : o ≠ .desktop → s'.seat = s.seat
  outputLayout : o ≠ .outputs → s'.outputLayout = s.outputLayout
  wallpaperTree : o ≠ .outputs → s'.wallpaperTree = s.wallpaperTree
  lock : o ≠ .lock → s'.lock = s.lock
  shellOverlayTree : s'.shellOverlayTree = s.shellOverlayTree

theorem Writes.framed {o : Owner} {s s' : ZenCompositor} (h : Writes o s s') :
    Framed o s s' := by
  cases o with
  | desktop =>
      obtain ⟨_, _, _, _, _, _, _, _, _, rfl⟩ := h
      exact ⟨fun ho => absurd rfl ho, fun ho => absurd rfl ho, fun _ => rfl, fun _ => rfl,
        fun _ => rfl, rfl⟩
  | layers =>
      obtain ⟨_, _, _, rfl⟩ := h
      exact ⟨fun _ => rfl, fun _ => rfl, fun _ => rfl, fun _ => rfl, fun _ => rfl, rfl⟩
  | outputs =>
      obtain ⟨_, _, _, _, _, rfl⟩ := h
      exact ⟨fun _ => rfl, fun _ => rfl, fun ho => absurd rfl ho, fun ho => absurd rfl ho,
        fun _ => rfl, rfl⟩
  | lock =>
      obtain ⟨_, _, _, _, rfl⟩ := h
      exact ⟨fun _ => rfl, fun _ => rfl, fun _ => rfl, fun _ => rfl, fun ho => absurd rfl ho,
        rfl⟩

theorem Writes.calls {s s' : ZenCompositor} (h : Writes .outputs s s') :
    s'.calls = s.calls := by
  obtain ⟨_, _, _, _, _, rfl⟩ := h
  rfl

theorem Writes.layerSurfaces {o : Owner} {s s' : ZenCompositor} (h : Writes o s s')
    (ho : o ≠ .layers) : s'.layerSurfaces = s.layerSurfaces := by
  cases o with
  | desktop =>
      obtain ⟨_, _, _, _, _, _, _, _, _, rfl⟩ := h
      rfl
  | layers => exact absurd rfl ho
  | outputs =>
      obtain ⟨_, _, _, _, _, rfl⟩ := h
      rfl
  | lock =>
      obtain ⟨_, _, _, _, rfl⟩ := h
      rfl

theorem handleNewLayerSurface_layerSurfaces (s : ZenCompositor) (l : LayerId)
    (output : Option OutputId) :
    (handleNewLayerSurface s l output true).layerSurfaces =
      Function.update s.layerSurfaces l (some { initialized := false, nodeEnabled := true }) := by
  rw [handleNewLayerSurface, if_pos rfl]
  cases output with
  | none => rfl
  | some o =>
      dsimp only
      split <;> rfl

section Step

variable (s : ZenCompositor) {e : Event}

theorem step_shellOverlayTree : (step s e).shellOverlayTree = s.shellOverlayTree :=
  (handle_writes _ e).framed.shellOverlayTree

theorem step_lock (he : e.owner ≠ .lock) : (step s e).lock = s.lock :=
  (handle_writes _ e).framed.lock he

theorem step_outputLayout (he : e.owner ≠ .outputs) :
    (step s e).outputLayout = s.outputLayout :=
  (handle_writes _ e).framed.outputLayout he

end Step

end ZenOS.Compositor
