import ZenOS.Lifecycle.Run

/-!
The phases of the process as the wiring sees them: a rule for the invariants of the
creation, and the destruction as one function of the wiring.
-/

namespace ZenOS.Lifecycle

open ZenOS.Library.Programs

def OnWiring (J : Wiring → Prop) (s : World) : Prop :=
  J s.wired

/-- The list for the objects that a listener is told of. -/
def GlobalListener.list : GlobalListener → Option ListHead
  | .newXdgToplevel => some .toplevels
  | .newInput => some .keyboards
  | .newLayerSurface => some .layerSurfaces
  | _ => none

/-- The invariant survives whatever the creation does to the wiring; a listener is
registered after its list has been initialised. -/
structure Stable (J : Wiring → Prop) : Prop where
  listInit : ∀ w head, J w → J (w.listInit head)
  createGlobal : ∀ w g, J w → J (w.createGlobal g)
  register : ∀ w l, J w → (∀ head ∈ l.list, (w.lists head).isSome) → J (w.register l)

section Owned

variable {J : Wiring → Prop} {E : World → Prop}

theorem own_wired (f : Ownership → Ownership) :
    Triple (OnWiring J) (update (own f)) (OnWiring J) E :=
  Triple.update fun _ h => h

theorem create_wired (p : Pointer) (ok : Bool) :
    Triple (OnWiring J) (create p ok) (OnWiring J) (OnWiring J) :=
  (Triple.ensureKeeps ok).seq (own_wired _)

theorem newBuffer_keeps {P : World → Prop} (b : CairoBuffer) (calls : CairoCalls)
    (hacquire : ∀ s p, P s → P (own (·.acquire p) s))
    (hrelease : ∀ s p, P s → P (own (·.release p) s)) :
    Triple P (newBuffer b calls) P P := by
  have hcreate : ∀ p ok, Triple P (create p ok) P P := fun p ok =>
    (Triple.ensureKeeps ok).seq (Triple.update fun s h => hacquire s p h)
  have hreleaseAll : ∀ (ps : List Pointer) s, P s → P (own (·.releaseAll ps) s) := by
    intro ps
    induction ps with
    | nil => exact fun _ h => h
    | cons p ps ih => exact fun s h => ih _ (hrelease s p h)
  refine (hcreate _ _).seq (Triple.onFailure (Triple.onFailure ?_ (hreleaseAll _))
    fun s h => hrelease s _ h)
  refine (Triple.ensureKeeps _).seq ((hcreate _ _).seq ((hcreate _ _).seq ?_))
  exact (hcreate _ _).seq ((hcreate _ _).seq (hcreate _ _))

theorem newBuffer_wired (b : CairoBuffer) (calls : CairoCalls) :
    Triple (OnWiring J) (newBuffer b calls) (OnWiring J) (OnWiring J) :=
  newBuffer_keeps b calls (fun _ _ h => h) fun _ _ h => h

theorem freeBuffer_wired (b : CairoBuffer) (s : World) : (freeBuffer b s).wired = s.wired := by
  rw [freeBuffer]
  split <;> rfl

theorem drawWallpaper_wired (ok : Bool) (s : World) : (drawWallpaper ok s).wired = s.wired := by
  rw [drawWallpaper]
  split <;> rfl

theorem drawOverlay_wired (calls : CairoCalls) (s : World) :
    (drawOverlay calls s).wired = s.wired := by
  rw [drawOverlay]
  split
  · have h : OnWiring (· = s.wired) s := rfl
    exact Triple.always (newBuffer_wired .testOverlay calls) h
  · rfl

theorem registerBinding_wired (b : BindingAllocs) :
    Triple (OnWiring J) (registerBinding b) (OnWiring J) (OnWiring J) := by
  refine (Triple.ensureKeeps _).seq ?_
  split
  · split
    · exact own_wired _
    · exact (own_wired _).seq fun _ h => h
  · exact own_wired _

theorem zenKeybindsInit_wired (calloc : Nat → Bool) (config : List BindingAllocs) :
    Triple (OnWiring J) (zenKeybindsInit calloc config) (OnWiring J) (OnWiring J) := by
  have hconfig : Triple (OnWiring J) (each registerBinding config) (OnWiring J) (OnWiring J) :=
    Triple.each registerBinding_wired _
  refine (own_wired _).seq (Triple.seq ?_ (Triple.tolerate hconfig))
  exact Triple.onFailure (Triple.each registerBinding_wired _) fun _ h => h

theorem zenWallpaperInit_wired (calls : WallpaperCalls) :
    Triple (OnWiring J) (zenWallpaperInit calls) (OnWiring J) (OnWiring J) :=
  (Triple.ensureKeeps _).seq ((Triple.ensureKeeps _).seq (own_wired _))

theorem zenDbusInit_wired (calls : DbusCalls) :
    Triple (OnWiring J) (zenDbusInit calls) (OnWiring J) (OnWiring J) := by
  refine Triple.onFailure ?_ fun _ h => h
  refine (create_wired _ _).seq ((create_wired _ _).seq ?_)
  exact (Triple.ensureKeeps _).seq ((Triple.ensureKeeps _).seq (create_wired _ _))

theorem zenLockDestroy_wired (s : World) : (zenLockDestroy s).wired = s.wired :=
  freeBuffer_wired .lockBuffer _

theorem zenLockActivate_wired (calls : CairoCalls) (s : World) :
    (zenLockActivate calls s).wired = s.wired := by
  rw [zenLockActivate]
  split
  · rfl
  · have h : OnWiring (· = s.wired) s := rfl
    exact Triple.always (newBuffer_wired .lockBuffer calls) h

theorem zenLockDeactivate_wired (s : World) : (zenLockDeactivate s).wired = s.wired := by
  rw [zenLockDeactivate]
  split
  · exact freeBuffer_wired .lockBuffer s
  · rfl

end Owned

section Creation

variable {J : Wiring → Prop}

theorem Stable.withInit (h : Stable J) (head : ListHead) :
    Stable fun w => J w ∧ (w.lists head).isSome = true where
  listInit w head' hw := by
    refine ⟨h.listInit w head' hw.1, ?_⟩
    rcases eq_or_ne head head' with rfl | hne
    · simp [Wiring.listInit]
    · simpa [Wiring.listInit, Function.update_of_ne hne] using hw.2
  createGlobal w g hw := ⟨h.createGlobal w g hw.1, hw.2⟩
  register w l hw hlist := ⟨h.register w l hw.1 hlist, hw.2⟩

theorem Stable.withLink (h : Stable J) (l : GlobalListener) :
    Stable fun w => J w ∧ w.links (.own l) = true where
  listInit w head hw := ⟨h.listInit w head hw.1, hw.2⟩
  createGlobal w g hw := ⟨h.createGlobal w g hw.1, hw.2⟩
  register w l' hw hlist := by
    refine ⟨h.register w l' hw.1 hlist, ?_⟩
    rw [Wiring.register_links, hw.2, Bool.or_true]

theorem listInit_wired {E : World → Prop} (h : Stable J) (head : ListHead) :
    Triple (OnWiring J) (update (wire (·.listInit head)))
      (OnWiring fun w => J w ∧ (w.lists head).isSome = true) E :=
  Triple.update fun s hs =>
    ⟨h.listInit s.wired head hs, by simp [wire, Wiring.listInit]⟩

theorem createGlobal_wired (h : ∀ w g, J w → J (w.createGlobal g)) (g : Global) (ok : Bool) :
    Triple (OnWiring J) (createGlobal g ok) (OnWiring J) (OnWiring J) :=
  (Triple.ensureKeeps ok).seq (Triple.update fun s hs => h s.wired g hs)

theorem Stable.registerPlain (h : Stable J) {l : GlobalListener} (hl : l.list = none)
    {w : Wiring} (hw : J w) : J (w.register l) :=
  h.register w l hw (by simp [hl])

theorem register_wired {E : World → Prop} (h : Stable J) {l : GlobalListener} (hl : l.list = none) :
    Triple (OnWiring J) (update (wire (·.register l))) (OnWiring J) E :=
  Triple.update fun _ hs => h.registerPlain hl hs

theorem registerList_wired {E : World → Prop} (h : Stable J) {l : GlobalListener} {head : ListHead}
    (hl : l.list = some head) :
    Triple (OnWiring fun w => J w ∧ (w.lists head).isSome = true)
      (update (wire (·.register l)))
      (OnWiring fun w => (J w ∧ (w.lists head).isSome = true) ∧ w.links (.own l) = true) E := by
  refine Triple.update fun s hs => ⟨(h.withInit head).register s.wired l hs ?_, ?_⟩
  · intro head' hhead'
    rw [hl] at hhead'
    cases hhead'
    exact hs.2
  · simp [wire, Wiring.register, Wiring.link]

theorem createCore_wired (h : ∀ w g, J w → J (w.createGlobal g)) (calls : CreateCalls) :
    Triple (OnWiring J) (createCore calls) (OnWiring J) (OnWiring J) := by
  have hbackend : Triple (OnWiring J) (update (wire (·.createGlobal .backend))) (OnWiring J)
      (OnWiring J) := Triple.update fun s hs => h s.wired _ hs
  refine (create_wired _ _).seq ((create_wired _ _).seq (hbackend.seq ?_))
  refine (create_wired _ _).seq ((Triple.ensureKeeps _).seq ((create_wired _ _).seq ?_))
  exact (create_wired _ _).seq ((createGlobal_wired h _ _).seq (Triple.ensureKeeps _))

theorem zenXdgInit_wired (h : Stable J) (ok : Bool) :
    Triple (OnWiring J) (zenXdgInit ok)
      (OnWiring fun w => J w ∧ (w.lists .toplevels).isSome = true) (OnWiring J) := by
  refine (Triple.ensureStateKeeps _).seq ((listInit_wired h .toplevels).seq ?_)
  have hglobal := createGlobal_wired (h.withInit .toplevels).createGlobal .xdgShell ok
  refine (hglobal.weakenFailure fun _ hs => hs.1).seq ?_
  exact (registerList_wired h rfl).mono (fun _ hs => hs) (fun _ hs => hs.1) fun _ hs => hs

/-- The last listener of the input module is `new_input`; a failure before leads to
`zen_input_destroy`. -/
theorem zenInputInit_wired (h : Stable J) {E : World → Prop} (calls : InputCalls)
    (hdestroy : ∀ s, OnWiring J s → E (zenInputDestroy s)) :
    Triple (OnWiring J) (zenInputInit calls)
      (OnWiring fun w => (J w ∧ (w.lists .keyboards).isSome = true) ∧
        w.links (.own .newInput) = true) E := by
  have hlist := h.withInit .keyboards
  have hcursor : Triple (OnWiring fun w => J w ∧ (w.lists .keyboards).isSome = true)
      (update (wire (·.createGlobal .cursor)))
      (OnWiring fun w => J w ∧ (w.lists .keyboards).isSome = true) (OnWiring J) :=
    Triple.update fun s hs => hlist.createGlobal s.wired _ hs
  have hcreate : ∀ p ok, Triple (OnWiring fun w => J w ∧ (w.lists .keyboards).isSome = true)
      (create p ok) (OnWiring fun w => J w ∧ (w.lists .keyboards).isSome = true) (OnWiring J) :=
    fun p ok => (create_wired p ok).weakenFailure fun _ hs => hs.1
  refine Triple.onFailure ?_ hdestroy
  refine (Triple.ensureStateKeeps _).seq ((listInit_wired h .keyboards).seq ?_)
  have hseat := createGlobal_wired hlist.createGlobal .seat calls.seat
  refine (hseat.weakenFailure fun _ hs => hs.1).seq ?_
  refine (hcreate _ _).seq (hcursor.seq ((hcreate _ _).seq ?_))
  refine (register_wired hlist rfl).seq ((register_wired hlist rfl).seq ?_)
  refine (register_wired hlist rfl).seq ((register_wired hlist rfl).seq ?_)
  exact registerList_wired h rfl

theorem zenLayerInit_wired (h : Stable J) (ok : Bool) :
    Triple (OnWiring J) (zenLayerInit ok)
      (OnWiring fun w => J w ∧ (w.lists .layerSurfaces).isSome = true) (OnWiring J) := by
  refine (listInit_wired h .layerSurfaces).seq ?_
  have hglobal := createGlobal_wired (h.withInit .layerSurfaces).createGlobal .layerShell ok
  refine (hglobal.weakenFailure fun _ hs => hs.1).seq ?_
  exact (registerList_wired h rfl).mono (fun _ hs => hs) (fun _ hs => hs.1) fun _ hs => hs

theorem zenLockInit_wired (h : Stable J) (calls : LockCalls) :
    Triple (OnWiring J) (zenLockInit calls) (OnWiring J) (OnWiring J) := by
  refine Triple.onFailure (R := OnWiring J) ?_ fun s hs => ?_
  · refine (Triple.ensureStateKeeps _).seq ((createGlobal_wired h.createGlobal _ _).seq ?_)
    refine (register_wired h rfl).seq ((Triple.tolerate (create_wired _ _)).seq ?_)
    exact Triple.tolerate ((Triple.ensureStateKeeps _).seq (create_wired _ _))
  · rwa [OnWiring, zenLockDestroy_wired]

theorem createDesktop_wired (h : Stable J) (calls : CreateCalls) :
    Triple (OnWiring J) (createDesktop calls)
      (OnWiring fun w => J w ∧ (w.lists .layerSurfaces).isSome = true) (OnWiring J) := by
  have hlayer : Triple (OnWiring fun w => J w ∧ (w.lists .layerSurfaces).isSome = true) (do
      tolerate (zenDbusInit calls.dbus)
      zenLockInit calls.lock
      create .shell calls.shellCalloc
      ensure calls.shellInit)
      (OnWiring fun w => J w ∧ (w.lists .layerSurfaces).isSome = true)
      (OnWiring fun w => J w ∧ (w.lists .layerSurfaces).isSome = true) := by
    refine (Triple.tolerate (zenDbusInit_wired _)).seq ?_
    exact (zenLockInit_wired (h.withInit _) _).seq ((create_wired _ _).seq (Triple.ensureKeeps _))
  refine (Triple.ensureKeeps _).seq ((own_wired _).seq ((zenWallpaperInit_wired _).seq ?_))
  refine (zenKeybindsInit_wired _ _).seq ((zenLayerInit_wired h _).seq ?_)
  exact hlayer.weakenFailure fun _ hs => hs.1

theorem zenXwaylandInit_wired (hglobal : ∀ w g, J w → J (w.createGlobal g))
    (hregister : ∀ w l, l.list = none → J w → J (w.register l)) (ok : Bool) :
    Triple (OnWiring J) (zenXwaylandInit ok) (OnWiring J) (OnWiring J) := by
  have hlistener : ∀ l : GlobalListener, l.list = none →
      Triple (OnWiring J) (update (wire (·.register l))) (OnWiring J) (OnWiring J) :=
    fun l hl => Triple.update fun s hs => hregister s.wired l hl hs
  refine (Triple.ensureStateKeeps _).seq ((createGlobal_wired hglobal _ _).seq ?_)
  exact (hlistener _ rfl).seq (hlistener _ rfl)

/-- All lists are initialised and `new_input` is registered. -/
structure Initialised (w : Wiring) : Prop where
  lists : ∀ head, (w.lists head).isSome
  newInput : w.links (.own .newInput) = true

theorem createModules_wired (h : Stable J) (calls : CreateCalls)
    (hdestroy : ∀ s, OnWiring J s → OnWiring J (zenInputDestroy s)) :
    Triple (OnWiring J) (createModules calls) (OnWiring fun w => J w ∧ Initialised w)
      (OnWiring J) := by
  have hxdg := h.withInit .toplevels
  have hinput := (hxdg.withInit .keyboards).withLink .newInput
  refine (zenXdgInit_wired h _).seq ?_
  refine (zenInputInit_wired hxdg calls.input fun s hs => hdestroy s hs.1).seq ?_
  refine (createDesktop_wired hinput calls).mono (fun _ hs => hs) ?_ ?_
  · rintro s ⟨⟨⟨⟨hJ, htoplevels⟩, hkeyboards⟩, hlink⟩, hlayers⟩
    refine ⟨hJ, ?_, hlink⟩
    intro head
    cases head with
    | toplevels => exact htoplevels
    | keyboards => exact hkeyboards
    | layerSurfaces => exact hlayers
  · rintro s ⟨⟨⟨hJ, -⟩, -⟩, -⟩
    exact hJ

theorem createRest_wired (h : Stable J) (calls : CreateCalls) (start : List StartEvent)
    (hstart : ∀ s e, OnWiring J s → OnWiring J (startEvent s e))
    (hinput : ∀ s, OnWiring J s → OnWiring J (zenInputDestroy s)) :
    Triple (OnWiring fun w => J (w.register .newOutput)) (createRest calls start)
      (OnWiring fun w => J w ∧ Initialised w) (OnWiring J) := by
  have hregister : Triple (OnWiring fun w => J (w.register .newOutput))
      (update (wire (·.register .newOutput))) (OnWiring J) (OnWiring J) :=
    Triple.update fun _ hs => hs
  refine hregister.seq (Triple.seq ?_ (createModules_wired h calls hinput))
  refine Triple.seq (Triple.update fun s hs => ?_) (Triple.ensureKeeps _)
  exact List.foldlRecOn start startEvent hs fun s hs e _ => hstart s e hs

/-- The invariant holds when the creation succeeds; when it fails, everything is destroyed
from a state in which it holds. -/
theorem zenCompositorCreate_wired (h : Stable J) {E : Wiring → Prop} (calls : CreateCalls)
    (start : List StartEvent) (order : List Obj)
    (hstart : ∀ s e, OnWiring J s → OnWiring J (startEvent s e))
    (hinput : ∀ s, OnWiring J s → OnWiring J (zenInputDestroy s))
    (hdestroy : ∀ s, OnWiring J s → OnWiring E (zenCompositorDestroy order s)) :
    Triple (OnWiring J) (zenCompositorCreate calls start order)
      (OnWiring fun w => J w ∧ Initialised w) (OnWiring E) := by
  refine Triple.onFailure ?_ hdestroy
  refine (createCore_wired h.createGlobal calls).seq ?_
  refine (createRest_wired h calls start hstart hinput).mono (fun s hs => ?_)
    (fun _ hs => hs) fun _ hs => hs
  exact h.register s.wired _ hs (by simp [GlobalListener.list])

end Creation

/-- `zen_input_destroy` on the wiring. -/
def Wiring.inputDestroy (w : Wiring) (cursor : Bool) : Wiring :=
  let w := ((((w.freeKeyboards.unregister .cursorMotion).unregister
    .cursorMotionAbsolute).unregister .cursorButton).unregister .requestCursor).unregister
    .newInput
  if cursor then w.destroyGlobal .cursor else w

/-- What is left to do when the modules have been destroyed. -/
def Wiring.coreDestroy (w : Wiring) (display backend : Bool) (order : List Obj) : Wiring :=
  let w := if display then wlDisplayDestroyClients order w else w
  let w := if backend then wlrBackendDestroy order w else w
  if display then wlDisplayDestroy w else w

/-- `zen_compositor_destroy` on the wiring. -/
def Wiring.compositorDestroy (w : Wiring) (o : Ownership) (order : List Obj) : Wiring :=
  let w := w.freeLayerSurfaces.inputDestroy (o.has .cursor)
  (w.freeToplevels.unlinkIfLinked .newXdgToplevel).coreDestroy (o.has .wlDisplay)
    (o.has .backend) order

section Destruction

variable (o : Ownership) (s : World) {p q : Pointer}

theorem Ownership.release_pointers_of_ne (h : p ≠ q) :
    (o.release q).pointers p = o.pointers p := by
  rw [Ownership.release]
  split
  · rfl
  · exact Function.update_of_ne h _ _

theorem Ownership.releaseAll_pointers_of_notMem (ps : List Pointer) (h : p ∉ ps) :
    (o.releaseAll ps).pointers p = o.pointers p := by
  induction ps generalizing o with
  | nil => rfl
  | cons q ps ih =>
      obtain ⟨hne, hps⟩ := List.ne_and_not_mem_of_not_mem_cons h
      exact (ih (o.release q) hps).trans (o.release_pointers_of_ne hne)

/-- A buffer with its fields. -/
def CairoBuffer.pointers (b : CairoBuffer) : List Pointer :=
  b.fields ++ [.buffer b]

theorem freeBuffer_pointers_of_notMem {b : CairoBuffer} (h : p ∉ b.pointers) :
    (freeBuffer b s).owned.pointers p = s.owned.pointers p := by
  rw [freeBuffer]
  split
  · exact s.owned.releaseAll_pointers_of_notMem b.pointers h
  · rfl

theorem Ownership.freeBindings_pointers : o.freeBindings.pointers = o.pointers := by
  have h : ∀ (bs : List _) (o : Ownership),
      (bs.foldl Ownership.freeBinding o).pointers = o.pointers := by
    intro bs
    induction bs with
    | nil => exact fun _ => rfl
    | cons b bs ih => exact fun o => ih (o.freeBinding b)
  rw [Ownership.freeBindings]
  split
  · rfl
  · exact h _ o

/-- What the modules of the desktop do not own. -/
def corePointers : List Pointer :=
  [.wlDisplay, .backend, .renderer, .allocator, .scene, .cursor, .xcursorMgr]

theorem zenLockDestroy_pointers (h : p ∈ corePointers) :
    (zenLockDestroy s).owned.pointers p = s.owned.pointers p := by
  have hbuffer : ∀ p ∈ corePointers, p ∉ CairoBuffer.pointers .lockBuffer := by decide
  have hslots : ∀ p ∈ corePointers, p ∉ [.idleTimer, .lockSignalSlot] := by decide
  exact (freeBuffer_pointers_of_notMem _ (hbuffer p h)).trans
    (s.owned.releaseAll_pointers_of_notMem _ (hslots p h))

theorem destroyDesktop_pointers (h : p ∈ corePointers) :
    (destroyDesktop s).owned.pointers p = s.owned.pointers p := by
  have hoverlay : ∀ p ∈ corePointers, p ∉ CairoBuffer.pointers .testOverlay := by decide
  have hshell : ∀ p ∈ corePointers, p ≠ .shell := by decide
  have hbus : ∀ p ∈ corePointers, p ∉ [.dbusEventSource, .dbusSlot, .bus] := by decide
  have hwallpaper : ∀ s : World,
      (zenWallpaperDestroy s).owned.pointers = s.owned.pointers := by
    intro s
    rw [zenWallpaperDestroy, own]
    dsimp only
    split <;> rfl
  rw [destroyDesktop, hwallpaper, zenKeybindsDestroy, own, Ownership.freeBindings_pointers]
  calc _ = _ := Ownership.releaseAll_pointers_of_notMem _ _ (hbus p h)
    _ = _ := zenLockDestroy_pointers _ h
    _ = _ := Ownership.release_pointers_of_ne _ (hshell p h)
    _ = _ := freeBuffer_pointers_of_notMem s (hoverlay p h)

theorem destroyDesktop_wired : (destroyDesktop s).wired = s.wired.freeLayerSurfaces := by
  have hlock : (zenLockDestroy (own (·.release .shell) (freeBuffer .testOverlay s))).wired =
      s.wired := (zenLockDestroy_wired _).trans (freeBuffer_wired .testOverlay s)
  exact congrArg Wiring.freeLayerSurfaces hlock

theorem zenInputDestroy_wired :
    (zenInputDestroy s).wired = s.wired.inputDestroy (s.owned.has .cursor) := by
  have hcursor : (s.owned.release .xcursorMgr).has .cursor = s.owned.has .cursor :=
    congrArg Option.isSome (s.owned.release_pointers_of_ne (by decide))
  rw [← hcursor]
  rfl

theorem zenInputDestroy_pointers (hcursor : p ≠ .cursor) (hmgr : p ≠ .xcursorMgr) :
    (zenInputDestroy s).owned.pointers p = s.owned.pointers p :=
  (Ownership.release_pointers_of_ne _ hcursor).trans (s.owned.release_pointers_of_ne hmgr)

theorem destroyCore_wired (order : List Obj) :
    (destroyCore order s).wired =
      s.wired.coreDestroy (s.owned.has .wlDisplay) (s.owned.has .backend) order := by
  have hbackend : (s.owned.releaseAll [.scene, .allocator, .renderer]).has .backend =
      s.owned.has .backend :=
    congrArg Option.isSome (s.owned.releaseAll_pointers_of_notMem _ (by decide))
  have hdisplay : ((s.owned.releaseAll [.scene, .allocator, .renderer]).release .backend).has
      .wlDisplay = s.owned.has .wlDisplay :=
    congrArg Option.isSome
      (s.owned.releaseAll_pointers_of_notMem [.scene, .allocator, .renderer, .backend] (by decide))
  simp only [destroyCore, wireIf, own, Wiring.coreDestroy, hbackend, hdisplay]

theorem zenCompositorDestroy_wired (order : List Obj) :
    (zenCompositorDestroy order s).wired = s.wired.compositorDestroy s.owned order := by
  have hpointers : ∀ p ∈ [Pointer.wlDisplay, .backend],
      (zenInputDestroy (destroyDesktop s)).owned.has p = s.owned.has p := by
    intro p hp
    have hne : ∀ p ∈ [Pointer.wlDisplay, .backend],
        p ≠ .cursor ∧ p ≠ .xcursorMgr ∧ p ∈ corePointers := by decide
    obtain ⟨hcursor, hmgr, hcore⟩ := hne p hp
    exact congrArg Option.isSome
      ((zenInputDestroy_pointers _ hcursor hmgr).trans (destroyDesktop_pointers s hcore))
  have hcursor : (destroyDesktop s).owned.has .cursor = s.owned.has .cursor :=
    congrArg Option.isSome (destroyDesktop_pointers s (by decide))
  rw [zenCompositorDestroy, destroyCore_wired, Wiring.compositorDestroy,
    ← hpointers .wlDisplay (by decide), ← hpointers .backend (by decide), ← hcursor,
    ← destroyDesktop_wired, ← zenInputDestroy_wired]
  rfl

end Destruction

end ZenOS.Lifecycle
