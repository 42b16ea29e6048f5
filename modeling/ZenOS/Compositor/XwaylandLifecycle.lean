import ZenOS.Compositor.XwaylandRecord

/-!
The life cycle of an X11 window's record over the events that wlroots permits, and the window
that the other modules see of it.
-/

namespace ZenOS.Compositor.Xwayland

open ZenOS.Library.Runs ZenOS.Library.Ownership

/-- What holds between events. -/
structure XwsState.Sound (w : XwsState) : Prop extends w.Kept where
  linked : ∀ r ∈ w.record, r.link = w.registered
  own : ∀ r ∈ w.record, ∀ l ∈ ownListeners, (w.registered l).isSome
  listening : ∀ r ∈ w.record, ∀ l, l = .map ∨ l = .unmap →
    ((w.registered l).isSome ↔ r.sceneSurface.isSome)
  associated : ∀ r ∈ w.record, r.sceneSurface.isSome → w.surface.isSome
  freed : w.record = none → ∀ l, w.registered l = none
  dead : w.alive = false → w.record = none

theorem ne_of_mem_ownListeners {l : Listener} (h : l ∈ ownListeners) :
    l ≠ .map ∧ l ≠ .unmap := by
  cases l <;> simp [ownListeners] at h ⊢

theorem XwsState.Sound.lifeCycle {w : XwsState} (h : w.Sound) : LifeCycle w :=
  ⟨h.listening, h.accounts, h.freed, h.sound⟩

section Handlers

variable {w : XwsState} {r : XwsRecord}

open XwsState

theorem emit_of_freed (h : w.Sound) (hr : w.record = none) (l : Listener)
    (handler : XwsState → XwsState) : w.emit l handler = w := by
  rw [emit, h.freed hr l]
  rfl

theorem emit_of_registered {l : Listener} (hr : w.record = some r)
    (hl : (w.registered l).isSome) (handler : XwsState → XwsState) :
    w.emit l handler = handler w := by
  rw [emit, if_pos hl, if_pos (by rw [hr]; rfl)]

theorem emit_sound (l : Listener) (handler : XwsState → XwsState) (h : w.Sound)
    {P : XwsState → Prop} (hnone : w.record = none → P w)
    (hsome : ∀ r, w.record = some r → (w.registered l).isSome → P (handler w))
    (hsilent : ∀ r, w.record = some r → w.registered l = none → P w) :
    P (w.emit l handler) := by
  rcases hr : w.record with _ | r
  · rw [emit_of_freed h hr]
    exact hnone hr
  · rcases hl : w.registered l with _ | n
    · rw [emit, hl]
      exact hsilent r hr hl
    · rw [emit_of_registered hr (by rw [hl]; rfl)]
      exact hsome r hr (by rw [hl]; rfl)

theorem handleNewXwaylandSurface_sound (h : w.Sound) (hr : w.record = none) (ok dup : Bool)
    (halive : w.alive = true) : (w.handleNewXwaylandSurface ok dup).Sound := by
  cases ok with
  | false => exact h
  | true =>
      let record : XwsRecord :=
        { sceneSurface := none, title := strdup w.title dup, link := fun _ => none }
      let w₁ : XwsState := { w with record := some record }
      change (ownListeners.foldl XwsState.wlSignalAdd w₁).Sound
      have hnone : w.registered = fun _ => none := funext (h.freed hr)
      have hkept : w₁.Kept := by
        refine ⟨h.accounts.congr fun handle => ?_, h.fresh, h.distinct, h.sound⟩
        cases handle with
        | registration n => exact Iff.rfl
        | node n => simp [InUse, nodeNumber, w₁, record, hr]
      obtain ⟨hkept', ⟨r', hr', hlink, hnode⟩, hregistered⟩ :=
        addAll_kept hkept rfl hnone.symm ownListeners (by decide)
          (fun l _ => h.freed hr l)
      have hsame : (ownListeners.foldl XwsState.wlSignalAdd w₁).surfaceState =
          w₁.surfaceState := by
        simp [ownListeners]
      refine { hkept' with linked := ?_, own := ?_, listening := ?_, associated := ?_
                           freed := ?_, dead := ?_ }
      all_goals rw [hr']
      · rintro _ ⟨⟩
        exact hlink
      · rintro _ ⟨⟩ l hl
        exact (hregistered l).mpr (.inl hl)
      · rintro _ ⟨⟩ l hl
        rw [hnode, hregistered l]
        change l ∈ ownListeners ∨ (w.registered l).isSome = true ↔ _
        rcases hl with rfl | rfl <;> simp [hnone, ownListeners, record]
      · rintro _ ⟨⟩ hsome
        rw [hnode] at hsome
        cases hsome
      · exact fun hnone => absurd hnone (Option.some_ne_none _)
      · intro hdead
        have hdead' : w.alive = false := (congrArg Prod.fst hsame).symm.trans hdead
        rw [halive] at hdead'
        cases hdead'

theorem setRecord_sound (h : w.Sound) {f : XwsRecord → XwsRecord}
    (hnode : ∀ r, (f r).sceneSurface.map (·.number) = r.sceneSurface.map (·.number))
    (hlink : ∀ r, (f r).link = r.link) : (w.setRecord f).Sound := by
  have hsome : ∀ r, (f r).sceneSurface.isSome = r.sceneSurface.isSome := by
    intro r
    have hmap := congrArg Option.isSome (hnode r)
    rwa [Option.isSome_map, Option.isSome_map] at hmap
  rcases hr : w.record with _ | r
  · have hsame : w.setRecord f = w := by
      rw [XwsState.setRecord, hr, Option.map_none, ← hr]
    rw [hsame]
    exact h
  · have hr' : (w.setRecord f).record = some (f r) := by simp [XwsState.setRecord, hr]
    refine { h.toKept.setRecord hnode with linked := ?_, own := ?_, listening := ?_
                                           associated := ?_, freed := ?_, dead := ?_ }
    all_goals rw [hr']
    · rintro _ ⟨⟩
      exact (hlink r).trans (h.linked r hr)
    · rintro _ ⟨⟩
      exact h.own r hr
    · rintro _ ⟨⟩
      rw [hsome]
      exact h.listening r hr
    · rintro _ ⟨⟩
      rw [hsome]
      exact h.associated r hr
    · exact fun hnone => absurd hnone (Option.some_ne_none _)
    · intro hdead
      rw [h.dead hdead] at hr
      cases hr

theorem handleXwsAssociate_failed (hr : w.record = some r) (hnode : r.sceneSurface = none) :
    w.handleXwsAssociate false = w := by
  rw [XwsState.handleXwsAssociate, if_neg Bool.false_ne_true, XwsState.setRecord, hr,
    Option.map_some, ← hnode, ← hr]

theorem handleXwsAssociate_sound (h : w.Sound) (hr : w.record = some r)
    (hnode : r.sceneSurface = none) (hsurface : w.surface.isSome) (ok : Bool) :
    (w.handleXwsAssociate ok).Sound := by
  have halive : w.alive ≠ false := fun hdead => by
    rw [h.dead hdead] at hr
    cases hr
  cases ok with
  | false =>
      rw [handleXwsAssociate_failed hr hnode]
      exact h
  | true =>
      change ([.map, .unmap].foldl XwsState.wlSignalAdd w.wlrSceneSurfaceCreate).Sound
      have hsilent : ∀ l ∈ [Listener.map, .unmap],
          w.wlrSceneSurfaceCreate.registered l = none := by
        intro l hl
        change w.registered l = none
        have hiff := h.listening r hr l (by simpa using hl)
        rw [hnode] at hiff
        simpa using hiff
      have hr₁ : w.wlrSceneSurfaceCreate.record = some
          { r with sceneSurface := some { number := w.next, enabled := true } } := by
        simp [XwsState.wlrSceneSurfaceCreate, XwsState.setRecord, hr]
      obtain ⟨hkept, ⟨r', hr', hlink, hnode'⟩, hregistered⟩ :=
        addAll_kept (h.toKept.wlrSceneSurfaceCreate hr hnode) hr₁ (h.linked r hr)
          [.map, .unmap] (by decide) hsilent
      have hsame : ([.map, .unmap].foldl XwsState.wlSignalAdd
          w.wlrSceneSurfaceCreate).surfaceState = w.surfaceState := by
        simp
      refine { hkept with linked := ?_, own := ?_, listening := ?_, associated := ?_
                          freed := ?_, dead := ?_ }
      all_goals rw [hr']
      · rintro _ ⟨⟩
        exact hlink
      · rintro _ ⟨⟩ l hl
        exact (hregistered l).mpr (.inr (h.own r hr l hl))
      · rintro _ ⟨⟩ l hl
        rw [hnode']
        exact iff_of_true ((hregistered l).mpr (.inl (by simpa using hl))) rfl
      · rintro _ ⟨⟩ -
        exact hsurface
      · exact fun hnone => absurd hnone (Option.some_ne_none _)
      · intro hdead
        exact absurd ((congrArg Prod.fst hsame).symm.trans hdead) halive

theorem handleXwsDissociate_result (h : w.Sound) (hr : w.record = some r) :
    w.handleXwsDissociate.Kept ∧
      w.handleXwsDissociate.registered =
        Function.update (Function.update w.registered .map none) .unmap none ∧
      w.handleXwsDissociate.record = some { r with
        sceneSurface := none
        link := Function.update (Function.update r.link .map none) .unmap none } := by
  obtain ⟨hkept₁, hregistered₁, hr₁⟩ := unlink_kept h.toKept hr (h.linked r hr) .map
  obtain ⟨hkept₂, hregistered₂, hr₂⟩ := unlink_kept hkept₁ hr₁
    (by rw [hregistered₁, h.linked r hr]) .unmap
  refine ⟨hkept₂.destroySceneSurface, ?_, ?_⟩
  · rw [XwsState.handleXwsDissociate, destroySceneSurface_registered, hregistered₂,
      hregistered₁]
  · rw [XwsState.handleXwsDissociate, destroySceneSurface_record, hr₂]
    rfl

theorem handleXwsDissociate_surfaceState :
    w.handleXwsDissociate.surfaceState = w.surfaceState := by
  simp [XwsState.handleXwsDissociate]

theorem handleXwsDissociate_sound (h : w.Sound) (hr : w.record = some r) :
    ({ w.handleXwsDissociate with surface := none, mapped := false } : XwsState).Sound := by
  have halive : w.alive ≠ false := fun hdead => by
    rw [h.dead hdead] at hr
    cases hr
  have hsame := handleXwsDissociate_surfaceState (w := w)
  obtain ⟨hkept, hregistered, hrecord⟩ := handleXwsDissociate_result h hr
  refine { accounts := hkept.accounts.congr fun handle => ?_, fresh := hkept.fresh
           distinct := hkept.distinct, sound := hkept.sound, linked := ?_, own := ?_
           listening := ?_, associated := ?_, freed := ?_, dead := ?_ }
  · cases handle <;> exact Iff.rfl
  all_goals
    change _ at *
    rw [hrecord]
  · rintro _ ⟨⟩
    rw [hregistered, h.linked r hr]
  · rintro _ ⟨⟩ l hl
    obtain ⟨hmap, hunmap⟩ := ne_of_mem_ownListeners hl
    rw [hregistered, Function.update_of_ne hunmap, Function.update_of_ne hmap]
    exact h.own r hr l hl
  · rintro _ ⟨⟩ l hl
    rw [hregistered]
    rcases hl with rfl | rfl <;> simp
  · rintro _ ⟨⟩ hsome
    cases hsome
  · exact fun hnone => absurd hnone (Option.some_ne_none _)
  · intro hdead
    exact absurd ((congrArg Prod.fst hsame).symm.trans hdead) halive

theorem handleXwsDestroy_sound (h : w.Sound) (hr : w.record = some r) :
    ({ w.handleXwsDestroy with alive := false, surface := none, mapped := false } :
      XwsState).Sound := by
  obtain ⟨hkept₁, hr₁, hregistered₁⟩ := removeAll_kept h.toKept hr ownListeners (by decide)
    (fun l _ => congrFun (h.linked r hr) l) (h.own r hr)
  have hlink : ∀ l, l = .map ∨ l = .unmap →
      (ownListeners.foldl XwsState.wlListRemove w).registered l = r.link l := by
    intro l hl
    rw [hregistered₁, if_neg, h.linked r hr]
    rcases hl with rfl | rfl <;> decide
  obtain ⟨hkept₂, hr₂, hregistered₂⟩ := removeIfLinked_kept hkept₁ hr₁ (l := .map)
    (hlink _ (.inl rfl)).symm
  obtain ⟨hkept₃, hr₃, hregistered₃⟩ := removeIfLinked_kept hkept₂ hr₂ (l := .unmap) (by
    rw [hregistered₂, Function.update_of_ne (by decide), hlink _ (.inr rfl)])
  have hregistered : w.handleXwsDestroy.registered = fun _ => none := by
    funext l
    rw [XwsState.handleXwsDestroy]
    simp only
    rw [destroySceneSurface_registered, hregistered₃, hregistered₂]
    simp only [Function.update_apply, hregistered₁]
    split
    · rfl
    · split
      · rfl
      · refine if_pos ?_
        cases l <;> simp_all [ownListeners]
  have hkept := hkept₃.destroySceneSurface
  have hnode := destroySceneSurface_nodeNumber
    (w := ((ownListeners.foldl XwsState.wlListRemove w).removeIfLinked .map).removeIfLinked
      .unmap)
  refine { accounts := hkept.accounts.congr fun handle => ?_, fresh := hkept.fresh
           distinct := hkept.distinct, sound := hkept.sound
           linked := nofun, own := nofun, listening := nofun, associated := nofun
           freed := fun _ => congrFun hregistered, dead := fun _ => rfl }
  cases handle with
  | registration n => exact Iff.rfl
  | node n =>
      rw [InUse, InUse, hnode]
      rfl

end Handlers

theorem XwsState.Sound.sceneSurface_eq_none {w : XwsState} (h : w.Sound)
    (hsurface : w.surface = none) : ∀ r ∈ w.record, r.sceneSurface = none := by
  intro r hr
  by_contra hne
  have hsome := h.associated r hr (Option.isSome_iff_ne_none.mpr hne)
  rw [hsurface] at hsome
  cases hsome

theorem XwsState.Sound.registered_ne_none {w : XwsState} (h : w.Sound) {r : XwsRecord}
    (hr : w.record = some r) {l : Listener} (hl : l ∈ ownListeners) : w.registered l ≠ none :=
  Option.isSome_iff_ne_none.mp (h.own r hr l hl)

theorem XwsState.Sound.withSurface {w : XwsState} (h : w.Sound) (alive : Bool)
    (title : Option String) (surface : Option SurfaceId) (mapped : Bool)
    (hassociated : ∀ r ∈ w.record, r.sceneSurface.isSome → surface.isSome)
    (hdead : alive = false → w.record = none) :
    ({ w with alive, title, surface, mapped } : XwsState).Sound where
  accounts := h.accounts.congr fun handle => by cases handle <;> exact Iff.rfl
  fresh := h.fresh
  distinct := h.distinct
  sound := h.sound
  linked := h.linked
  own := h.own
  listening := h.listening
  associated := hassociated
  freed := h.freed
  dead := hdead

/-- Every permitted event keeps what holds between events. -/
theorem handleXws_sound {w : XwsState} {e : XwsEvent} (h : w.Sound)
    (hpermitted : XwsPermitted w e) : (handleXws w e).Sound := by
  cases e with
  | new title ok dup =>
      have hnone := h.dead hpermitted
      have hannounced := h.withSurface true title none false (by simp [hnone]) (by simp)
      exact handleNewXwaylandSurface_sound hannounced hnone ok dup rfl
  | associate surface ok =>
      obtain ⟨halive, hsurface⟩ := hpermitted
      have hnode := h.sceneSurface_eq_none hsurface
      have hassociated := h.withSurface w.alive w.title (some surface) w.mapped
        (fun _ _ _ => rfl) h.dead
      exact emit_sound .associate (·.handleXwsAssociate ok) hassociated (fun _ => hassociated)
        (fun r hr _ => handleXwsAssociate_sound hassociated hr (hnode r hr) rfl ok)
        (fun _ _ _ => hassociated)
  | dissociate =>
      refine emit_sound .dissociate XwsState.handleXwsDissociate h (P := fun w' =>
        ({ w' with surface := none, mapped := false } : XwsState).Sound) (fun hnone => ?_)
        (fun r hr _ => handleXwsDissociate_sound h hr) (fun r hr hsilent => ?_)
      · exact h.withSurface w.alive w.title none false (by simp [hnone]) h.dead
      · exact absurd hsilent (h.registered_ne_none hr (by decide))
  | map =>
      have hmapped := h.withSurface w.alive w.title w.surface true h.associated h.dead
      exact emit_sound .map XwsState.handleXwsMap hmapped (fun _ => hmapped)
        (fun r _ _ => setRecord_sound hmapped (fun r => by simp [Function.comp_def])
          fun _ => rfl)
        (fun _ _ _ => hmapped)
  | unmap =>
      have hmapped := h.withSurface w.alive w.title w.surface false h.associated h.dead
      exact emit_sound .unmap XwsState.handleXwsUnmap hmapped (fun _ => hmapped)
        (fun r _ _ => setRecord_sound hmapped (fun r => by simp [Function.comp_def])
          fun _ => rfl)
        (fun _ _ _ => hmapped)
  | setTitle title dup =>
      have htitled := h.withSurface w.alive title w.surface w.mapped h.associated h.dead
      exact emit_sound .setTitle (·.handleXwsSetTitle dup) htitled (fun _ => htitled)
        (fun r _ _ => setRecord_sound htitled (fun _ => rfl) fun _ => rfl)
        (fun _ _ _ => htitled)
  | destroy =>
      refine emit_sound .destroy XwsState.handleXwsDestroy h (P := fun w' =>
        ({ w' with alive := false, surface := none, mapped := false } : XwsState).Sound)
        (fun hnone => ?_) (fun r hr _ => handleXwsDestroy_sound h hr) (fun r hr hsilent => ?_)
      · exact h.withSurface false w.title none false (by simp [hnone]) fun _ => hnone
      · exact absurd hsilent (h.registered_ne_none hr (by decide))

theorem xwsUnborn_sound : xwsUnborn.Sound where
  accounts := .nil fun handle => by
    cases handle <;> simp [XwsState.InUse, xwsUnborn, XwsState.nodeNumber]
  fresh _ _ := ⟨rfl, rfl⟩
  distinct _ _ _ h := nomatch h
  sound := rfl
  linked := nofun
  own := nofun
  listening := nofun
  associated := nofun
  freed _ _ := rfl
  dead _ := rfl

/-- What the scene graph and the seat know of the record. -/
def XwsState.window (w : XwsState) : Option ZenXWaylandSurface :=
  w.record.map fun r =>
    { surface := w.surface, mapped := w.mapped
      sceneSurface := r.sceneSurface.map fun node => { enabled := node.enabled }
      listening := (w.registered .map).isSome }

/-- The event as it reaches the other modules, which see no titles. -/
def XwsEvent.bridge (x : XwsId) : XwsEvent → Option BridgeEvent
  | .new _ ok _ => some (.newXwaylandSurface x ok)
  | .associate surface ok => some (.associate x surface ok)
  | .dissociate => some (.dissociate x)
  | .map => some (.xwsMap x)
  | .unmap => some (.xwsUnmap x)
  | .setTitle .. => none
  | .destroy => some (.xwsDestroy x)

section Window

variable {w : XwsState} {x : XwsId} {p : Bridge}

theorem modify_window (f : ZenXWaylandSurface → ZenXWaylandSurface) :
    (p.modify x f).xwaylandSurfaces x = (p.xwaylandSurfaces x).map f :=
  Function.update_self ..

theorem release_window : (p.release x).xwaylandSurfaces x =
    (p.xwaylandSurfaces x).map fun r => { r with sceneSurface := none, listening := false } := by
  change ((p.modify x fun r => { r with listening := false }).modify x
    fun r => { r with sceneSurface := none }).xwaylandSurfaces x = _
  rw [modify_window, modify_window, Option.map_map]
  rfl

theorem window_of_freed (hr : w.record = none) : w.window = none := by
  rw [XwsState.window, hr]
  rfl

theorem window_of_record {r : XwsRecord} (hr : w.record = some r) :
    w.window = some
      { surface := w.surface, mapped := w.mapped
        sceneSurface := r.sceneSurface.map fun node => { enabled := node.enabled }
        listening := (w.registered .map).isSome } := by
  rw [XwsState.window, hr]
  rfl

theorem handleXwsAssociate_window (hp : p.xwaylandSurfaces x = w.window) {r : XwsRecord}
    (hr : w.record = some r) (hnode : r.sceneSurface = none) (ok : Bool) :
    (handleXwsAssociate p x ok).xwaylandSurfaces x = (w.handleXwsAssociate ok).window := by
  cases ok with
  | false =>
      rw [handleXwsAssociate_failed hr hnode]
      exact hp
  | true =>
      have hbridge : (handleXwsAssociate p x true).xwaylandSurfaces x =
          (p.xwaylandSurfaces x).map fun r =>
            { r with sceneSurface := some { enabled := true }, listening := true } := by
        change ((p.modify x fun r => { r with sceneSurface := some { enabled := true } }).modify
          x fun r => { r with listening := true }).xwaylandSurfaces x = _
        rw [modify_window, modify_window, Option.map_map]
        rfl
      rw [hbridge, hp, window_of_record hr]
      simp [XwsState.handleXwsAssociate, XwsState.wlrSceneSurfaceCreate, XwsState.wlSignalAdd,
        XwsState.setRecord, XwsState.window, hr]

theorem setEnabled_window (hp : p.xwaylandSurfaces x = w.window) (enabled : Bool) :
    (p.setEnabled x enabled).xwaylandSurfaces x = (w.setEnabled enabled).window := by
  rw [Bridge.setEnabled, modify_window, hp]
  rcases hr : w.record with _ | r
  · simp [XwsState.setEnabled, XwsState.setRecord, XwsState.window, hr]
  · simp [XwsState.setEnabled, XwsState.setRecord, XwsState.window, hr, Function.comp_def]

theorem emit_window (h : w.Sound) {l : Listener} (hl : l = .map ∨ l = .unmap)
    (hp : p.xwaylandSurfaces x = w.window) {handled : Bridge} {enabled : Bool}
    (hhandled : handled.xwaylandSurfaces = (p.setEnabled x enabled).xwaylandSurfaces) :
    (if p.listens x then handled else p).xwaylandSurfaces x =
      (w.emit l (·.setEnabled enabled)).window := by
  refine emit_sound l (·.setEnabled enabled) h
    (P := fun w' => (if p.listens x then handled else p).xwaylandSurfaces x = w'.window)
    (fun hnone => ?_) (fun r hr hsome => ?_) (fun r hr hsilent => ?_)
  · rw [if_neg]
    · exact hp
    · rw [Bridge.listens, hp, window_of_freed hnone]
      simp
  · have hiff := (h.listening r hr l hl).trans (h.listening r hr .map (.inl rfl)).symm
    rw [if_pos, hhandled]
    · exact setEnabled_window hp enabled
    · rw [Bridge.listens, hp, window_of_record hr]
      exact hiff.mp hsome
  · have hiff := (h.listening r hr l hl).trans (h.listening r hr .map (.inl rfl)).symm
    rw [if_neg]
    · exact hp
    · rw [Bridge.listens, hp, window_of_record hr]
      exact fun hmap => by simpa [hsilent] using hiff.mpr hmap

theorem modify_mapped_window (hp : p.xwaylandSurfaces x = w.window) (mapped : Bool) :
    (p.modify x fun r => { r with mapped }).xwaylandSurfaces x =
      XwsState.window { w with mapped } := by
  rw [modify_window, hp, XwsState.window, XwsState.window, Option.map_map]
  rfl

theorem handleXws_window {e : XwsEvent} (h : w.Sound) (hpermitted : XwsPermitted w e)
    (hunmapped : e = .dissociate → w.mapped = false) (hp : p.xwaylandSurfaces x = w.window) :
    ((e.bridge x).elim p (handleBridge p)).xwaylandSurfaces x = (handleXws w e).window := by
  cases e with
  | new title ok dup =>
      have hnone := h.dead hpermitted
      cases ok with
      | false =>
          have hwindow : (handleXws w (.new title false dup)).window = none :=
            window_of_freed hnone
          rw [hwindow]
          exact hp.trans (window_of_freed hnone)
      | true =>
          change Function.update p.xwaylandSurfaces x _ x = _
          rw [Function.update_self]
          simp [handleXws, XwsState.handleNewXwaylandSurface, ownListeners,
            XwsState.wlSignalAdd, XwsState.setRecord, XwsState.window, h.freed hnone]
  | associate surface ok =>
      obtain ⟨-, hsurface⟩ := hpermitted
      have hassociated := h.withSurface w.alive w.title (some surface) w.mapped
        (fun _ _ _ => rfl) h.dead
      have hp' : (p.modify x fun r => { r with surface := some surface }).xwaylandSurfaces x =
          XwsState.window { w with surface := some surface } := by
        rw [modify_window, hp, XwsState.window, XwsState.window, Option.map_map]
        rfl
      refine emit_sound .associate (·.handleXwsAssociate ok) hassociated
        (P := fun w' => (handleXwsAssociate _ x ok).xwaylandSurfaces x = w'.window)
        (fun hnone => ?_) (fun r hr _ => ?_) (fun r hr hsilent => ?_)
      · rw [window_of_freed hnone] at hp' ⊢
        cases ok with
        | false => exact hp'
        | true =>
            change ((Bridge.modify _ x _).modify x _).xwaylandSurfaces x = none
            rw [modify_window, modify_window, hp']
            rfl
      · exact handleXwsAssociate_window hp' hr (h.sceneSurface_eq_none hsurface r hr) ok
      · exact absurd hsilent (h.registered_ne_none hr (by decide))
  | dissociate =>
      change ((p.release x).modify x _).xwaylandSurfaces x = _
      rw [modify_window, release_window, hp]
      refine emit_sound .dissociate XwsState.handleXwsDissociate h (P := fun w' => _ =
        XwsState.window { w' with surface := none, mapped := false })
        (fun hnone => ?_) (fun r hr _ => ?_) (fun r hr hsilent => ?_)
      · rw [window_of_freed hnone, XwsState.window, hnone]
        rfl
      · obtain ⟨-, hregistered, hrecord⟩ := handleXwsDissociate_result h hr
        rw [window_of_record hr, XwsState.window, hrecord]
        simp [hregistered, hunmapped rfl]
      · exact absurd hsilent (h.registered_ne_none hr (by decide))
  | map =>
      have hmapped := h.withSurface w.alive w.title w.surface true h.associated h.dead
      refine emit_window (l := .map) hmapped (.inl rfl) (modify_mapped_window hp true) ?_
      rw [handleXwsMap]
      split <;> rfl
  | unmap =>
      have hmapped := h.withSurface w.alive w.title w.surface false h.associated h.dead
      exact emit_window (l := .unmap) hmapped (.inr rfl) (modify_mapped_window hp false) rfl
  | setTitle title dup =>
      have htitled := h.withSurface w.alive title w.surface w.mapped h.associated h.dead
      refine emit_sound .setTitle (·.handleXwsSetTitle dup) htitled
        (P := fun w' => p.xwaylandSurfaces x = w'.window)
        (fun _ => hp) (fun r hr _ => ?_) (fun _ _ _ => hp)
      have hr' : w.record = some r := hr
      rw [hp, window_of_record hr']
      simp [XwsState.handleXwsSetTitle, XwsState.setRecord, XwsState.window, hr']
  | destroy =>
      change Function.update (p.release x).xwaylandSurfaces x none x = _
      rw [Function.update_self]
      refine emit_sound .destroy XwsState.handleXwsDestroy h (P := fun w' => none =
        XwsState.window { w' with alive := false, surface := none, mapped := false })
        (fun hnone => ?_) (fun r hr _ => rfl) (fun r hr hsilent => ?_)
      · rw [XwsState.window, hnone]
        rfl
      · exact absurd hsilent (h.registered_ne_none hr (by decide))

end Window

/-- The record and what the other modules see of it go through a run together. -/
theorem run_window {w : XwsState} {x : XwsId} {p : Bridge} {events : List XwsEvent}
    (hw : w.Sound)
    (h : Along handleXws (fun w e => XwsPermitted w e ∧ (e = .dissociate → w.mapped = false))
      w events) (hp : p.xwaylandSurfaces x = w.window) :
    (exec handleBridge p (events.filterMap (·.bridge x))).xwaylandSurfaces x =
      (exec handleXws w events).window := by
  induction events generalizing w p with
  | nil => exact hp
  | cons e events ih =>
      obtain ⟨⟨hpermitted, hunmapped⟩, hrest⟩ := h
      have hwindow := handleXws_window hw hpermitted hunmapped hp
      have hnext := ih (handleXws_sound hw hpermitted) hrest hwindow
      rw [exec_cons, ← hnext, List.filterMap_cons]
      cases e.bridge x with
      | none => rfl
      | some e' => rfl

/-- The life cycle is kept to in every run of permitted events, and the other modules see the
window as the record has it, as long as a surface is unmapped before it is dissociated. -/
theorem run_lifeCycle (events : List XwsEvent)
    (h : Along handleXws XwsPermitted xwsUnborn events) :
    LifeCycle (exec handleXws xwsUnborn events) ∧
      (Along handleXws (fun w e => e = .dissociate → w.mapped = false) xwsUnborn events →
        ∀ x p, p.xwaylandSurfaces x = none →
          (exec handleBridge p (events.filterMap (·.bridge x))).xwaylandSurfaces x =
            (exec handleXws xwsUnborn events).window) := by
  refine ⟨(h.invariant (fun _ _ => handleXws_sound) xwsUnborn_sound).lifeCycle, ?_⟩
  intro hunmapped x p hp
  exact run_window xwsUnborn_sound (h.and hunmapped) hp

/-- A failed association, one that is undone, and one that is not. -/
theorem run_lifeCycle_reassociated :
    LifeCycle (exec handleXws xwsUnborn
      [.new (some "xterm") true true, .associate 1 false, .dissociate, .associate 2 true,
        .map, .setTitle none true, .unmap, .dissociate, .associate 3 true, .map, .destroy]) :=
  (run_lifeCycle _ (by decide)).1

end ZenOS.Compositor.Xwayland
