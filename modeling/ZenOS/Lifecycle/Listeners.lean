import ZenOS.Lifecycle.Release

/-!
The compositor's own listeners.  `new_output` is registered with the backend in step 9 and
never removed, so that the backend is listened to whenever it is destroyed later.  The
modules for input and windows do remove theirs.
-/

namespace ZenOS.Lifecycle

open ZenOS.Library.Programs

/-- No own listener is linked, and none has been when its object was destroyed. -/
structure Silent (w : Wiring) : Prop where
  links : ∀ l, w.links (.own l) = false
  clean : ∀ g, .listened g ∉ w.faults

namespace Silent

variable {w w' : Wiring}

theorem keepsOwn (h : Silent w) (hk : KeepsOwn w w') : Silent w' :=
  ⟨fun l => (hk.links l).trans (h.links l), fun g hg => h.clean g (hk.listened g hg)⟩

theorem destroyGlobal (h : Silent w) (g : Global) : Silent (w.destroyGlobal g) := by
  rw [Wiring.destroyGlobal, if_neg (by simp [h.links])]
  exact ⟨h.links, h.clean⟩

theorem unlink (h : Silent w) (l : GlobalListener) : Silent (w.unlink (.own l)) :=
  ⟨fun l' => by simp [h.links], h.clean⟩

theorem survives : Survives Silent where
  forget _ _ slots _ hkind _ _ _ h := h.keepsOwn (forget_touches hkind slots).toKeepsOwn
  unregister w l _ h := by
    refine ⟨fun l' => by simp [h.links], ?_⟩
    rw [Wiring.unregister]
    split <;> exact h.clean
  destroyGlobal _ h := h.destroyGlobal _

end Silent

theorem freeToplevels_keepsOwn (w : Wiring) : KeepsOwn w w.freeToplevels :=
  freeToplevels_keeps (fun w' n _ hw => hw.trans (discard_touches w' n).toKeepsOwn) (.refl w)

theorem Silent.compositorDestroy {w : Wiring} (h : Silent w) (o : Ownership)
    (order : List Obj) : Silent (w.compositorDestroy o order) := by
  have hinput := Silent.survives.inputDestroy (Silent.survives.forget.freeLayerSurfaces h)
    (o.has .cursor)
  have hxdg := (hinput.keepsOwn (freeToplevels_keepsOwn _)).unlink .newXdgToplevel
  rw [Wiring.compositorDestroy, unlinkIfLinked_eq]
  exact coreDestroy_keeps (fun _ _ h => h.keepsOwn vanish_touches.toKeepsOwn)
    (fun _ g h => h.destroyGlobal g) hxdg _ _ order

/-- `new_output` is linked to the backend. -/
def Tapped (w : Wiring) : Prop :=
  w.links (.own .newOutput) = true

namespace Tapped

variable {w w' : Wiring} {s : World}

theorem keepsOwn (h : Tapped w) (hk : KeepsOwn w w') : Tapped w' :=
  (hk.links _).trans h

theorem stable : Stable Tapped where
  listInit _ _ h := h
  createGlobal _ _ h := h
  register w l h _ := by
    rw [Tapped, Wiring.register_links, h, Bool.or_true]

theorem destroyGlobal (h : Tapped w) (g : Global) : Tapped (w.destroyGlobal g) := by
  rwa [Tapped, Wiring.destroyGlobal_links]

theorem survives : Survives Tapped where
  forget _ _ slots _ hkind _ _ _ h := h.keepsOwn (forget_touches hkind slots).toKeepsOwn
  unregister w l hl h := by
    rw [Tapped, Wiring.unregister_links, h]
    simp [hl.symm]
  destroyGlobal _ h := h.destroyGlobal _

theorem arrive (h : Tapped s.wired) (a : Arrival) : Tapped (arrive s a).wired :=
  (show Tapped (s.wired.announce ⟨a.kind, s.wired.next⟩) from h).keepsOwn
    (arrive_touches s a).toKeepsOwn

theorem vanish (h : Tapped w) (o : Obj) : Tapped (vanish w o) :=
  h.keepsOwn vanish_touches.toKeepsOwn

theorem startEvent (h : Tapped s.wired) (e : StartEvent) : Tapped (startEvent s e).wired := by
  cases e with
  | output allocs => exact h.arrive _
  | device type ok => exact h.arrive _
  | vanish o => exact h.vanish o

theorem lasting : Lasting Tapped where
  vanish _ o h := h.vanish o
  associate _ _ ok h := h.keepsOwn (associate_touches ok).toKeepsOwn
  dissociate _ _ h := h.keepsOwn dissociate_touches.toKeepsOwn
  useToplevels _ h := (congrFun (useList_links _ _) _).trans h
  createGlobal := stable.createGlobal
  register _ _ hl h := stable.registerPlain hl h

theorem compositorDestroy (h : Tapped w) {o : Ownership} (hbackend : o.has .backend = true)
    (order : List Obj) : .listened .backend ∈ (w.compositorDestroy o order).faults := by
  have hinput := survives.inputDestroy (survives.forget.freeLayerSurfaces h) (o.has .cursor)
  have hunlink : ∀ {w}, Tapped w → Tapped (w.unlink (.own .newXdgToplevel)) := by
    intro w hw
    rw [Tapped, Wiring.unlink_links, hw]
    rfl
  have hxdg := hunlink (hinput.keepsOwn (freeToplevels_keepsOwn _))
  have hvanishAll : ∀ {w}, Tapped w → ∀ os, Tapped (vanishAll w os) :=
    fun hw os => vanishAll_keeps (fun w o h => h.vanish o) hw os
  have hdestroy : ∀ {w}, Tapped w → .listened .backend ∈ (w.destroyGlobal .backend).faults := by
    intro w hw
    have hany : (globalListeners.any fun l => l.source = .backend && w.links (.own l)) = true := by
      simp only [List.any_eq_true]
      exact ⟨.newOutput, by decide, by rw [hw]; rfl⟩
    rw [Wiring.destroyGlobal, if_pos hany]
    exact List.mem_cons_self
  have hbackendDestroy : ∀ {w}, Tapped w →
      .listened .backend ∈ (wlrBackendDestroy order w).faults :=
    fun hw => hdestroy (hvanishAll hw _)
  rw [Wiring.compositorDestroy, unlinkIfLinked_eq, hbackend]
  cases o.has .wlDisplay with
  | true =>
      have hclients : Tapped (wlDisplayDestroyClients order _) := hvanishAll hxdg _
      simp only [Wiring.coreDestroy, if_true]
      exact wlDisplayDestroy_keeps (J := fun w => .listened .backend ∈ w.faults)
        (fun w g h => destroyGlobal_faults g h) (hbackendDestroy hclients)
  | false => exact hbackendDestroy hxdg

end Tapped

/-- The objects whose listeners no module removes. -/
def neglected : List Global :=
  [.backend, .layerShell, .lockMgr, .xwayland]

/-- Others have not been listened to when they were destroyed. -/
def Tidy (w : Wiring) : Prop :=
  ∀ g, .listened g ∈ w.faults → g ∈ neglected

/-- A listener that is linked has its `notify` set, so that it is removed. -/
structure Noted (w : Wiring) : Prop where
  notify : ∀ l, w.links (.own l) = true → w.notify l = true
  tidy : Tidy w

/-- What listeners there are is on objects that are neglected. -/
structure Tidied (w : Wiring) : Prop where
  removed : ∀ l, l.source ∉ neglected → w.links (.own l) = false
  tidy : Tidy w

section Removal

variable {w w' : Wiring} {s : World}

theorem Tidy.destroyGlobal (h : Tidy w) {g : Global}
    (hg : g ∉ neglected → ∀ l, l.source = g → w.links (.own l) = false) :
    Tidy (w.destroyGlobal g) := by
  rw [Wiring.destroyGlobal]
  split
  · next hany =>
      obtain ⟨l, -, hl⟩ := List.any_eq_true.mp hany
      simp only [Bool.and_eq_true, decide_eq_true_eq] at hl
      intro g' hg'
      rcases List.mem_cons.mp hg' with heq | hmem
      · cases heq
        by_contra hneglected
        exact Bool.false_ne_true ((hg hneglected l hl.1).symm.trans hl.2)
      · exact h g' hmem
  · exact h

theorem Tidied.keepsOwn (h : Tidied w) (hk : KeepsOwn w w') : Tidied w' :=
  ⟨fun l hl => (hk.links l).trans (h.removed l hl), fun g hg => h.tidy g (hk.listened g hg)⟩

theorem Tidied.destroyGlobal (h : Tidied w) (g : Global) : Tidied (w.destroyGlobal g) := by
  refine ⟨fun l hl => ?_, h.tidy.destroyGlobal fun hg l hl => h.removed l (hl ▸ hg)⟩
  rw [Wiring.destroyGlobal_links]
  exact h.removed l hl

namespace Noted

theorem keepsOwn (h : Noted w) (hk : KeepsOwn w w') : Noted w' where
  notify l hl := by
    rw [hk.notify]
    exact h.notify l ((hk.links l).symm.trans hl)
  tidy g hg := h.tidy g (hk.listened g hg)

theorem createGlobal (h : Noted w) (g : Global) : Noted (w.createGlobal g) :=
  ⟨h.notify, h.tidy⟩

theorem register (h : Noted w) (l : GlobalListener) : Noted (w.register l) := by
  refine ⟨fun l' hl' => ?_, h.tidy⟩
  change Function.update w.notify l true l' = true
  rcases eq_or_ne l' l with rfl | hne
  · exact Function.update_self _ _ _
  · rw [Wiring.register_links] at hl'
    rw [Function.update_of_ne hne]
    exact h.notify l' (by simpa [hne] using hl')

theorem unregister (h : Noted w) (l : GlobalListener) : Noted (w.unregister l) := by
  rw [Wiring.unregister]
  split
  · refine ⟨fun l' hl' => ?_, h.tidy⟩
    have hlinked : (w.unlink (.own l)).links (.own l') = true := hl'
    rw [Wiring.unlink_links] at hlinked
    change Function.update w.notify l false l' = true
    rcases eq_or_ne l' l with rfl | hne
    · simp at hlinked
    · rw [Function.update_of_ne hne]
      exact h.notify l' (Bool.and_eq_true_iff.mp hlinked).2
  · exact h

theorem unregister_links_self (h : Noted w) (l : GlobalListener) :
    (w.unregister l).links (.own l) = false := by
  rw [Wiring.unregister_links]
  cases hl : w.links (.own l) with
  | false => exact Bool.and_false _
  | true => simp [h.notify l hl]

theorem unregisterAll (h : Noted w) (ls : List GlobalListener) :
    Noted (ls.foldl Wiring.unregister w) ∧ ∀ l, l ∈ ls ∨ w.links (.own l) = false →
      (ls.foldl Wiring.unregister w).links (.own l) = false := by
  induction ls generalizing w with
  | nil => exact ⟨h, fun l hl => hl.resolve_left List.not_mem_nil⟩
  | cons l ls ih =>
      obtain ⟨hnoted, hremoved⟩ := ih (h.unregister l)
      refine ⟨hnoted, fun l' hl' => hremoved l' ?_⟩
      rcases hl' with hmem | hfalse
      · rcases List.mem_cons.mp hmem with rfl | hmem
        · exact .inr (h.unregister_links_self l')
        · exact .inl hmem
      · right
        rw [Wiring.unregister_links, hfalse, Bool.and_false]

theorem stable : Stable Noted where
  listInit _ _ h := ⟨h.notify, h.tidy⟩
  createGlobal _ g h := h.createGlobal g
  register _ l h _ := h.register l

theorem lasting : Lasting Noted where
  vanish _ _ h := h.keepsOwn vanish_touches.toKeepsOwn
  associate _ _ ok h := h.keepsOwn (associate_touches ok).toKeepsOwn
  dissociate _ _ h := h.keepsOwn dissociate_touches.toKeepsOwn
  useToplevels w h :=
    h.keepsOwn (useList_touches (o := ⟨.toplevel, 0⟩) (w := w) rfl).toKeepsOwn
  createGlobal _ g h := h.createGlobal g
  register _ l _ h := h.register l

theorem arrive (h : Noted s.wired) (a : Arrival) : Noted (arrive s a).wired :=
  (show Noted (s.wired.announce ⟨a.kind, s.wired.next⟩) from ⟨h.notify, h.tidy⟩).keepsOwn
    (arrive_touches s a).toKeepsOwn

theorem startEvent (h : Noted s.wired) (e : StartEvent) : Noted (startEvent s e).wired := by
  cases e with
  | output allocs => exact h.arrive _
  | device type ok => exact h.arrive _
  | vanish o => exact lasting.vanish _ o h

theorem forgets_keepsOwn (w : Wiring) : Forgets (KeepsOwn w) :=
  fun _ _ slots _ hkind _ _ _ h => h.trans (forget_touches hkind slots).toKeepsOwn

/-- `zen_input_destroy` removes the listeners of the cursor, of the seat and `new_input`. -/
theorem inputDestroy (h : Noted w) (cursor : Bool) :
    Noted (w.inputDestroy cursor) ∧ ∀ l, l.source ∈ [.cursor, .seat] →
      (w.inputDestroy cursor).links (.own l) = false := by
  have hfree := h.keepsOwn ((forgets_keepsOwn w).freeKeyboards (.refl w))
  obtain ⟨hnoted, hremoved⟩ := hfree.unregisterAll
    [.cursorMotion, .cursorMotionAbsolute, .cursorButton, .requestCursor, .newInput]
  have hlinks : ∀ l : GlobalListener, l.source ∈ [.cursor, .seat] →
      (w.inputDestroy false).links (.own l) = false := by
    intro l hl
    refine hremoved l (.inl ?_)
    cases l <;> simp [GlobalListener.source] at hl ⊢
  cases cursor with
  | false => exact ⟨hnoted, hlinks⟩
  | true =>
      change Noted ((w.inputDestroy false).destroyGlobal .cursor) ∧ ∀ l : GlobalListener,
        l.source ∈ [.cursor, .seat] →
          ((w.inputDestroy false).destroyGlobal .cursor).links (.own l) = false
      rw [Wiring.destroyGlobal_links]
      refine ⟨⟨?_, hnoted.tidy.destroyGlobal fun _ l hl => hlinks l (by simp [hl])⟩, hlinks⟩
      rw [Wiring.destroyGlobal_links, Wiring.destroyGlobal_notify]
      exact hnoted.notify

theorem compositorDestroy (h : Noted w) (o : Ownership) (order : List Obj) :
    Tidy (w.compositorDestroy o order) := by
  have hlayers := h.keepsOwn ((forgets_keepsOwn w).freeLayerSurfaces (.refl w))
  obtain ⟨hnoted, hremoved⟩ := hlayers.inputDestroy (o.has .cursor)
  have hkeeps := freeToplevels_keepsOwn (w.freeLayerSurfaces.inputDestroy (o.has .cursor))
  have htidied : Tidied ((w.freeLayerSurfaces.inputDestroy (o.has .cursor)).freeToplevels.unlink
      (.own .newXdgToplevel)) := by
    refine ⟨fun l hl => ?_, fun g hg => hnoted.tidy g (hkeeps.listened g hg)⟩
    have hsource : l = .newXdgToplevel ∨ l.source ∈ [.cursor, .seat] := by
      cases l <;> simp [GlobalListener.source, neglected] at hl ⊢
    rw [Wiring.unlink_links, hkeeps.links]
    rcases hsource with rfl | hsource
    · simp
    · rw [hremoved l hsource, Bool.and_false]
  rw [Wiring.compositorDestroy, unlinkIfLinked_eq]
  exact (coreDestroy_keeps (fun _ _ h => h.keepsOwn vanish_touches.toKeepsOwn)
    (fun _ g h => h.destroyGlobal g) htidied _ _ order).tidy

end Noted

end Removal

section Life

theorem createCore_succeeds (calls : CreateCalls) (s : World) :
    (exec (createCore calls) s).1 = calls.coreSucceeds := by
  have hcreate : ∀ p ok s, (exec (create p ok) s).1 = ok := by
    intro p ok s
    rw [create, exec_seq_fst, exec_ensure, exec_update, Bool.and_true]
  have hglobal : ∀ g ok s, (exec (createGlobal g ok) s).1 = ok := by
    intro g ok s
    rw [createGlobal, exec_seq_fst, exec_ensure, exec_update, Bool.and_true]
  simp only [createCore, exec_seq_fst, hcreate, hglobal, exec_ensure, exec_update,
    CreateCalls.coreSucceeds, Bool.true_and, Bool.and_assoc]

theorem finish_silent (plan : Plan) (h : plan.calls.coreSucceeds = false) :
    Silent plan.finish.wired := by
  have hcore : Triple (OnWiring Silent) (createCore plan.calls) (OnWiring Silent)
      (OnWiring Silent) := createCore_wired (fun _ _ hw => ⟨hw.links, hw.clean⟩) plan.calls
  have hzeroed : OnWiring Silent zeroed := ⟨fun _ => rfl, fun _ hg => by cases hg⟩
  have hcreated : plan.created =
      (false, zenCompositorDestroy plan.order (exec (createCore plan.calls) zeroed).2) := by
    have hsteps := exec_seq (createCore plan.calls) (createRest plan.calls plan.start) zeroed
    rw [createCore_succeeds, h, if_neg Bool.false_ne_true] at hsteps
    rw [Plan.created, zenCompositorCreate, exec_onFailure, hsteps, createCore_succeeds, h]
    exact if_neg Bool.false_ne_true
  rw [Plan.finish, hcreated, if_neg Bool.false_ne_true, zenCompositorDestroy_wired]
  exact (hcore.always hzeroed).compositorDestroy _ _

/-- Afterwards the backend is there and listened to, until it is destroyed. -/
theorem finish_tapped (plan : Plan) (h : plan.calls.coreSucceeds = true) :
    .listened .backend ∈ plan.finish.wired.faults := by
  have hstage := createCore_stage plan.calls zeroed zeroed_stage
  have hsteps := exec_seq (createCore plan.calls) (createRest plan.calls plan.start) zeroed
  rw [createCore_succeeds, h, if_pos rfl] at hstage hsteps
  generalize (exec (createCore plan.calls) zeroed).2 = s at hstage hsteps
  have hinput : ∀ s, OnWiring Tapped s → OnWiring Tapped (zenInputDestroy s) := by
    intro s hs
    rw [OnWiring, zenInputDestroy_wired]
    exact Tapped.survives.inputDestroy hs _
  have hregister : OnWiring (fun w => Tapped (w.register .newOutput)) s := by
    rw [OnWiring, Tapped, Wiring.register_links]
    rfl
  have hrest := ((createRest_stage plan.calls plan.start).and (createRest_wired Tapped.stable
    plan.calls plan.start (fun s e hs => hs.startEvent e) hinput)) s ⟨hstage, hregister⟩
  have hdestroy : ∀ s, Tapped s.wired → s.owned.has .backend = true →
      .listened .backend ∈ (zenCompositorDestroy plan.order s).wired.faults := by
    intro s htapped hbackend
    rw [zenCompositorDestroy_wired]
    exact htapped.compositorDestroy hbackend plan.order
  have hcreated : plan.created = exec (zenCompositorCreate plan.calls plan.start plan.order)
      zeroed := rfl
  rw [zenCompositorCreate, exec_onFailure, hsteps] at hcreated
  split at hrest
  · next hok =>
      rw [if_pos hok] at hcreated
      have hcreate : plan.created.1 = true := by rw [hcreated, hok]
      have htapped : Tapped plan.ended.wired :=
        Tapped.lasting.run (fun _ a hs => hs.arrive a) plan.events (hcreated ▸ hrest.2.1)
      rw [Plan.finish, if_pos hcreate]
      exact hdestroy _ htapped ((ended_running plan hcreate).stage.held _ (by decide))
  · next hok =>
      rw [if_neg hok] at hcreated
      rw [Plan.finish, hcreated, if_neg Bool.false_ne_true]
      exact hdestroy _ hrest.2 (hrest.1.held _ (by decide))

/-- The cursor, the seat, the xdg shell and the output layout are never destroyed while the
compositor listens to them. -/
theorem finish_tidy (plan : Plan) : Tidy plan.finish.wired := by
  have hinput : ∀ s, OnWiring Noted s → OnWiring Noted (zenInputDestroy s) := by
    intro s hs
    rw [OnWiring, zenInputDestroy_wired]
    exact (Noted.inputDestroy hs _).1
  have hdestroy : ∀ s, OnWiring Noted s → OnWiring Tidy (zenCompositorDestroy plan.order s) := by
    intro s hs
    rw [OnWiring, zenCompositorDestroy_wired]
    exact hs.compositorDestroy _ _
  have hzeroed : OnWiring Noted zeroed := by
    refine ⟨fun l hl => ?_, fun g hg => ?_⟩
    · cases hl
    · cases hg
  have hcreated := zenCompositorCreate_wired Noted.stable plan.calls plan.start plan.order
    (fun s e hs => hs.startEvent e) hinput hdestroy zeroed hzeroed
  rw [Plan.finish]
  split
  · next hok =>
      have hnoted : Noted plan.created.2.wired := ((if_pos hok).mp hcreated).1
      exact hdestroy _ (Noted.lasting.run (fun _ a hs => hs.arrive a) plan.events hnoted)
  · next hok => exact (if_neg hok).mp hcreated

/-- No object is destroyed while the compositor listens to it exactly if the creation has
failed before step 9, and those that it tidies up are never destroyed so. -/
theorem finish_unlistened_iff (plan : Plan) :
    ((∀ g, .listened g ∉ plan.finish.wired.faults) ↔ plan.calls.coreSucceeds = false) ∧
      Tidy plan.finish.wired := by
  refine ⟨?_, finish_tidy plan⟩
  constructor
  · intro hclean
    by_contra hcore
    exact hclean .backend (finish_tapped plan (Bool.not_eq_false _ ▸ hcore))
  · exact fun hcore => (finish_silent plan hcore).clean

/-- Nothing fails, nothing comes and nothing goes. -/
def quietLife : Plan :=
  { calls := .succeed, start := [], events := [], order := [] }

theorem quiet_life_leaves_listeners :
    quietLife.created.1 = true ∧
      ∀ g ∈ [Global.backend, .layerShell, .lockMgr],
        .listened g ∈ quietLife.finish.wired.faults := by
  decide +kernel

end Life

end ZenOS.Lifecycle
