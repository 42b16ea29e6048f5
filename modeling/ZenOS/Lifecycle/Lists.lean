import ZenOS.Lifecycle.Handlers

/-!
No list is used before it is initialised.  What is linked into a list is announced to a
listener, and the listener is registered after its list has been initialised.
-/

namespace ZenOS.Lifecycle

open ZenOS.Library.Programs

/-- Whoever may use a list finds it initialised. -/
structure Ready (w : Wiring) : Prop where
  guarded : ∀ l, w.links (.own l) = true → ∀ head ∈ l.list, (w.lists head).isSome
  records : ∀ o slot, w.links (.record o slot) = true → ∀ head ∈ o.kind.list, (w.lists head).isSome
  clean : .uninitialised ∉ w.faults

theorem Arrival.list_listener (a : Arrival) {head : ListHead} (h : head ∈ a.kind.list) :
    head ∈ a.listener.list := by
  cases a with
  | device type ok =>
      cases type with
      | keyboard => exact h
      | _ => cases h
  | output allocs => cases h
  | xwaylandSurface ok => cases h
  | _ => exact h

namespace Ready

variable {w w' : Wiring} {o : Obj}

theorem touches (h : Ready w) (ht : Touches o w w')
    (hlists : ∀ head ∈ o.kind.list, (w.lists head).isSome) : Ready w' where
  guarded l hl head hhead := by
    rw [ht.links] at hl
    rw [ht.inits]
    exact h.guarded l hl head hhead
  records o' slot hl head hhead := by
    rw [ht.inits]
    rcases eq_or_ne o' o with rfl | hne
    · exact hlists head hhead
    · rw [ht.others _ _ hne] at hl
      exact h.records o' slot hl head hhead
  clean hf := h.clean (ht.ready hlists hf)

theorem of_eq (h : Ready w) (hlinks : w'.links = w.links) (hlists : w'.lists = w.lists)
    (hfaults : w'.faults = w.faults) : Ready w' where
  guarded := by
    rw [hlinks, hlists]
    exact h.guarded
  records := by
    rw [hlinks, hlists]
    exact h.records
  clean := by
    rw [hfaults]
    exact h.clean

theorem arrive {s : World} (h : Ready s.wired) (a : Arrival) : Ready (arrive s a).wired := by
  have hannounce : Ready (s.wired.announce ⟨a.kind, s.wired.next⟩) := h.of_eq rfl rfl rfl
  by_cases hl : s.wired.links (.own a.listener) = true
  · refine hannounce.touches (arrive_touches s a) fun head hhead => ?_
    exact h.guarded a.listener hl head (a.list_listener hhead)
  · rw [arrive_of_unlinked hl]
    exact hannounce

theorem associate (h : Ready w) (ok : Bool) : Ready (associate w o ok) :=
  associate_keeps h (fun _ hkind ht => h.touches ht (by simp [hkind, Kind.list])) ok

theorem dissociate (h : Ready w) : Ready (dissociate w o) :=
  dissociate_keeps h fun _ hkind ht => h.touches ht (by simp [hkind, Kind.list])

theorem vanish (h : Ready w) : Ready (vanish w o) := by
  have hwithdraw : Ready (w.withdraw o) := h.dissociate.of_eq rfl rfl rfl
  rw [Lifecycle.vanish]
  split
  · dsimp only
    split
    · next hl => exact hwithdraw.touches handleDestroy_touches (hwithdraw.records o _ hl)
    · exact hwithdraw
  · exact h

theorem vanishAll (h : Ready w) (os : List Obj) : Ready (vanishAll w os) :=
  List.foldlRecOn os Lifecycle.vanish h fun _ hw _ _ => hw.vanish

theorem startEvent {s : World} (h : Ready s.wired) (e : StartEvent) :
    Ready (startEvent s e).wired := by
  cases e with
  | output allocs => exact h.arrive _
  | device type ok => exact h.arrive _
  | vanish o => exact h.vanish

theorem useList (h : Ready w) {head : ListHead} (hlist : (w.lists head).isSome) :
    Ready (w.useList head) := by
  rwa [Wiring.useList, if_pos hlist]

end Ready

theorem stable_ready : Stable Ready where
  listInit w head h := by
    have hinits : ∀ head', (w.lists head').isSome = true →
        ((w.listInit head).lists head').isSome = true := by
      intro head' hhead'
      rcases eq_or_ne head' head with rfl | hne
      · simp [Wiring.listInit]
      · simpa [Wiring.listInit, Function.update_of_ne hne] using hhead'
    exact ⟨fun l hl head' hhead' => hinits _ (h.guarded l hl head' hhead'),
      fun o slot hl head' hhead' => hinits _ (h.records o slot hl head' hhead'), h.clean⟩
  createGlobal _ _ h := h.of_eq rfl rfl rfl
  register w l h hlist := by
    refine ⟨fun l' hl' head hhead => ?_, fun o slot hl head hhead => ?_, h.clean⟩
    · rcases eq_or_ne l' l with rfl | hne
      · exact hlist head hhead
      · have hne' : Listener.own l' ≠ .own l := by simpa using hne
        exact h.guarded l' ((Function.update_of_ne hne' _ _).symm.trans hl') head hhead
    · exact h.records o slot ((update_own_record o w.links l true slot).symm.trans hl) head hhead

section Phases

variable {w : Wiring}

theorem Ready.destroyGlobal (h : Ready w) (g : Global) : Ready (w.destroyGlobal g) := by
  have hclean : ∀ {b : Bool}, .uninitialised ∉
      (if b then w.fault (.listened g) else w).faults := by
    intro b
    cases b with
    | true => exact fun hf => h.clean ((List.mem_cons.mp hf).resolve_left (by simp))
    | false => exact h.clean
  rw [Wiring.destroyGlobal]
  split
  · exact ⟨h.guarded, h.records, hclean (b := true)⟩
  · exact ⟨h.guarded, h.records, h.clean⟩

theorem Ready.unlink (h : Ready w) (l : GlobalListener) : Ready (w.unlink (.own l)) := by
  refine ⟨fun l' hl' => ?_, fun o slot hl => ?_, h.clean⟩
  · rcases eq_or_ne l' l with rfl | hne
    · exact absurd ((Function.update_self _ _ _).symm.trans hl') (by simp)
    · have hne' : Listener.own l' ≠ .own l := by simpa using hne
      exact h.guarded l' ((Function.update_of_ne hne' _ _).symm.trans hl')
  · exact h.records o slot ((update_own_record o w.links l false slot).symm.trans hl)

theorem survives_ready : Survives Ready where
  forget w o slots head hkind _ _ hlist h := by
    refine h.touches (forget_touches hkind slots) fun head' hhead' => ?_
    rw [hkind] at hhead'
    cases hhead'
    exact hlist
  unregister w l _ h := by
    rw [Wiring.unregister]
    split
    · exact (h.unlink l).of_eq rfl rfl rfl
    · exact h
  destroyGlobal _ h := h.destroyGlobal _

theorem Ready.freeToplevels (h : Ready w) : Ready w.freeToplevels := by
  refine freeToplevels_keeps (fun w n hlist hw => hw.touches (discard_touches w n) ?_) h
  intro head hhead
  cases hhead
  exact hlist

theorem Ready.compositorDestroy (h : Ready w) (o : Ownership) (order : List Obj) :
    Ready (w.compositorDestroy o order) := by
  have hinput := survives_ready.inputDestroy (survives_ready.forget.freeLayerSurfaces h)
    (o.has .cursor)
  have hxdg := hinput.freeToplevels.unlink .newXdgToplevel
  rw [Wiring.compositorDestroy, unlinkIfLinked_eq]
  exact coreDestroy_keeps (fun _ _ h => h.vanish) (fun _ g h => h.destroyGlobal g) hxdg _ _ order

end Phases

section Life

def AllLists (w : Wiring) : Prop :=
  ∀ head, (w.lists head).isSome = true

theorem AllLists.of_inits {w w' : Wiring} (h : AllLists w)
    (hinits : ∀ head, (w'.lists head).isSome = (w.lists head).isSome) : AllLists w' :=
  fun head => (hinits head).trans (h head)

theorem lasting_ready : Lasting fun w => Ready w ∧ AllLists w where
  vanish _ _ h := ⟨h.1.vanish, h.2.of_inits vanish_touches.inits⟩
  associate _ _ ok h := ⟨h.1.associate ok, h.2.of_inits (associate_touches ok).inits⟩
  dissociate _ _ h := ⟨h.1.dissociate, h.2.of_inits dissociate_touches.inits⟩
  useToplevels _ h := ⟨h.1.useList (h.2 _), h.2.of_inits fun head => by simp⟩
  createGlobal _ _ h := ⟨stable_ready.createGlobal _ _ h.1, h.2⟩
  register _ _ hl h := ⟨stable_ready.registerPlain hl h.1, h.2⟩

theorem created_ready (plan : Plan) :
    if plan.created.1 then Ready plan.created.2.wired ∧ AllLists plan.created.2.wired
    else Ready plan.created.2.wired := by
  have hinput : ∀ s, OnWiring Ready s → OnWiring Ready (zenInputDestroy s) := by
    intro s hs
    rw [OnWiring, zenInputDestroy_wired]
    exact survives_ready.inputDestroy hs _
  have hdestroy : ∀ s, OnWiring Ready s → OnWiring Ready (zenCompositorDestroy plan.order s) := by
    intro s hs
    rw [OnWiring, zenCompositorDestroy_wired]
    exact hs.compositorDestroy _ _
  have hzeroed : OnWiring Ready zeroed := by
    constructor <;> simp [zeroed]
  have h := zenCompositorCreate_wired stable_ready plan.calls plan.start plan.order
    (fun s e hs => hs.startEvent e) hinput hdestroy zeroed hzeroed
  rw [Plan.created]
  split at h
  · next hok => exact (if_pos hok).mpr ⟨h.1, h.2.lists⟩
  · next hok => exact (if_neg hok).mpr h

/-- In a whole life no list is used before it is initialised. -/
theorem finish_ready (plan : Plan) : Ready plan.finish.wired := by
  have hcreated := created_ready plan
  rw [Plan.finish]
  split at hcreated
  · next hok =>
      have hended := lasting_ready.run
        (fun s a hs => ⟨hs.1.arrive a, hs.2.of_inits (arrive_touches s a).inits⟩)
        plan.events hcreated
      rw [if_pos hok, zenCompositorDestroy_wired]
      exact hended.1.compositorDestroy _ _
  · next hok => rwa [if_neg hok]

end Life

end ZenOS.Lifecycle
