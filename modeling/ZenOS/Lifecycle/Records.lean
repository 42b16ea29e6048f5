import ZenOS.Lifecycle.Handlers

/-!
Records and their listeners.  A record is freed when none of its listeners is linked any
more, with one exception: `zen_xdg_destroy` frees the records of the toplevels that are
still there and leaves their listeners to the clients.
-/

namespace ZenOS.Lifecycle

open ZenOS.Library.Programs

/-- A listener is linked in a record that is freed, or a handler runs on such a record. -/
def Fault.isStale : Fault → Bool
  | .freedLinked _ | .calledFreed _ => true
  | .uninitialised | .listened _ => false

/-- The listeners that are linked are those of live records. -/
structure Sound (w : Wiring) : Prop where
  live : ∀ o slot, w.links (.record o slot) = true → w.records o = .live
  slots : ∀ o slot, w.links (.record o slot) = true → slot ∈ o.kind.slots
  fresh : ∀ o slot, w.links (.record o slot) = true → o.number < w.next
  clean : ∀ f ∈ w.faults, f.isStale = false

/-- The toplevels in the list are told of their surfaces. -/
structure Listed (w : Wiring) : Prop where
  nodup : (w.members .toplevels).Nodup
  linked : ∀ n ∈ w.members .toplevels, w.links (.record ⟨.toplevel, n⟩ .map) = true

namespace Sound

variable {w w' : Wiring} {o : Obj} {slots : List Slot}

theorem of_eq (h : Sound w) (hlinks : ∀ o slot, w'.links (.record o slot) =
    w.links (.record o slot)) (hrecords : w'.records = w.records) (hnext : w.next ≤ w'.next)
    (hfaults : w'.faults = w.faults) : Sound w' where
  live o slot hl := by
    rw [hrecords]
    exact h.live o slot (hlinks o slot ▸ hl)
  slots o slot hl := h.slots o slot (hlinks o slot ▸ hl)
  fresh o slot hl := Nat.lt_of_lt_of_le (h.fresh o slot (hlinks o slot ▸ hl)) hnext
  clean f hf := h.clean f (hfaults ▸ hf)

theorem fault (h : Sound w) {f : Fault} (hf : f.isStale = false) : Sound (w.fault f) where
  live := h.live
  slots := h.slots
  fresh := h.fresh
  clean f' hf' := by
    rcases List.mem_cons.mp hf' with rfl | hmem
    · exact hf
    · exact h.clean f' hmem

theorem enter_eq (h : Sound w) {slot : Slot} (hl : w.links (.record o slot) = true) :
    w.enter o = w := by
  rw [Wiring.enter, if_neg]
  simp [h.live o slot hl]

theorem useList (h : Sound w) (head : ListHead) : Sound (w.useList head) := by
  rw [Wiring.useList]
  split
  · exact h
  · exact h.fault rfl

theorem insert (h : Sound w) (head : ListHead) (n : Nat) : Sound (w.insert head n) :=
  (h.useList head).of_eq (fun _ _ => rfl) rfl le_rfl rfl

theorem remove (h : Sound w) (head : ListHead) (n : Nat) : Sound (w.remove head n) :=
  h.of_eq (fun _ _ => rfl) rfl le_rfl rfl

theorem allocate (h : Sound w) (o : Obj) : Sound (w.allocate o) where
  live o' slot hl := by
    rcases eq_or_ne o' o with rfl | hne
    · exact Function.update_self _ _ _
    · exact (Function.update_of_ne hne _ _).trans (h.live o' slot hl)
  slots := h.slots
  fresh := h.fresh
  clean := h.clean

theorem linkAll (h : Sound w) (hrecord : w.records o = .live) (hslots : slots ⊆ o.kind.slots)
    (hnext : o.number < w.next) : Sound (w.linkAll o slots) := by
  rw [w.linkAll_eq]
  have hcases : ∀ o' slot', ((slots.any fun slot => .record o slot = Listener.record o' slot') ||
      w.links (.record o' slot')) = true →
      (slot' ∈ slots ∧ o = o') ∨ w.links (.record o' slot') = true := by
    intro o' slot' hl
    simpa using hl
  constructor
  · intro o' slot' hl
    rcases hcases o' slot' hl with ⟨-, rfl⟩ | hl
    · exact hrecord
    · exact h.live o' slot' hl
  · intro o' slot' hl
    rcases hcases o' slot' hl with ⟨hmem, rfl⟩ | hl
    · exact hslots hmem
    · exact h.slots o' slot' hl
  · intro o' slot' hl
    rcases hcases o' slot' hl with ⟨-, rfl⟩ | hl
    · exact hnext
    · exact h.fresh o' slot' hl
  · exact h.clean

theorem unlinkAll (h : Sound w) (o : Obj) (slots : List Slot) : Sound (w.unlinkAll o slots) := by
  rw [w.unlinkAll_eq]
  have hlinked : ∀ l, (!(slots.any fun slot => .record o slot = l) && w.links l) = true →
      w.links l = true := by
    intro l hl
    exact (Bool.and_eq_true_iff.mp hl).2
  constructor
  · exact fun o' slot hl => h.live o' slot (hlinked _ hl)
  · exact fun o' slot hl => h.slots o' slot (hlinked _ hl)
  · exact fun o' slot hl => h.fresh o' slot (hlinked _ hl)
  · exact h.clean

theorem free (h : Sound w) (hlinks : ∀ slot, w.links (.record o slot) = false) :
    Sound (w.free o) := by
  rw [Wiring.free, if_neg (by simp [hlinks])]
  constructor
  · intro o' slot hl
    have hne : o' ≠ o := by
      rintro rfl
      exact Bool.false_ne_true ((hlinks slot).symm.trans hl)
    exact (Function.update_of_ne hne _ _).trans (h.live o' slot hl)
  · exact h.slots
  · exact h.fresh
  · exact h.clean

theorem unlinkAll_links (h : Sound w) (hslots : o.kind.slots ⊆ slots) (slot : Slot) :
    (w.unlinkAll o slots).links (.record o slot) = false := by
  rw [w.unlinkAll_eq]
  cases hl : w.links (.record o slot) with
  | false => simp [hl]
  | true =>
      have hany : (slots.any fun slot' => .record o slot' = Listener.record o slot) = true :=
        List.any_eq_true.mpr ⟨slot, hslots (h.slots o slot hl), by simp⟩
      change (!(slots.any fun slot' => .record o slot' = Listener.record o slot) && _) = false
      rw [hany]
      rfl

theorem forget (h : Sound w) (hslots : o.kind.slots ⊆ slots) (head : ListHead) (n : Nat) :
    Sound (((w.unlinkAll o slots).remove head n).free o) :=
  ((h.unlinkAll o slots).remove head n).free (h.unlinkAll_links hslots)

end Sound

section Handlers

variable {w : Wiring} {o : Obj}

/-- No listener of the object is linked, but one may be. -/
def Wiring.Unheard (w : Wiring) (o : Obj) : Prop :=
  (∀ slot, w.links (.record o slot) = false) ∧ o.number < w.next

theorem Sound.newRecord (h : Sound w) (hnew : w.Unheard o) {slots : List Slot}
    (hslots : slots ⊆ o.kind.slots) : Sound ((w.allocate o).linkAll o slots) :=
  (h.allocate o).linkAll (Function.update_self _ _ _) hslots hnew.2

theorem Sound.handleNewXdgToplevel (h : Sound w) (hnew : w.Unheard o) (allocs : XdgAllocs) :
    Sound (handleNewXdgToplevel w o allocs) := by
  rw [Lifecycle.handleNewXdgToplevel]
  split
  · exact h
  · dsimp only
    split
    · exact (h.allocate o).free hnew.1
    · exact (h.newRecord hnew (List.Subset.refl _)).insert _ _

theorem Sound.handleNewLayerSurface (h : Sound w) (hkind : o.kind = .layerSurface)
    (hnew : w.Unheard o) (allocs : XdgAllocs) : Sound (handleNewLayerSurface w o allocs) := by
  have hdestroy : ∀ {w}, Sound w → Sound (wlrLayerSurfaceV1Destroy w o) := fun h =>
    h.of_eq (fun _ _ => rfl) rfl le_rfl rfl
  rw [Lifecycle.handleNewLayerSurface]
  split
  · exact hdestroy h
  · dsimp only
    split
    · exact hdestroy ((h.allocate o).free hnew.1)
    · refine (h.newRecord hnew ?_).insert _ _
      rw [hkind]
      exact List.Subset.refl _

theorem Sound.handleNewXwaylandSurface (h : Sound w) (hkind : o.kind = .xwaylandSurface)
    (hnew : w.Unheard o) (ok : Bool) : Sound (handleNewXwaylandSurface w o ok) := by
  rw [Lifecycle.handleNewXwaylandSurface]
  split
  · refine h.newRecord hnew ?_
    rw [hkind]
    decide
  · exact h

theorem Sound.updateCapabilities (h : Sound w) : Sound w.updateCapabilities :=
  h.of_eq (fun _ _ => rfl) rfl le_rfl rfl

theorem Sound.handleNewInput (h : Sound w) (hnew : w.Unheard o) (ok : Bool) :
    Sound (handleNewInput w o ok) := by
  have hattach : Sound { w with attached := o :: w.attached }.updateCapabilities :=
    h.of_eq (fun _ _ => rfl) rfl le_rfl rfl
  rw [Lifecycle.handleNewInput]
  split
  · next hkind =>
      split
      · exact h
      · refine ((h.newRecord hnew ?_).insert _ _).updateCapabilities
        rw [hkind]
        exact List.Subset.refl _
  · exact hattach
  · exact hattach
  · exact h.updateCapabilities

theorem Sound.handleArrival {s : World} (h : Sound s.wired) (hnew : s.wired.Unheard o)
    (a : Arrival) (hkind : o.kind = a.kind) : Sound (handleArrival o s a).wired := by
  cases a with
  | toplevel allocs => exact h.handleNewXdgToplevel hnew allocs
  | layerSurface allocs => exact h.handleNewLayerSurface hkind hnew allocs
  | xwaylandSurface ok => exact h.handleNewXwaylandSurface hkind hnew ok
  | output allocs =>
      rw [Lifecycle.handleArrival, handleNewOutput]
      split
      · exact h
      · rw [drawOverlay_wired, drawWallpaper_wired]
        refine h.newRecord hnew ?_
        rw [hkind]
        exact List.Subset.refl _
  | device type ok => exact h.handleNewInput hnew ok

theorem Sound.announce (h : Sound w) (kind : Kind) :
    Sound (w.announce ⟨kind, w.next⟩) ∧ (w.announce ⟨kind, w.next⟩).Unheard ⟨kind, w.next⟩ := by
  refine ⟨h.of_eq (fun _ _ => rfl) rfl (Nat.le_succ _) rfl, fun slot => ?_, Nat.lt_succ_self _⟩
  exact Bool.eq_false_iff.mpr fun hl => Nat.lt_irrefl _ (h.fresh ⟨kind, w.next⟩ slot hl)

theorem Sound.arrive {s : World} (h : Sound s.wired) (a : Arrival) : Sound (arrive s a).wired := by
  obtain ⟨hannounce, hnew⟩ := h.announce a.kind
  rw [Lifecycle.arrive]
  split
  · exact Sound.handleArrival (s := wire (·.announce ⟨a.kind, s.wired.next⟩) s) hannounce hnew a rfl
  · exact hannounce

theorem Sound.handleDestroy (h : Sound w) (hl : w.links (.record o .destroy) = true) :
    Sound (handleDestroy w o) := by
  rw [Lifecycle.handleDestroy]
  split
  · rw [handleToplevelDestroy, h.enter_eq hl]
    exact (h.useList _).forget (List.Subset.refl _) _ _
  · next hkind =>
      rw [handleLayerSurfaceDestroy, h.enter_eq hl]
      exact h.forget (by rw [hkind]; exact List.Subset.refl _) _ _
  · next hkind =>
      have hslots : o.kind.slots ⊆
          [.associate, .dissociate, .destroy, .setTitle, .map, .unmap] := by
        rw [hkind]
        exact List.Subset.refl _
      rw [handleXwsDestroy, h.enter_eq hl]
      exact (h.unlinkAll o _).free (h.unlinkAll_links hslots)
  · next hkind =>
      have hslots : o.kind.slots ⊆ [.frame, .requestState, .destroy] := by
        rw [hkind]
        exact List.Subset.refl _
      rw [outputHandleDestroy, h.enter_eq hl]
      exact (h.unlinkAll o _).free (h.unlinkAll_links hslots)
  · next hkind =>
      rw [handleKeyboardDestroy, h.enter_eq hl]
      exact h.forget (by rw [hkind]; exact List.Subset.refl _) _ _
  · exact h

theorem Sound.associate (h : Sound w) (ok : Bool) : Sound (associate w o ok) := by
  rw [Lifecycle.associate]
  split
  · next hguard =>
      have hassociated : Sound { w with associated := o.number :: w.associated } :=
        h.of_eq (fun _ _ => rfl) rfl le_rfl rfl
      have hslots : [.map, .unmap] ⊆ o.kind.slots := by
        rw [hguard.1]
        decide
      dsimp only
      split
      · next hl =>
          rw [handleXwsAssociate, hassociated.enter_eq hl]
          split
          · exact hassociated.linkAll (hassociated.live o _ hl) hslots (hassociated.fresh o _ hl)
          · exact hassociated
      · exact hassociated
  · exact h

theorem Sound.dissociate (h : Sound w) : Sound (dissociate w o) := by
  rw [Lifecycle.dissociate]
  split
  · have hassociated : Sound { w with associated := w.associated.erase o.number } :=
      h.of_eq (fun _ _ => rfl) rfl le_rfl rfl
    dsimp only
    split
    · next hl =>
        rw [handleXwsDissociate, hassociated.enter_eq hl]
        exact hassociated.unlinkAll o _
    · exact hassociated
  · exact h

theorem Sound.withdraw (h : Sound w) : Sound (w.withdraw o) :=
  h.dissociate.of_eq (fun _ _ => rfl) rfl le_rfl rfl

theorem Sound.vanish (h : Sound w) : Sound (vanish w o) := by
  rw [Lifecycle.vanish]
  split
  · dsimp only
    split
    · next hl => exact h.withdraw.handleDestroy hl
    · exact h.withdraw
  · exact h

end Handlers

section Phases

variable {w : Wiring}

theorem stable_sound : Stable Sound where
  listInit _ _ h := h.of_eq (fun _ _ => rfl) rfl le_rfl rfl
  createGlobal _ _ h := h.of_eq (fun _ _ => rfl) rfl le_rfl rfl
  register w l h _ := h.of_eq (fun o => update_own_record o w.links l true) rfl le_rfl rfl

theorem Sound.destroyGlobal (h : Sound w) (g : Global) : Sound (w.destroyGlobal g) := by
  rw [Wiring.destroyGlobal]
  split
  · exact (h.fault rfl).of_eq (fun _ _ => rfl) rfl le_rfl rfl
  · exact h.of_eq (fun _ _ => rfl) rfl le_rfl rfl

theorem survives_sound : Survives Sound where
  forget _ _ _ _ _ _ hslots _ h := h.forget hslots _ _
  unregister w l _ h := by
    rw [Wiring.unregister]
    split
    · exact h.of_eq (fun o => update_own_record o w.links l false) rfl le_rfl rfl
    · exact h
  destroyGlobal _ h := h.destroyGlobal _

theorem Sound.unlink (h : Sound w) (l : GlobalListener) : Sound (w.unlink (.own l)) :=
  h.of_eq (fun o => update_own_record o w.links l false) rfl le_rfl rfl

theorem lasting_sound : Lasting Sound where
  vanish _ _ h := h.vanish
  associate _ _ ok h := h.associate ok
  dissociate _ _ h := h.dissociate
  useToplevels _ h := h.useList _
  createGlobal := stable_sound.createGlobal
  register _ _ hl h := stable_sound.registerPlain hl h

end Phases

/-- The list of toplevels stays, and so do the listeners of its records. -/
structure KeepsToplevels (w w' : Wiring) : Prop where
  lists : w'.lists .toplevels = w.lists .toplevels
  links : ∀ n, w'.links (.record ⟨.toplevel, n⟩ .map) = w.links (.record ⟨.toplevel, n⟩ .map)

section Toplevels

variable {w w' w'' : Wiring}

theorem KeepsToplevels.refl (w : Wiring) : KeepsToplevels w w :=
  ⟨rfl, fun _ => rfl⟩

theorem KeepsToplevels.trans (h : KeepsToplevels w w') (h' : KeepsToplevels w' w'') :
    KeepsToplevels w w'' :=
  ⟨h'.lists.trans h.lists, fun n => (h'.links n).trans (h.links n)⟩

theorem KeepsToplevels.members (h : KeepsToplevels w w') :
    w'.members .toplevels = w.members .toplevels := by
  rw [Wiring.members, h.lists, Wiring.members]

theorem Touches.keepsToplevels {o : Obj} (h : Touches o w w') (hkind : o.kind ≠ .toplevel) :
    KeepsToplevels w w' := by
  have hlist : o.kind.list ≠ some .toplevels := by
    intro hsome
    obtain ⟨kind, n⟩ := o
    cases kind with
    | toplevel => exact hkind rfl
    | device type => cases type <;> cases hsome
    | _ => cases hsome
  refine ⟨h.lists _ hlist, fun n => h.others _ _ ?_⟩
  rintro rfl
  exact hkind rfl

theorem Listed.keeps (h : Listed w) (hk : KeepsToplevels w w') : Listed w' := by
  have hmembers := hk.members
  exact ⟨hmembers ▸ h.nodup, fun n hn => (hk.links n).trans (h.linked n (hmembers ▸ hn))⟩

theorem Listed.insert (h : Listed w) {n : Nat} (hnew : n ∉ w.members .toplevels)
    (hlinked : w.links (.record ⟨.toplevel, n⟩ .map) = true) :
    Listed (w.insert .toplevels n) := by
  have hmembers : (w.insert .toplevels n).members .toplevels = [] ∨
      (w.insert .toplevels n).members .toplevels = n :: w.members .toplevels := by
    simp only [Wiring.members, Wiring.insert, Function.update_self]
    cases w.lists .toplevels with
    | none => exact .inl rfl
    | some ns => exact .inr rfl
  have hlinks : (w.insert .toplevels n).links = w.links := useList_links w .toplevels
  rcases hmembers with hnil | hcons
  · constructor <;> simp [hnil]
  · constructor
    · rw [hcons]
      exact List.nodup_cons.mpr ⟨hnew, h.nodup⟩
    · intro m hm
      rw [hcons] at hm
      rw [hlinks]
      rcases List.mem_cons.mp hm with rfl | hm
      · exact hlinked
      · exact h.linked m hm

theorem Listed.handleNewXdgToplevel {n : Nat} (h : Listed w)
    (hnew : w.Unheard ⟨.toplevel, n⟩) (allocs : XdgAllocs) :
    Listed (handleNewXdgToplevel w ⟨.toplevel, n⟩ allocs) := by
  rw [Lifecycle.handleNewXdgToplevel]
  split
  · exact h
  · dsimp only
    split
    · refine h.keeps ⟨?_, fun m => ?_⟩
      · rw [free_lists]
        rfl
      · rw [free_links]
        rfl
    · have hlinks : ∀ m, ((w.allocate ⟨.toplevel, n⟩).linkAll ⟨.toplevel, n⟩
          Kind.toplevel.slots).links (.record ⟨.toplevel, m⟩ .map) =
            (decide (n = m) || w.links (.record ⟨.toplevel, m⟩ .map)) := by
        intro m
        rw [Wiring.linkAll_eq]
        simp [Kind.slots, Wiring.allocate]
      have hmembers : ((w.allocate ⟨.toplevel, n⟩).linkAll ⟨.toplevel, n⟩
          Kind.toplevel.slots).members .toplevels = w.members .toplevels := by
        rw [Wiring.members, linkAll_lists]
        rfl
      have hlisted : Listed ((w.allocate ⟨.toplevel, n⟩).linkAll ⟨.toplevel, n⟩
          Kind.toplevel.slots) := by
        constructor
        · rw [hmembers]
          exact h.nodup
        · intro m hm
          rw [hlinks, h.linked m (hmembers ▸ hm), Bool.or_true]
      refine hlisted.insert ?_ ((hlinks n).trans (by simp))
      rw [hmembers]
      exact fun hmem => Bool.false_ne_true ((hnew.1 .map).symm.trans (h.linked n hmem))

theorem Listed.arrive {s : World} (h : Listed s.wired) (hsound : Sound s.wired) (a : Arrival) :
    Listed (arrive s a).wired := by
  have hannounce : Listed (s.wired.announce ⟨a.kind, s.wired.next⟩) :=
    h.keeps ⟨rfl, fun _ => rfl⟩
  have htouches := arrive_touches s a
  cases a with
  | toplevel allocs =>
      rw [Lifecycle.arrive]
      split
      · exact hannounce.handleNewXdgToplevel (hsound.announce .toplevel).2 allocs
      · exact hannounce
  | _ => exact hannounce.keeps (htouches.keepsToplevels (by simp [Arrival.kind]))

theorem Listed.handleDestroy {n : Nat} (h : Listed w) :
    Listed (handleDestroy w ⟨.toplevel, n⟩) := by
  have hmembers : (Lifecycle.handleDestroy w ⟨.toplevel, n⟩).members .toplevels =
      (w.members .toplevels).erase n := handleDestroy_members w ⟨.toplevel, n⟩ rfl
  constructor
  · rw [hmembers]
    exact h.nodup.erase n
  · intro m hm
    rw [hmembers, h.nodup.mem_erase_iff] at hm
    rw [handleDestroy_touches.others _ _ (by simpa using hm.1)]
    exact h.linked m hm.2

theorem Listed.vanish {o : Obj} (h : Listed w) : Listed (vanish w o) := by
  by_cases hkind : o.kind = .toplevel
  · obtain ⟨kind, n⟩ := o
    cases hkind
    have hwithdraw : Listed (w.withdraw ⟨.toplevel, n⟩) :=
      h.keeps ⟨congrFun (withdraw_lists w _) _, fun _ => rfl⟩
    rw [Lifecycle.vanish]
    split
    · dsimp only
      split
      · exact hwithdraw.handleDestroy
      · exact hwithdraw
    · exact h
  · exact h.keeps (vanish_touches.keepsToplevels hkind)

theorem listInit_members (head head' : ListHead) :
    (w.listInit head).members head' = if head' = head then [] else w.members head' := by
  split
  · next h => simp [h, Wiring.members, Wiring.listInit]
  · next h => simp [Wiring.members, Wiring.listInit, Function.update_of_ne h]

theorem stable_listed : Stable Listed where
  listInit w head h := by
    by_cases hhead : .toplevels = head
    · have hnil : (w.listInit head).members .toplevels = [] := by
        rw [listInit_members, if_pos hhead]
      constructor <;> simp [hnil]
    · exact h.keeps ⟨Function.update_of_ne hhead _ _, fun _ => rfl⟩
  createGlobal _ _ h := h.keeps ⟨rfl, fun _ => rfl⟩
  register w l h _ := h.keeps ⟨rfl, fun _ => update_own_record _ w.links l true _⟩

theorem lasting_listed : Lasting Listed where
  vanish _ _ h := h.vanish
  associate _ _ ok h :=
    associate_keeps h (fun _ hkind ht => h.keeps (ht.keepsToplevels (by simp [hkind]))) ok
  dissociate _ _ h :=
    dissociate_keeps h fun _ hkind ht => h.keeps (ht.keepsToplevels (by simp [hkind]))
  useToplevels _ h :=
    h.keeps ⟨congrFun (useList_lists _ _) _, fun _ => congrFun (useList_links _ _) _⟩
  createGlobal := stable_listed.createGlobal
  register _ _ hl h := stable_listed.registerPlain hl h

end Toplevels

section Shutdown

variable {w : Wiring}

theorem survives_keepsToplevels : Survives (KeepsToplevels w) where
  forget w' o slots head hkind hne _ _ h := by
    refine h.trans ((forget_touches hkind slots).keepsToplevels ?_)
    intro htoplevel
    rw [htoplevel] at hkind
    cases hkind
    exact hne rfl
  unregister w' l _ h := by
    refine h.trans ?_
    rw [Wiring.unregister]
    split
    · exact ⟨rfl, fun _ => update_own_record _ w'.links l false _⟩
    · exact .refl w'
  destroyGlobal w' h := by
    refine h.trans ?_
    rw [Wiring.destroyGlobal]
    split <;> exact ⟨rfl, fun _ => rfl⟩

theorem freeToplevels_eq (hnil : w.members .toplevels = []) : w.freeToplevels = w := by
  rw [Wiring.freeToplevels]
  split
  · rfl
  · next ts hts =>
      have hempty : ts = [] := by simpa [Wiring.members, hts] using hnil
      rw [hempty, List.foldl_nil]

theorem free_faults {o : Obj} {slot : Slot} (hslot : slot ∈ o.kind.slots)
    (hl : w.links (.record o slot) = true) : .freedLinked o ∈ (w.free o).faults := by
  rw [Wiring.free, if_pos (List.any_eq_true.mpr ⟨slot, hslot, hl⟩)]
  exact List.mem_cons_self

theorem freeToplevels_stale (h : Listed w) (hne : w.members .toplevels ≠ []) :
    ∃ f ∈ w.freeToplevels.faults, f.isStale = true := by
  rw [Wiring.freeToplevels]
  split
  · next hnone => exact absurd (by simp [Wiring.members, hnone]) hne
  · next ts hts =>
      have hmembers : w.members .toplevels = ts := by simp [Wiring.members, hts]
      obtain ⟨n, rest, rfl⟩ := List.exists_cons_of_ne_nil (hmembers ▸ hne)
      have hl : w.links (.record ⟨.toplevel, n⟩ .map) = true :=
        h.linked n (hmembers ▸ List.mem_cons_self)
      have hfirst : Fault.freedLinked ⟨.toplevel, n⟩ ∈
          ((w.remove .toplevels n).free ⟨.toplevel, n⟩).faults :=
        free_faults (List.mem_cons_self : Slot.map ∈ Kind.toplevel.slots) hl
      refine ⟨.freedLinked ⟨.toplevel, n⟩, ?_, rfl⟩
      refine List.foldlRecOn
        (motive := fun w : Wiring => Fault.freedLinked ⟨.toplevel, n⟩ ∈ w.faults)
        rest _ hfirst fun w' hw' m _ => ?_
      exact (discard_touches w' m).faults hw'

theorem coreDestroy_faults (display backend : Bool) (order : List Obj) :
    w.faults ⊆ (w.coreDestroy display backend order).faults := by
  have hvanish : ∀ (w' : Wiring) o, w.faults ⊆ w'.faults → w.faults ⊆ (vanish w' o).faults :=
    fun _ _ h => List.Subset.trans h vanish_touches.faults
  have hglobal : ∀ (w' : Wiring) g, w.faults ⊆ w'.faults →
      w.faults ⊆ (w'.destroyGlobal g).faults :=
    fun _ g h => List.Subset.trans h (destroyGlobal_faults g)
  exact coreDestroy_keeps hvanish hglobal (List.Subset.refl _) display backend order

theorem compositorDestroy_clean_iff (h : Sound w) (hlisted : Listed w) (o : Ownership)
    (order : List Obj) :
    (∀ f ∈ (w.compositorDestroy o order).faults, f.isStale = false) ↔
      w.members .toplevels = [] := by
  have hkeeps : KeepsToplevels w (w.freeLayerSurfaces.inputDestroy (o.has .cursor)) :=
    survives_keepsToplevels.inputDestroy
      (survives_keepsToplevels.forget.freeLayerSurfaces (.refl w)) _
  rw [Wiring.compositorDestroy]
  constructor
  · intro hclean
    by_contra hne
    obtain ⟨f, hf, hstale⟩ :=
      freeToplevels_stale (hlisted.keeps hkeeps) (hkeeps.members ▸ hne)
    rw [unlinkIfLinked_eq] at hclean
    have hlast := hclean f (coreDestroy_faults _ _ _ hf)
    exact Bool.false_ne_true (hlast.symm.trans hstale)
  · intro hnil
    rw [freeToplevels_eq (hkeeps.members.trans hnil), unlinkIfLinked_eq]
    have hinput := survives_sound.inputDestroy (survives_sound.forget.freeLayerSurfaces h)
      (o.has .cursor)
    exact (coreDestroy_keeps (fun _ _ h => h.vanish) (fun _ g h => h.destroyGlobal g)
      (hinput.unlink .newXdgToplevel) _ _ order).clean

end Shutdown

section Life

/-- Before the first client there is no toplevel. -/
def Unpopulated (w : Wiring) : Prop :=
  Sound w ∧ w.members .toplevels = []

theorem Unpopulated.listed {w : Wiring} (h : Unpopulated w) : Listed w := by
  constructor <;> simp [h.2]

theorem stable_unpopulated : Stable Unpopulated where
  listInit w head h := by
    refine ⟨stable_sound.listInit w head h.1, ?_⟩
    rw [listInit_members, h.2, ite_self]
  createGlobal w g h := ⟨stable_sound.createGlobal w g h.1, h.2⟩
  register w l h hlist := ⟨stable_sound.register w l h.1 hlist, h.2⟩

theorem Unpopulated.startEvent {s : World} (h : Unpopulated s.wired) (e : StartEvent) :
    Unpopulated (startEvent s e).wired := by
  have harrive : ∀ a : Arrival, a.kind ≠ .toplevel → Unpopulated (arrive s a).wired := by
    intro a hkind
    refine ⟨h.1.arrive a, ?_⟩
    exact ((arrive_touches s a).keepsToplevels hkind).members.trans h.2
  cases e with
  | output allocs => exact harrive _ (by simp [Arrival.kind])
  | device type ok => exact harrive _ (by simp [Arrival.kind])
  | vanish o =>
      refine ⟨h.1.vanish, List.eq_nil_of_subset_nil ?_⟩
      exact h.2 ▸ (vanish_members_sublist s.wired o .toplevels).subset

theorem created_unpopulated (plan : Plan) :
    if plan.created.1 then Unpopulated plan.created.2.wired
    else ∀ f ∈ plan.created.2.wired.faults, f.isStale = false := by
  have hinput : ∀ s, OnWiring Unpopulated s → OnWiring Unpopulated (zenInputDestroy s) := by
    intro s hs
    rw [OnWiring, zenInputDestroy_wired]
    exact ⟨survives_sound.inputDestroy hs.1 _,
      (survives_keepsToplevels.inputDestroy (.refl _) _).members.trans hs.2⟩
  have hdestroy : ∀ s, OnWiring Unpopulated s →
      OnWiring (fun w => ∀ f ∈ w.faults, f.isStale = false)
        (zenCompositorDestroy plan.order s) := by
    intro s hs
    rw [OnWiring, zenCompositorDestroy_wired]
    exact (compositorDestroy_clean_iff hs.1 hs.listed _ _).mpr hs.2
  have hzeroed : OnWiring Unpopulated zeroed := by
    refine ⟨⟨?_, ?_, ?_, ?_⟩, rfl⟩ <;> simp [zeroed]
  have h := zenCompositorCreate_wired stable_unpopulated plan.calls plan.start plan.order
    (fun s e hs => hs.startEvent e) hinput hdestroy zeroed hzeroed
  rw [Plan.created]
  split at h
  · next hok => exact (if_pos hok).mpr h.1
  · next hok => exact (if_neg hok).mpr h

theorem ended_sound (plan : Plan) (h : Unpopulated plan.created.2.wired) :
    Sound plan.ended.wired ∧ Listed plan.ended.wired :=
  (lasting_sound.and lasting_listed).run (fun _ a hs => ⟨hs.1.arrive a, hs.2.arrive hs.1 a⟩)
    plan.events ⟨h.1, h.listed⟩

/-- In a whole life no record is freed while it listens, and no handler runs on a freed
record, exactly if no toplevel is left when `zen_compositor_destroy` is called. -/
theorem finish_clean_iff (plan : Plan) :
    (∀ f ∈ plan.finish.wired.faults, f.isStale = false) ↔
      (plan.created.1 = true → plan.ended.wired.members .toplevels = []) := by
  have hcreated := created_unpopulated plan
  rw [Plan.finish]
  split at hcreated
  · next hok =>
      obtain ⟨hsound, hlisted⟩ := ended_sound plan hcreated
      rw [if_pos hok, zenCompositorDestroy_wired, compositorDestroy_clean_iff hsound hlisted]
      exact ⟨fun h _ => h, fun h => h hok⟩
  · next hfail =>
      rw [if_neg hfail]
      exact iff_of_true hcreated fun hok => absurd hok hfail

/-- One window is opened, and is still open when the compositor ends. -/
def openWindow : Plan :=
  { calls := .succeed, start := [], events := [.arrive (.toplevel ⟨true, true⟩)], order := [] }

theorem open_toplevel_is_freed :
    openWindow.created.1 = true ∧
      .freedLinked ⟨.toplevel, 0⟩ ∈ openWindow.finish.wired.faults ∧
      .calledFreed ⟨.toplevel, 0⟩ ∈ openWindow.finish.wired.faults := by
  refine ⟨?_, ?_, ?_⟩ <;> decide +kernel

end Life

end ZenOS.Lifecycle
