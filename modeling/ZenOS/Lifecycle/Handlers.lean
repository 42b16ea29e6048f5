import ZenOS.Lifecycle.Phases

/-!
What the handlers of one object do to the wiring: listeners and records of other
objects stay, and so do the compositor's own listeners.
-/

namespace ZenOS.Lifecycle

open ZenOS.Library.Programs

/-- The numbers in a list; there are none in a list that has not been initialised. -/
def Wiring.members (w : Wiring) (head : ListHead) : List Nat :=
  (w.lists head).getD []

/-- The compositor's own listeners stay, no list head is lost, and no fault is. -/
structure KeepsOwn (w w' : Wiring) : Prop where
  links : ∀ l, w'.links (.own l) = w.links (.own l)
  notify : w'.notify = w.notify
  inits : ∀ head, (w'.lists head).isSome = (w.lists head).isSome
  faults : w.faults ⊆ w'.faults
  listened : ∀ g, .listened g ∈ w'.faults → .listened g ∈ w.faults

theorem KeepsOwn.refl (w : Wiring) : KeepsOwn w w :=
  ⟨fun _ => rfl, rfl, fun _ => rfl, List.Subset.refl _, fun _ => id⟩

theorem KeepsOwn.trans {w w' w'' : Wiring} (h : KeepsOwn w w') (h' : KeepsOwn w' w'') :
    KeepsOwn w w'' where
  links l := (h'.links l).trans (h.links l)
  notify := h'.notify.trans h.notify
  inits head := (h'.inits head).trans (h.inits head)
  faults := List.Subset.trans h.faults h'.faults
  listened g hg := h.listened g (h'.listened g hg)

/-- The wiring changes in what belongs to one object only. -/
structure Touches (o : Obj) (w w' : Wiring) : Prop extends KeepsOwn w w' where
  others : ∀ o' slot, o' ≠ o → w'.links (.record o' slot) = w.links (.record o' slot)
  lists : ∀ head, o.kind.list ≠ some head → w'.lists head = w.lists head
  members : ∀ head n, n ≠ o.number → (w'.members head).count n = (w.members head).count n
  objects : w'.objects.Sublist w.objects
  attached : ∀ o', o' ≠ o → (o' ∈ w'.attached ↔ o' ∈ w.attached)
  next : w'.next = w.next
  -- a list that is used has been initialised
  ready : (∀ head ∈ o.kind.list, (w.lists head).isSome) → .uninitialised ∈ w'.faults →
    .uninitialised ∈ w.faults

namespace Touches

variable {o : Obj} {w w' w'' : Wiring}

theorem refl (o : Obj) (w : Wiring) : Touches o w w where
  toKeepsOwn := .refl w
  others _ _ _ := rfl
  lists _ _ := rfl
  members _ _ _ := rfl
  objects := List.Sublist.refl _
  attached _ _ := Iff.rfl
  next := rfl
  ready _ := id

theorem trans (h : Touches o w w') (h' : Touches o w' w'') : Touches o w w'' where
  toKeepsOwn := h.toKeepsOwn.trans h'.toKeepsOwn
  others o' slot hne := (h'.others o' slot hne).trans (h.others o' slot hne)
  lists head hne := (h'.lists head hne).trans (h.lists head hne)
  members head n hne := (h'.members head n hne).trans (h.members head n hne)
  objects := h'.objects.trans h.objects
  attached o' hne := (h'.attached o' hne).trans (h.attached o' hne)
  next := h'.next.trans h.next
  ready hlists hf :=
    h.ready hlists (h'.ready (fun head hhead => (h.inits head).trans (hlists head hhead)) hf)

theorem of_eq (hlinks : w'.links = w.links) (hnotify : w'.notify = w.notify)
    (hlists : w'.lists = w.lists) (hobjects : w'.objects.Sublist w.objects)
    (hattached : ∀ o', o' ≠ o → (o' ∈ w'.attached ↔ o' ∈ w.attached))
    (hnext : w'.next = w.next) (hfaults : w'.faults = w.faults) : Touches o w w' where
  links l := by rw [hlinks]
  notify := hnotify
  inits head := by rw [hlists]
  faults := by rw [hfaults]; exact List.Subset.refl _
  listened g := by rw [hfaults]; exact id
  others o' slot _ := by rw [hlinks]
  lists head _ := by rw [hlists]
  members head n _ := by rw [Wiring.members, Wiring.members, hlists]
  objects := hobjects
  attached := hattached
  next := hnext
  ready _ := by rw [hfaults]; exact id

end Touches

section Primitives

variable (w : Wiring) (o : Obj)

theorem Wiring.linkAll_eq (slots : List Slot) :
    w.linkAll o slots =
      { w with links := fun l => (slots.any fun slot => .record o slot = l) || w.links l } := by
  induction slots generalizing w with
  | nil => rfl
  | cons slot slots ih =>
      have hlinks : ∀ l, (w.link (.record o slot)).links l =
          (decide (Listener.record o slot = l) || w.links l) := by
        intro l
        rw [Wiring.link_links]
        simp only [eq_comm]
      change (w.link (.record o slot)).linkAll o slots = _
      rw [ih]
      simp only [hlinks, List.any_cons, ← Bool.or_assoc]
      simp only [Bool.or_comm (List.any slots _)]
      rfl

theorem Wiring.unlinkAll_eq (slots : List Slot) :
    w.unlinkAll o slots =
      { w with links := fun l => !(slots.any fun slot => .record o slot = l) && w.links l } := by
  induction slots generalizing w with
  | nil => rfl
  | cons slot slots ih =>
      have hlinks : ∀ l, (w.unlink (.record o slot)).links l =
          (!decide (Listener.record o slot = l) && w.links l) := by
        intro l
        rw [Wiring.unlink_links]
        simp only [eq_comm]
      change (w.unlink (.record o slot)).unlinkAll o slots = _
      rw [ih]
      simp only [hlinks, List.any_cons, Bool.not_or, ← Bool.and_assoc]
      simp only [Bool.and_comm (!List.any slots _)]
      rfl

@[simp] theorem enter_lists : (w.enter o).lists = w.lists := by
  rw [Wiring.enter]
  split <;> rfl

@[simp] theorem useList_lists (head : ListHead) : (w.useList head).lists = w.lists := by
  rw [Wiring.useList]
  split <;> rfl

@[simp] theorem linkAll_lists (slots : List Slot) : (w.linkAll o slots).lists = w.lists := by
  rw [w.linkAll_eq]

@[simp] theorem unlinkAll_lists (slots : List Slot) : (w.unlinkAll o slots).lists = w.lists := by
  rw [w.unlinkAll_eq]

@[simp] theorem free_lists : (w.free o).lists = w.lists := by
  rw [Wiring.free]
  dsimp only
  split <;> rfl

@[simp] theorem free_links : (w.free o).links = w.links := by
  rw [Wiring.free]
  dsimp only
  split <;> rfl

@[simp] theorem useList_links (head : ListHead) : (w.useList head).links = w.links := by
  rw [Wiring.useList]
  split <;> rfl

@[simp] theorem enter_objects : (w.enter o).objects = w.objects := by
  rw [Wiring.enter]
  split <;> rfl

@[simp] theorem useList_objects (head : ListHead) : (w.useList head).objects = w.objects := by
  rw [Wiring.useList]
  split <;> rfl

@[simp] theorem unlinkAll_objects (slots : List Slot) :
    (w.unlinkAll o slots).objects = w.objects := by
  rw [w.unlinkAll_eq]

@[simp] theorem free_objects : (w.free o).objects = w.objects := by
  rw [Wiring.free]
  dsimp only
  split <;> rfl

@[simp] theorem enter_attached : (w.enter o).attached = w.attached := by
  rw [Wiring.enter]
  split <;> rfl

@[simp] theorem useList_attached (head : ListHead) :
    (w.useList head).attached = w.attached := by
  rw [Wiring.useList]
  split <;> rfl

@[simp] theorem unlinkAll_attached (slots : List Slot) :
    (w.unlinkAll o slots).attached = w.attached := by
  rw [w.unlinkAll_eq]

@[simp] theorem free_attached : (w.free o).attached = w.attached := by
  rw [Wiring.free]
  dsimp only
  split <;> rfl

theorem linkAll_touches (slots : List Slot) : Touches o w (w.linkAll o slots) := by
  rw [w.linkAll_eq]
  exact
    { Touches.refl o w with
      links := fun l => by simp
      others := fun o' slot hne => by simp [Ne.symm hne] }

theorem unlinkAll_touches (slots : List Slot) : Touches o w (w.unlinkAll o slots) := by
  rw [w.unlinkAll_eq]
  exact
    { Touches.refl o w with
      links := fun l => by simp
      others := fun o' slot hne => by simp [Ne.symm hne] }

theorem fault_touches {f : Fault} (hf : ∀ g, f ≠ .listened g) (hready : f ≠ .uninitialised) :
    Touches o w (w.fault f) :=
  { Touches.refl o w with
    faults := List.subset_cons_self _ _
    listened := fun g hg => (List.mem_cons.mp hg).resolve_left (Ne.symm (hf g))
    ready := fun _ hu => (List.mem_cons.mp hu).resolve_left (Ne.symm hready) }

theorem enter_touches (o' : Obj) : Touches o w (w.enter o') := by
  rw [Wiring.enter]
  split
  · exact fault_touches w o (by simp) (by simp)
  · exact .refl o w

variable {w o} in
theorem useList_touches {head : ListHead} (hkind : o.kind.list = some head) :
    Touches o w (w.useList head) := by
  rw [Wiring.useList]
  split
  · exact .refl o w
  · next hnone =>
      exact
        { Touches.refl o w with
          faults := List.subset_cons_self _ _
          listened := fun g hg => (List.mem_cons.mp hg).resolve_left (by simp)
          ready := fun hlists _ => absurd (hlists head hkind) hnone }

theorem allocate_touches (o' : Obj) : Touches o w (w.allocate o') :=
  .of_eq rfl rfl rfl (List.Sublist.refl _) (fun _ _ => Iff.rfl) rfl rfl

theorem free_touches (o' : Obj) : Touches o w (w.free o') := by
  have hrecords : ∀ w : Wiring, Touches o w
      { w with records := Function.update w.records o' .freed } := fun _ =>
    .of_eq rfl rfl rfl (List.Sublist.refl _) (fun _ _ => Iff.rfl) rfl rfl
  rw [Wiring.free]
  split
  · exact (fault_touches w o (by simp) (by simp)).trans (hrecords _)
  · exact hrecords w

variable {w o} in
theorem mapList_touches {head : ListHead} (hkind : o.kind.list = some head)
    {f : List Nat → List Nat} (hf : ∀ n ns, n ≠ o.number → (f ns).count n = ns.count n) :
    Touches o w { w with lists := Function.update w.lists head ((w.lists head).map f) } :=
  { Touches.refl o w with
    inits := fun head' => by
      rcases eq_or_ne head' head with rfl | hne
      · simp
      · simp [Function.update_of_ne hne]
    lists := fun head' hne => by
      rw [hkind] at hne
      exact Function.update_of_ne (fun h => hne (congrArg some h.symm)) _ _
    members := fun head' n hn => by
      rcases eq_or_ne head' head with rfl | hne
      · simp only [Wiring.members, Function.update_self]
        cases w.lists head' with
        | none => rfl
        | some ns => exact hf n ns hn
      · simp [Wiring.members, Function.update_of_ne hne] }

variable {w o} in
theorem insert_touches {head : ListHead} (hkind : o.kind.list = some head) :
    Touches o w (w.insert head o.number) := by
  refine (useList_touches hkind).trans ?_
  have h := mapList_touches (w := w.useList head) hkind (f := (o.number :: ·))
    fun n ns hne => List.count_cons_of_ne (Ne.symm hne)
  rw [useList_lists] at h
  exact h

variable {w o} in
theorem remove_touches {head : ListHead} (hkind : o.kind.list = some head) :
    Touches o w (w.remove head o.number) :=
  mapList_touches hkind fun _ _ hne => List.count_erase_of_ne hne

theorem update_own_record (links : Listener → Bool) (l : GlobalListener) (b : Bool)
    (slot : Slot) :
    Function.update links (.own l) b (.record o slot) = links (.record o slot) :=
  Function.update_of_ne (by simp) _ _

end Primitives

section Handlers

variable {w : Wiring} {o : Obj}

theorem forget_touches {head : ListHead} (hkind : o.kind.list = some head)
    (slots : List Slot) :
    Touches o w (((w.unlinkAll o slots).remove head o.number).free o) :=
  ((unlinkAll_touches w o slots).trans (remove_touches hkind)).trans (free_touches _ o o)

/-- `zen_xdg_destroy` does not unlink the listeners. -/
theorem discard_touches (w : Wiring) (n : Nat) :
    Touches ⟨.toplevel, n⟩ w ((w.remove .toplevels n).free ⟨.toplevel, n⟩) :=
  (remove_touches (o := ⟨.toplevel, n⟩) rfl).trans (free_touches _ _ _)

theorem handleNewXdgToplevel_touches (hkind : o.kind = .toplevel) (allocs : XdgAllocs) :
    Touches o w (handleNewXdgToplevel w o allocs) := by
  rw [handleNewXdgToplevel]
  split
  · exact .refl o w
  · have hallocate := allocate_touches w o o
    dsimp only
    split
    · exact hallocate.trans (free_touches _ o o)
    · exact (hallocate.trans (linkAll_touches _ o _)).trans
        (insert_touches (by rw [hkind]; rfl))

theorem handleNewLayerSurface_touches (hkind : o.kind = .layerSurface) (allocs : XdgAllocs) :
    Touches o w (handleNewLayerSurface w o allocs) := by
  have herase : ∀ w, Touches o w (wlrLayerSurfaceV1Destroy w o) := fun w =>
    .of_eq rfl rfl rfl List.erase_sublist (fun _ _ => Iff.rfl) rfl rfl
  rw [handleNewLayerSurface]
  split
  · exact herase w
  · have hallocate := allocate_touches w o o
    dsimp only
    split
    · exact (hallocate.trans (free_touches _ o o)).trans (herase _)
    · exact (hallocate.trans (linkAll_touches _ o _)).trans
        (insert_touches (by rw [hkind]; rfl))

theorem handleNewXwaylandSurface_touches (ok : Bool) :
    Touches o w (handleNewXwaylandSurface w o ok) := by
  rw [handleNewXwaylandSurface]
  split
  · exact (allocate_touches w o o).trans (linkAll_touches _ o _)
  · exact .refl o w

theorem updateCapabilities_touches : Touches o w w.updateCapabilities :=
  .of_eq rfl rfl rfl (List.Sublist.refl _) (fun _ _ => Iff.rfl) rfl rfl

theorem handleNewInput_touches (ok : Bool) : Touches o w (handleNewInput w o ok) := by
  have hattach : Touches o w { w with attached := o :: w.attached }.updateCapabilities :=
    .of_eq rfl rfl rfl (List.Sublist.refl _)
      (fun o' hne => by simp [Wiring.updateCapabilities, hne]) rfl rfl
  rw [handleNewInput]
  split
  · next hkind =>
      split
      · exact .refl o w
      · refine Touches.trans ?_ updateCapabilities_touches
        exact ((allocate_touches w o o).trans (linkAll_touches _ o _)).trans
          (insert_touches (by rw [hkind]; rfl))
  · exact hattach
  · exact hattach
  · exact updateCapabilities_touches

theorem handleDestroy_touches : Touches o w (handleDestroy w o) := by
  rw [handleDestroy]
  split
  · next hkind =>
      have hlist : o.kind.list = some .toplevels := by rw [hkind]; rfl
      exact ((enter_touches w o o).trans (useList_touches hlist)).trans (forget_touches hlist _)
  · next hkind => exact (enter_touches w o o).trans (forget_touches (by rw [hkind]; rfl) _)
  · exact ((enter_touches w o o).trans (unlinkAll_touches _ o _)).trans (free_touches _ o o)
  · exact ((enter_touches w o o).trans (unlinkAll_touches _ o _)).trans (free_touches _ o o)
  · next hkind => exact (enter_touches w o o).trans (forget_touches (by rw [hkind]; rfl) _)
  · exact .refl o w

theorem associate_touches (ok : Bool) : Touches o w (associate w o ok) := by
  rw [associate]
  split
  · have hassociated : Touches o w { w with associated := o.number :: w.associated } :=
      .of_eq rfl rfl rfl (List.Sublist.refl _) (fun _ _ => Iff.rfl) rfl rfl
    dsimp only
    split
    · rw [handleXwsAssociate]
      split
      · exact hassociated.trans ((enter_touches _ o o).trans (linkAll_touches _ o _))
      · exact hassociated.trans (enter_touches _ o o)
    · exact hassociated
  · exact .refl o w

theorem dissociate_touches : Touches o w (dissociate w o) := by
  rw [dissociate]
  split
  · have hassociated : Touches o w { w with associated := w.associated.erase o.number } :=
      .of_eq rfl rfl rfl (List.Sublist.refl _) (fun _ _ => Iff.rfl) rfl rfl
    dsimp only
    split
    · exact hassociated.trans ((enter_touches _ o o).trans (unlinkAll_touches _ o _))
    · exact hassociated
  · exact .refl o w

theorem associate_keeps {J : Wiring → Prop} (h : J w)
    (htouches : ∀ w', o.kind = .xwaylandSurface → Touches o w w' → J w') (ok : Bool) :
    J (associate w o ok) := by
  by_cases hkind : o.kind = .xwaylandSurface
  · exact htouches _ hkind (associate_touches ok)
  · rwa [associate, if_neg fun hguard => hkind hguard.1]

theorem dissociate_keeps {J : Wiring → Prop} (h : J w)
    (htouches : ∀ w', o.kind = .xwaylandSurface → Touches o w w' → J w') :
    J (dissociate w o) := by
  by_cases hkind : o.kind = .xwaylandSurface
  · exact htouches _ hkind dissociate_touches
  · rwa [dissociate, if_neg fun hguard => hkind hguard.1]

theorem withdraw_touches : Touches o w (w.withdraw o) := by
  refine dissociate_touches.trans ?_
  exact .of_eq rfl rfl rfl List.erase_sublist (fun _ hne => List.mem_erase_of_ne hne) rfl rfl

theorem vanish_touches : Touches o w (vanish w o) := by
  rw [vanish]
  split
  · dsimp only
    split
    · exact withdraw_touches.trans handleDestroy_touches
    · exact withdraw_touches
  · exact .refl o w

theorem handleArrival_touches (s : World) (a : Arrival) (hkind : o.kind = a.kind) :
    Touches o s.wired (handleArrival o s a).wired := by
  cases a with
  | toplevel allocs => exact handleNewXdgToplevel_touches hkind allocs
  | layerSurface allocs => exact handleNewLayerSurface_touches hkind allocs
  | xwaylandSurface ok => exact handleNewXwaylandSurface_touches ok
  | output allocs =>
      rw [handleArrival, handleNewOutput]
      split
      · exact .refl o _
      · rw [drawOverlay_wired, drawWallpaper_wired]
        exact (allocate_touches _ o o).trans (linkAll_touches _ o _)
  | device type ok => exact handleNewInput_touches ok

theorem arrive_of_unlinked {s : World} {a : Arrival}
    (hl : ¬ s.wired.links (.own a.listener) = true) :
    arrive s a = wire (·.announce ⟨a.kind, s.wired.next⟩) s :=
  if_neg hl

theorem arrive_touches (s : World) (a : Arrival) :
    Touches ⟨a.kind, s.wired.next⟩ (s.wired.announce ⟨a.kind, s.wired.next⟩)
      (arrive s a).wired := by
  have h : ∀ o : Obj, o.kind = a.kind →
      Touches o (s.wired.announce o) (handleArrival o (wire (·.announce o) s) a).wired :=
    fun o hkind => handleArrival_touches (wire (·.announce o) s) a hkind
  rw [arrive]
  split
  · exact h _ rfl
  · exact .refl _ _

end Handlers

section Members

variable (w : Wiring) (o : Obj)

theorem handleDestroy_objects : (handleDestroy w o).objects = w.objects := by
  rw [handleDestroy]
  split <;> simp [handleToplevelDestroy, handleLayerSurfaceDestroy, handleXwsDestroy,
    outputHandleDestroy, handleKeyboardDestroy, Wiring.remove]

theorem handleDestroy_attached : (handleDestroy w o).attached = w.attached := by
  rw [handleDestroy]
  split <;> simp [handleToplevelDestroy, handleLayerSurfaceDestroy, handleXwsDestroy,
    outputHandleDestroy, handleKeyboardDestroy, Wiring.remove]

theorem withdraw_objects : (w.withdraw o).objects = w.objects.erase o := by
  have hdissociate : (dissociate w o).objects = w.objects := by
    rw [dissociate]
    split
    · dsimp only
      split
      · rw [handleXwsDissociate, unlinkAll_objects, enter_objects]
      · rfl
    · rfl
  exact congrArg (List.erase · o) hdissociate

theorem vanish_objects : (vanish w o).objects = w.objects.erase o := by
  rw [vanish]
  split
  · dsimp only
    split
    · rw [handleDestroy_objects, withdraw_objects]
    · rw [withdraw_objects]
  · next hmem => exact (List.erase_of_not_mem hmem).symm

theorem vanish_attached_sublist : (vanish w o).attached.Sublist w.attached := by
  have hwithdraw : (w.withdraw o).attached = w.attached.erase o := by
    have hdissociate : (dissociate w o).attached = w.attached := by
      rw [dissociate]
      split
      · dsimp only
        split
        · rw [handleXwsDissociate, unlinkAll_attached, enter_attached]
        · rfl
      · rfl
    exact congrArg (List.erase · o) hdissociate
  rw [vanish]
  split
  · dsimp only
    split
    · rw [handleDestroy_attached, hwithdraw]
      exact List.erase_sublist
    · rw [hwithdraw]
      exact List.erase_sublist
  · exact List.Sublist.refl _

theorem remove_members (head : ListHead) (n : Nat) :
    (w.remove head n).members head = (w.members head).erase n := by
  simp only [Wiring.members, Wiring.remove, Function.update_self]
  cases w.lists head <;> rfl

theorem handleDestroy_members {head : ListHead} (hkind : o.kind.list = some head) :
    (handleDestroy w o).members head = (w.members head).erase o.number := by
  have hfree : ∀ w : Wiring, (w.free o).members head = w.members head := fun w => by
    rw [Wiring.members, free_lists, Wiring.members]
  have hunlink : ∀ (w : Wiring) slots, (w.unlinkAll o slots).members head = w.members head :=
    fun w slots => by rw [Wiring.members, unlinkAll_lists, Wiring.members]
  have henter : (w.enter o).members head = w.members head := by
    rw [Wiring.members, enter_lists, Wiring.members]
  rw [handleDestroy]
  split
  · next h =>
      rw [h] at hkind
      cases hkind
      rw [handleToplevelDestroy, hfree, remove_members, hunlink, Wiring.members, useList_lists]
      exact congrArg (List.erase · o.number) henter
  · next h =>
      rw [h] at hkind
      cases hkind
      rw [handleLayerSurfaceDestroy, hfree, remove_members, hunlink, henter]
  · next h =>
      rw [h] at hkind
      cases hkind
  · next h =>
      rw [h] at hkind
      cases hkind
  · next h =>
      rw [h] at hkind
      cases hkind
      rw [handleKeyboardDestroy, hfree, remove_members, hunlink, henter]
  · next type hne h =>
      rw [h] at hkind
      cases type with
      | keyboard => exact absurd rfl hne
      | _ => cases hkind

theorem withdraw_lists : (w.withdraw o).lists = w.lists := by
  change (dissociate w o).lists = w.lists
  rw [dissociate]
  split
  · dsimp only
    split
    · rw [handleXwsDissociate, unlinkAll_lists, enter_lists]
    · rfl
  · rfl

theorem vanish_members_sublist (head : ListHead) :
    ((vanish w o).members head).Sublist (w.members head) := by
  have hwithdraw : (w.withdraw o).members head = w.members head := by
    rw [Wiring.members, withdraw_lists, Wiring.members]
  by_cases hkind : o.kind.list = some head
  · rw [vanish]
    split
    · dsimp only
      split
      · rw [handleDestroy_members _ _ hkind, hwithdraw]
        exact List.erase_sublist
      · rw [hwithdraw]
    · exact List.Sublist.refl _
  · rw [Wiring.members, vanish_touches.lists head hkind, Wiring.members]

end Members

/-- The invariant survives what happens in a run; of the announcements nothing is said. -/
structure Lasting (J : Wiring → Prop) : Prop where
  vanish : ∀ w o, J w → J (vanish w o)
  associate : ∀ w o ok, J w → J (associate w o ok)
  dissociate : ∀ w o, J w → J (dissociate w o)
  useToplevels : ∀ w, J w → J (w.useList .toplevels)
  createGlobal : ∀ w g, J w → J (w.createGlobal g)
  register : ∀ w l, l.list = none → J w → J (w.register l)

section Lasting

variable {J J' : Wiring → Prop} {s : World}

theorem Lasting.and (hJ : Lasting J) (hJ' : Lasting J') : Lasting fun w => J w ∧ J' w where
  vanish w o h := ⟨hJ.vanish w o h.1, hJ'.vanish w o h.2⟩
  associate w o ok h := ⟨hJ.associate w o ok h.1, hJ'.associate w o ok h.2⟩
  dissociate w o h := ⟨hJ.dissociate w o h.1, hJ'.dissociate w o h.2⟩
  useToplevels w h := ⟨hJ.useToplevels w h.1, hJ'.useToplevels w h.2⟩
  createGlobal w g h := ⟨hJ.createGlobal w g h.1, hJ'.createGlobal w g h.2⟩
  register w l hl h := ⟨hJ.register w l hl h.1, hJ'.register w l hl h.2⟩

theorem Lasting.runStep (hJ : Lasting J) (h : J s.wired) {e : RunEvent}
    (harrive : ∀ a, e = .arrive a → J (arrive s a).wired) : J (runStep s e).wired := by
  cases e with
  | arrive a => exact harrive a rfl
  | vanish o => exact hJ.vanish _ o h
  | associate o ok => exact hJ.associate _ o ok h
  | dissociate o => exact hJ.dissociate _ o h
  | lockActivate calls => rwa [Lifecycle.runStep, zenLockActivate_wired]
  | lockDeactivate => rwa [Lifecycle.runStep, zenLockDeactivate_wired]
  | key => exact h
  | getRunningApps => exact hJ.useToplevels _ h
  | xwaylandInit ok => exact Triple.always (zenXwaylandInit_wired hJ.createGlobal hJ.register ok) h

theorem Lasting.run (hJ : Lasting J) (harrive : ∀ s a, J s.wired → J (arrive s a).wired)
    (events : List RunEvent) (h : J s.wired) : J (events.foldl Lifecycle.runStep s).wired :=
  List.foldlRecOn (motive := fun s : World => J s.wired) events Lifecycle.runStep h
    fun s hs _ _ => hJ.runStep hs fun a _ => harrive s a hs

end Lasting

/-- The invariant survives that records in lists which have been initialised are freed. -/
def Forgets (J : Wiring → Prop) : Prop :=
  ∀ w o slots head, o.kind.list = some head → head ≠ .toplevels → o.kind.slots ⊆ slots →
    (w.lists head).isSome → J w → J (((w.unlinkAll o slots).remove head o.number).free o)

/-- The invariant survives `zen_layer_destroy` and `zen_input_destroy`, which removes other
listeners than `new_output`. -/
structure Survives (J : Wiring → Prop) : Prop where
  forget : Forgets J
  unregister : ∀ w l, l ≠ .newOutput → J w → J (w.unregister l)
  destroyGlobal : ∀ w, J w → J (w.destroyGlobal .cursor)

section Rules

variable {J : Wiring → Prop} {w : Wiring}

theorem Forgets.forgetAll (hJ : Forgets J) (kind : Kind) {head : ListHead}
    (hkind : kind.list = some head) (hne : head ≠ .toplevels) (ns : List Nat)
    (hlist : (w.lists head).isSome) (h : J w) :
    J (ns.foldl (fun w n =>
      ((w.unlinkAll ⟨kind, n⟩ kind.slots).remove head n).free ⟨kind, n⟩) w) := by
  have hloop := List.foldlRecOn (motive := fun w' : Wiring => J w' ∧ (w'.lists head).isSome) ns
    (fun w n => ((w.unlinkAll ⟨kind, n⟩ kind.slots).remove head n).free ⟨kind, n⟩) ⟨h, hlist⟩ ?_
  · exact hloop.1
  · rintro w' ⟨hw', hlist'⟩ n -
    have hinits := (forget_touches (w := w') (o := ⟨kind, n⟩) hkind kind.slots).inits head
    exact ⟨hJ w' ⟨kind, n⟩ _ head hkind hne (List.Subset.refl _) hlist' hw',
      hinits.trans hlist'⟩

/-- The loop of `zen_xdg_destroy`. -/
theorem freeToplevels_keeps (hJ : ∀ w n, (w.lists .toplevels).isSome → J w →
    J ((w.remove .toplevels n).free ⟨.toplevel, n⟩)) (h : J w) : J w.freeToplevels := by
  rw [Wiring.freeToplevels]
  split
  · exact h
  · next ts hts =>
      have hlist : (w.lists .toplevels).isSome = true := by rw [hts]; rfl
      have hloop := List.foldlRecOn
        (motive := fun w' : Wiring => J w' ∧ (w'.lists .toplevels).isSome) ts
        (fun w n => (w.remove .toplevels n).free ⟨.toplevel, n⟩) ⟨h, hlist⟩ ?_
      · exact hloop.1
      · rintro w' ⟨hw', hlist'⟩ n -
        exact ⟨hJ w' n hlist' hw', ((discard_touches w' n).inits _).trans hlist'⟩

theorem unlinkIfLinked_eq (w : Wiring) (l : GlobalListener) :
    w.unlinkIfLinked l = w.unlink (.own l) := by
  rw [Wiring.unlinkIfLinked]
  split
  · rfl
  · next hl =>
      have hfalse : w.links (.own l) = false := by simpa using hl
      rw [Wiring.unlink, ← hfalse, Function.update_eq_self]

theorem Forgets.freeLayerSurfaces (hJ : Forgets J) (h : J w) : J w.freeLayerSurfaces := by
  rw [Wiring.freeLayerSurfaces]
  split
  · exact h
  · next ls hls => exact hJ.forgetAll .layerSurface rfl (by simp) ls (by simp [hls]) h

theorem Forgets.freeKeyboards (hJ : Forgets J) (h : J w) : J w.freeKeyboards := by
  rw [Wiring.freeKeyboards]
  split
  · exact h
  · next ks hks =>
      exact hJ.forgetAll (.device .keyboard) rfl (by simp) ks (by simp [hks]) h

theorem Survives.inputDestroy (hJ : Survives J) (h : J w) (cursor : Bool) :
    J (w.inputDestroy cursor) := by
  have hmotion := hJ.unregister _ .cursorMotion (by simp) (hJ.forget.freeKeyboards h)
  have hbutton := hJ.unregister _ .cursorButton (by simp)
    (hJ.unregister _ .cursorMotionAbsolute (by simp) hmotion)
  have hinput := hJ.unregister _ .newInput (by simp)
    (hJ.unregister _ .requestCursor (by simp) hbutton)
  cases cursor with
  | true => exact hJ.destroyGlobal _ hinput
  | false => exact hinput

theorem destroyGlobal_faults (g : Global) : w.faults ⊆ (w.destroyGlobal g).faults := by
  rw [Wiring.destroyGlobal]
  dsimp only
  split
  · exact List.subset_cons_self _ _
  · exact List.Subset.refl _

theorem vanishAll_keeps (hvanish : ∀ w o, J w → J (vanish w o)) (h : J w) (os : List Obj) :
    J (vanishAll w os) :=
  List.foldlRecOn os vanish h fun w hw o _ => hvanish w o hw

theorem wlDisplayDestroy_keeps (hglobal : ∀ w g, J w → J (w.destroyGlobal g)) (h : J w) :
    J (wlDisplayDestroy w) := by
  refine List.foldlRecOn _ _ h fun w hw g _ => ?_
  split
  · exact hglobal w g hw
  · exact hw

theorem coreDestroy_keeps (hvanish : ∀ w o, J w → J (vanish w o))
    (hglobal : ∀ w g, J w → J (w.destroyGlobal g)) (h : J w) (display backend : Bool)
    (order : List Obj) : J (w.coreDestroy display backend order) := by
  have hbackend : ∀ w, J w → J (if backend then wlrBackendDestroy order w else w) := by
    intro w hw
    split
    · exact hglobal _ _ (vanishAll_keeps hvanish hw _)
    · exact hw
  cases display with
  | true =>
      simp only [Wiring.coreDestroy, if_true]
      exact wlDisplayDestroy_keeps hglobal (hbackend _ (vanishAll_keeps hvanish h _))
  | false => exact hbackend w h

end Rules

end ZenOS.Lifecycle
