import Mathlib.Data.List.Nodup
import ZenOS.Lifecycle.Handlers
import ZenOS.Library.Runs

/-!
Input devices.  The backend is started in step 10 and announces the devices that are there;
`new_input` is registered in step 12, and the devices are not announced again.
-/

namespace ZenOS.Lifecycle

open ZenOS.Library.Programs
open ZenOS.Library.Runs (Along along_iff_along along_const along_true)

/-- The devices that the compositor has to do with. -/
def Obj.isInput (o : Obj) : Bool :=
  match o.kind with
  | .device .keyboard | .device .pointer | .device .touch => true
  | _ => false

/-- A keyboard has one record, whose listeners are linked; a pointer or a touch device is
attached to the cursor. -/
def Tracked (w : Wiring) (o : Obj) : Prop :=
  match o.kind with
  | .device .keyboard =>
      (w.members .keyboards).count o.number = 1 ∧
        w.links (.record o .key) = true ∧ w.links (.record o .modifiers) = true
  | .device .pointer | .device .touch => o ∈ w.attached
  | _ => True

instance (w : Wiring) : ∀ o, Decidable (Tracked w o)
  | ⟨.device .keyboard, _⟩ => inferInstanceAs (Decidable (_ ∧ _ ∧ _))
  | ⟨.device .pointer, _⟩ | ⟨.device .touch, _⟩ => inferInstanceAs (Decidable (_ ∈ _))
  | ⟨.device .tablet, _⟩ | ⟨.device .tabletPad, _⟩ | ⟨.device .switch, _⟩ | ⟨.toplevel, _⟩
  | ⟨.layerSurface, _⟩ | ⟨.xwaylandSurface, _⟩ | ⟨.output, _⟩ =>
      inferInstanceAs (Decidable True)

/-- No input device that is there is missed. -/
def NoneMissed (w : Wiring) : Prop :=
  ∀ o ∈ w.objects, Tracked w o

instance (w : Wiring) : Decidable (NoneMissed w) :=
  inferInstanceAs (Decidable (∀ o ∈ w.objects, _))

/-- The record of a keyboard can be allocated. -/
def RunEvent.getsRecord : RunEvent → Bool
  | .arrive (.device .keyboard ok) => ok
  | _ => true

/-- The objects that are there after an announcement, and the number of the next one. -/
def announceStart : List Obj × Nat → StartEvent → List Obj × Nat
  | (os, n), .output _ => (⟨.output, n⟩ :: os, n + 1)
  | (os, n), .device type _ => (⟨.device type, n⟩ :: os, n + 1)
  | (os, n), .vanish o => (os.erase o, n)

/-- What is announced while the backend starts and does not vanish again. -/
def survivors (start : List StartEvent) : List Obj :=
  (start.foldl announceStart ([], 0)).1

/-- The numbers of what has been announced are distinct, and below the next one. -/
structure Numbered (p : List Obj × Nat) : Prop where
  distinct : (p.1.map Obj.number).Nodup
  bounded : ∀ o ∈ p.1, o.number < p.2

/-- `new_input` is registered, and objects are told apart by their numbers. -/
structure Attentive (w : Wiring) : Prop where
  numbered : Numbered (w.objects, w.next)
  numbers : ∀ n ∈ w.members .keyboards, n < w.next
  initialised : (w.lists .keyboards).isSome = true
  newInput : w.links (.own .newInput) = true

section Step

variable {w w' : Wiring} {s : World} {o o' : Obj}

theorem Numbered.announce {p : List Obj × Nat} (h : Numbered p) (kind : Kind) :
    Numbered (⟨kind, p.2⟩ :: p.1, p.2 + 1) where
  distinct := by
    refine List.nodup_cons.mpr ⟨fun hmem => ?_, h.distinct⟩
    obtain ⟨o, ho, hnumber⟩ := List.mem_map.mp hmem
    exact Nat.lt_irrefl _ (hnumber ▸ h.bounded o ho)
  bounded o ho := by
    rcases List.mem_cons.mp ho with rfl | ho
    · exact Nat.lt_succ_self _
    · exact Nat.lt_succ_of_lt (h.bounded o ho)

theorem Numbered.sublist {os os' : List Obj} {n : Nat} (h : Numbered (os, n))
    (hsub : os'.Sublist os) : Numbered (os', n) :=
  ⟨(hsub.map Obj.number).nodup h.distinct, fun o ho => h.bounded o (hsub.subset ho)⟩

theorem Attentive.touches (h : Attentive w) (ht : Touches o w w')
    (ho : o.kind.list = some .keyboards → o.number < w.next) : Attentive w' where
  numbered := by
    rw [ht.next]
    exact h.numbered.sublist ht.objects
  numbers n hn := by
    rw [ht.next]
    by_cases hkind : o.kind.list = some .keyboards
    · by_cases hnumber : n = o.number
      · rw [hnumber]
        exact ho hkind
      · refine h.numbers n (List.count_pos_iff.mp ?_)
        rw [← ht.members .keyboards n hnumber]
        exact List.count_pos_iff.mpr hn
    · rw [Wiring.members, ht.lists _ hkind] at hn
      exact h.numbers n hn
  initialised := (ht.inits _).trans h.initialised
  newInput := (ht.links _).trans h.newInput

theorem Tracked.touches (h : Tracked w o') (ht : Touches o w w') (hne : o' ≠ o)
    (hnumber : o.kind.list = some .keyboards → o'.number ≠ o.number) : Tracked w' o' := by
  have hcount : (w'.members .keyboards).count o'.number =
      (w.members .keyboards).count o'.number := by
    by_cases hkind : o.kind.list = some .keyboards
    · exact ht.members .keyboards _ (hnumber hkind)
    · rw [Wiring.members, ht.lists _ hkind, Wiring.members]
  obtain ⟨kind, n⟩ := o'
  cases kind with
  | device type =>
      cases type with
      | keyboard =>
          exact ⟨hcount.trans h.1, (ht.others _ _ hne).trans h.2.1, (ht.others _ _ hne).trans h.2.2⟩
      | pointer => exact (ht.attached _ hne).mpr h
      | touch => exact (ht.attached _ hne).mpr h
      | _ => trivial
  | _ => trivial

theorem Attentive.announce (h : Attentive w) (kind : Kind) :
    Attentive (w.announce ⟨kind, w.next⟩) where
  numbered := h.numbered.announce kind
  numbers n hn := Nat.lt_succ_of_lt (h.numbers n hn)
  initialised := h.initialised
  newInput := h.newInput

theorem Attentive.arrive (h : Attentive s.wired) (a : Arrival) : Attentive (arrive s a).wired :=
  (h.announce a.kind).touches (arrive_touches s a) fun _ => Nat.lt_succ_self _

theorem Attentive.vanish (h : Attentive w) (o : Obj) : Attentive (vanish w o) := by
  by_cases ho : o ∈ w.objects
  · exact h.touches vanish_touches fun _ => h.numbered.bounded o ho
  · rwa [Lifecycle.vanish, if_neg ho]

theorem handleNewInput_tracked {type : DeviceType} {n : Nat} {ok : Bool}
    (hnew : n ∉ w.members .keyboards) (hlist : (w.lists .keyboards).isSome = true)
    (hok : type = .keyboard → ok = true) :
    Tracked (handleNewInput w ⟨.device type, n⟩ ok) ⟨.device type, n⟩ := by
  cases type with
  | keyboard =>
      obtain ⟨ks, hks⟩ := Option.isSome_iff_exists.mp hlist
      have hnew' : n ∉ ks := by simpa [Wiring.members, hks] using hnew
      have hlink : ∀ slot ∈ [Slot.key, .modifiers],
          (handleNewInput w ⟨.device .keyboard, n⟩ ok).links
            (.record ⟨.device .keyboard, n⟩ slot) = true := by
        intro slot hslot
        rw [handleNewInput, hok rfl]
        simp only [Bool.not_true, Bool.false_eq_true, if_false]
        change ((((w.allocate _).linkAll _ _).useList .keyboards).links _) = true
        rw [useList_links, Wiring.linkAll_eq]
        have hmem : slot ∈ [Slot.key, .modifiers, .destroy] :=
          (show [Slot.key, .modifiers] ⊆ [.key, .modifiers, .destroy] by decide) hslot
        exact Bool.or_eq_true_iff.mpr (.inl (List.any_eq_true.mpr ⟨slot, hmem, by simp⟩))
      refine ⟨?_, hlink _ (by simp), hlink _ (by simp)⟩
      rw [handleNewInput, hok rfl]
      simp [Wiring.members, Wiring.updateCapabilities, Wiring.insert, Wiring.allocate, hks,
        List.count_eq_zero.mpr hnew']
  | pointer => exact List.mem_cons_self
  | touch => exact List.mem_cons_self
  | _ => trivial

theorem handleNewInput_untracked {n : Nat} (hnew : n ∉ w.members .keyboards) :
    ¬ Tracked (handleNewInput w ⟨.device .keyboard, n⟩ false) ⟨.device .keyboard, n⟩ := by
  rintro ⟨hcount, -⟩
  have hzero := List.count_eq_zero.mpr hnew
  exact absurd (hzero.symm.trans hcount) (by simp)

theorem isInput_of_list (ho : o.kind.list = some .keyboards) : o.isInput = true := by
  obtain ⟨kind, n⟩ := o
  cases kind with
  | device type =>
      cases type with
      | keyboard => rfl
      | _ => cases ho
  | _ => cases ho

theorem Tracked.of_not_isInput (ho : o.isInput = false) : Tracked w o := by
  obtain ⟨kind, n⟩ := o
  cases kind with
  | device type =>
      cases type with
      | keyboard | pointer | touch => cases ho
      | _ => trivial
  | _ => trivial

/-- The device module is as it should be. -/
structure Watching (w : Wiring) : Prop extends Attentive w where
  noneMissed : NoneMissed w

theorem Watching.touches (h : Watching w) (ht : Touches o w w') (ho : o.isInput = false) :
    Watching w' where
  toAttentive := h.toAttentive.touches ht fun hlist =>
    absurd (ho.symm.trans (isInput_of_list hlist)) Bool.false_ne_true
  noneMissed o' ho' := by
    by_cases heq : o' = o
    · rw [heq]
      exact .of_not_isInput ho
    · refine (h.noneMissed o' (ht.objects.subset ho')).touches ht heq fun hlist => ?_
      exact absurd (ho.symm.trans (isInput_of_list hlist)) Bool.false_ne_true

theorem Watching.vanish (h : Watching w) (o : Obj) : Watching (vanish w o) := by
  refine ⟨h.toAttentive.vanish o, fun o' ho' => ?_⟩
  have hmem : o' ∈ w.objects := vanish_touches.objects.subset ho'
  have hne : o' ≠ o := by
    rintro rfl
    rw [vanish_objects] at ho'
    exact (h.numbered.distinct.of_map _).not_mem_erase ho'
  by_cases ho : o ∈ w.objects
  · refine (h.noneMissed o' hmem).touches vanish_touches hne fun _ hnumber => hne ?_
    exact List.inj_on_of_nodup_map h.numbered.distinct hmem ho hnumber
  · rw [Lifecycle.vanish, if_neg ho]
    exact h.noneMissed o' hmem

theorem Watching.arrive_others (h : Watching s.wired) (a : Arrival)
    (ho : o ∈ (arrive s a).wired.objects) (hne : o ≠ ⟨a.kind, s.wired.next⟩) :
    Tracked (arrive s a).wired o := by
  have hmem : o ∈ s.wired.objects :=
    (List.mem_cons.mp ((arrive_touches s a).objects.subset ho)).resolve_left hne
  have hannounced : Tracked (s.wired.announce ⟨a.kind, s.wired.next⟩) o := h.noneMissed o hmem
  exact hannounced.touches (arrive_touches s a) hne fun _ => (h.numbered.bounded o hmem).ne

theorem Attentive.arrive_device (h : Attentive s.wired) (type : DeviceType) (ok : Bool) :
    (Lifecycle.arrive s (.device type ok)).wired =
      handleNewInput (s.wired.announce ⟨.device type, s.wired.next⟩)
        ⟨.device type, s.wired.next⟩ ok := by
  rw [Lifecycle.arrive]
  exact congrArg World.wired (if_pos h.newInput)

theorem Watching.arrive_iff (h : Watching s.wired) (a : Arrival) :
    NoneMissed (arrive s a).wired ↔ (RunEvent.arrive a).getsRecord = true := by
  constructor
  · intro hnone
    match a with
    | .device .keyboard true => rfl
    | .device .keyboard false =>
        rw [h.arrive_device] at hnone
        have hnew : s.wired.next ∉ s.wired.members .keyboards := fun hmem =>
          Nat.lt_irrefl _ (h.numbers _ hmem)
        exact absurd (hnone _ List.mem_cons_self) (handleNewInput_untracked hnew)
    | .device .pointer _ | .device .touch _ | .device .tablet _ | .device .tabletPad _
    | .device .switch _ | .toplevel _ | .layerSurface _ | .xwaylandSurface _ | .output _ => rfl
  · intro hok o ho
    by_cases hne : o = ⟨a.kind, s.wired.next⟩
    · subst hne
      match a with
      | .device type ok =>
          rw [h.arrive_device]
          refine handleNewInput_tracked (fun hmem => Nat.lt_irrefl _ (h.numbers _ hmem))
            h.initialised fun htype => ?_
          subst htype
          exact hok
      | .toplevel _ | .layerSurface _ | .xwaylandSurface _ | .output _ => trivial
    · exact h.arrive_others a ho hne

theorem Watching.createGlobal (h : Watching w) (g : Global) : Watching (w.createGlobal g) :=
  ⟨⟨h.numbered, h.numbers, h.initialised, h.newInput⟩, h.noneMissed⟩

theorem Watching.register (h : Watching w) (l : GlobalListener) : Watching (w.register l) := by
  refine ⟨⟨h.numbered, h.numbers, h.initialised, ?_⟩, fun o ho => ?_⟩
  · rw [Wiring.register_links, h.newInput, Bool.or_true]
  · have hlinks : ∀ slot, (w.register l).links (.record o slot) = w.links (.record o slot) :=
      fun slot => update_own_record o w.links l true slot
    have htracked := h.noneMissed o ho
    obtain ⟨kind, n⟩ := o
    cases kind with
    | device type =>
        cases type with
        | keyboard =>
            exact ⟨htracked.1, (hlinks _).trans htracked.2.1, (hlinks _).trans htracked.2.2⟩
        | _ => exact htracked
    | _ => trivial

theorem lasting_watching : Lasting Watching where
  vanish _ o h := h.vanish o
  associate _ _ ok h :=
    associate_keeps h (fun _ hkind ht => h.touches ht (by rw [Obj.isInput, hkind])) ok
  dissociate _ _ h :=
    dissociate_keeps h fun _ hkind ht => h.touches ht (by rw [Obj.isInput, hkind])
  useToplevels w h := by
    have htouches : Touches ⟨.toplevel, 0⟩ w (w.useList .toplevels) := useList_touches rfl
    exact h.touches htouches rfl
  createGlobal _ g h := h.createGlobal g
  register _ l _ h := h.register l

theorem Watching.step_iff (h : Watching s.wired) (e : RunEvent) :
    NoneMissed (runStep s e).wired ↔ e.getsRecord = true := by
  match e with
  | .arrive a => exact h.arrive_iff a
  | .vanish _ | .associate _ _ | .dissociate _ | .lockActivate _ | .lockDeactivate | .key
  | .getRunningApps | .xwaylandInit _ =>
      exact iff_of_true (lasting_watching.runStep h (by simp)).noneMissed rfl

theorem Watching.runStep (h : Watching s.wired) {e : RunEvent}
    (hnone : NoneMissed (runStep s e).wired) : Watching (runStep s e).wired := by
  match e with
  | .arrive a => exact ⟨h.toAttentive.arrive a, hnone⟩
  | .vanish _ | .associate _ _ | .dissociate _ | .lockActivate _ | .lockDeactivate | .key
  | .getRunningApps | .xwaylandInit _ => exact lasting_watching.runStep h (by simp)

end Step

/-- Nobody has been told of a device yet. -/
structure Untold (p : List Obj × Nat) (w : Wiring) : Prop where
  objects : w.objects = p.1
  next : w.next = p.2
  attached : w.attached = []
  keyboards : w.members .keyboards = []

section Start

variable {p : List Obj × Nat} {w w' : Wiring} {s : World} {o : Obj}

theorem Numbered.announceStart (h : Numbered p) (e : StartEvent) :
    Numbered (announceStart p e) := by
  cases e with
  | output allocs => exact h.announce .output
  | device type ok => exact h.announce (.device type)
  | vanish o => exact h.sublist List.erase_sublist

theorem Untold.announce (h : Untold p w) (kind : Kind) :
    Untold (⟨kind, p.2⟩ :: p.1, p.2 + 1) (w.announce ⟨kind, w.next⟩) where
  objects := by rw [Wiring.announce, h.objects, h.next]
  next := congrArg (· + 1) h.next
  attached := h.attached
  keyboards := h.keyboards

theorem Untold.handleNewOutput (h : Untold p s.wired) (allocs : OutputAllocs) :
    Untold p (handleNewOutput o allocs s).wired := by
  rw [Lifecycle.handleNewOutput]
  split
  · exact h
  · rw [drawOverlay_wired, drawWallpaper_wired]
    change Untold p ((s.wired.allocate o).linkAll o _)
    rw [Wiring.linkAll_eq]
    exact ⟨h.objects, h.next, h.attached, h.keyboards⟩

theorem Untold.arrive_output (h : Untold p s.wired) (allocs : OutputAllocs) :
    Untold (⟨.output, p.2⟩ :: p.1, p.2 + 1) (arrive s (.output allocs)).wired := by
  rw [Lifecycle.arrive]
  split
  · exact (h.announce .output).handleNewOutput allocs
  · exact h.announce .output

theorem Untold.vanish (h : Untold p w) (o : Obj) : Untold (p.1.erase o, p.2) (vanish w o) where
  objects := by rw [vanish_objects, h.objects]
  next := vanish_touches.next.trans h.next
  attached := List.sublist_nil.mp (h.attached ▸ vanish_attached_sublist w o)
  keyboards := List.sublist_nil.mp (h.keyboards ▸ vanish_members_sublist w o .keyboards)

theorem Untold.startEvent (h : Untold p s.wired) (hl : s.wired.links (.own .newInput) = false)
    (e : StartEvent) : Untold (announceStart p e) (startEvent s e).wired := by
  cases e with
  | output allocs => exact h.arrive_output allocs
  | device type ok =>
      rw [Lifecycle.startEvent, arrive_of_unlinked (hl ▸ Bool.false_ne_true)]
      exact h.announce (.device type)
  | vanish o => exact h.vanish o

theorem startEvent_newInput (hl : s.wired.links (.own .newInput) = false) (e : StartEvent) :
    (startEvent s e).wired.links (.own .newInput) = false := by
  cases e with
  | output allocs => exact ((arrive_touches s (.output allocs)).links _).trans hl
  | device type ok => exact ((arrive_touches s (.device type ok)).links _).trans hl
  | vanish o => exact (vanish_touches.links _).trans hl

theorem Untold.start (h : Untold p s.wired) (hl : s.wired.links (.own .newInput) = false)
    (start : List StartEvent) :
    Untold (start.foldl Lifecycle.announceStart p) (start.foldl Lifecycle.startEvent s).wired := by
  induction start generalizing p s with
  | nil => exact h
  | cons e start ih => exact ih (h.startEvent hl e) (startEvent_newInput hl e)

theorem Untold.stable : Stable (Untold p) where
  listInit w head h := by
    refine ⟨h.objects, h.next, h.attached, ?_⟩
    rcases eq_or_ne ListHead.keyboards head with rfl | hne
    · simp [Wiring.members, Wiring.listInit]
    · simpa [Wiring.members, Wiring.listInit, Function.update_of_ne hne] using h.keyboards
  createGlobal _ _ h := ⟨h.objects, h.next, h.attached, h.keyboards⟩
  register _ _ h _ := ⟨h.objects, h.next, h.attached, h.keyboards⟩

theorem Untold.survives : Survives (Untold p) where
  forget w o slots head hkind _ _ _ h := by
    have htouches := forget_touches (w := w) hkind slots
    refine ⟨?_, htouches.next.trans h.next, ?_, ?_⟩
    · rw [free_objects]
      exact (unlinkAll_objects w o slots).trans h.objects
    · rw [free_attached]
      exact (unlinkAll_attached w o slots).trans h.attached
    · rw [Wiring.members, free_lists]
      by_cases hhead : head = .keyboards
      · subst hhead
        refine (remove_members _ _ _).trans ?_
        rw [Wiring.members, unlinkAll_lists]
        exact congrArg (List.erase · o.number) h.keyboards
      · rw [← free_lists _ o, htouches.lists _ (by simpa [hkind] using hhead)]
        exact h.keyboards
  unregister w l _ h := by
    rw [Wiring.unregister]
    split
    · exact ⟨h.objects, h.next, h.attached, h.keyboards⟩
    · exact h
  destroyGlobal w h := by
    rw [Wiring.destroyGlobal]
    split <;> exact ⟨h.objects, h.next, h.attached, h.keyboards⟩

theorem Untold.noneMissed_iff (h : Untold p w) :
    NoneMissed w ↔ ∀ o ∈ p.1, o.isInput = false := by
  rw [NoneMissed, h.objects]
  refine forall₂_congr fun o _ => ⟨fun htracked => ?_, .of_not_isInput⟩
  obtain ⟨kind, n⟩ := o
  cases kind with
  | device type =>
      cases type with
      | keyboard =>
          have hcount := htracked.1
          rw [h.keyboards] at hcount
          cases hcount
      | pointer | touch =>
          rw [Tracked, h.attached] at htracked
          cases htracked
      | _ => rfl
  | _ => rfl

end Start

section Life

/-- Nobody has been told of a device, and `new_input` is not registered yet. -/
structure Deaf (p : List Obj × Nat) (w : Wiring) : Prop where
  untold : Untold p w
  newInput : w.links (.own .newInput) = false

theorem zenCompositorCreate_untold (calls : CreateCalls) (start : List StartEvent)
    (order : List Obj) :
    Triple (OnWiring (Deaf ([], 0))) (zenCompositorCreate calls start order)
      (OnWiring fun w => Untold (start.foldl announceStart ([], 0)) w ∧ Initialised w)
      fun _ => True := by
  have hcore : Triple (OnWiring (Deaf ([], 0))) (createCore calls) (OnWiring (Deaf ([], 0)))
      fun _ => True :=
    (createCore_wired (fun _ g hw => ⟨Untold.stable.createGlobal _ g hw.untold, hw.newInput⟩)
      calls).weakenFailure fun _ _ => trivial
  have hregister : Triple (OnWiring (Deaf ([], 0))) (update (wire (·.register .newOutput)))
      (OnWiring (Deaf ([], 0))) fun _ => True := by
    refine Triple.update fun s hs => ⟨⟨?_, ?_, ?_, ?_⟩, ?_⟩
    · exact hs.untold.objects
    · exact hs.untold.next
    · exact hs.untold.attached
    · exact hs.untold.keyboards
    · exact (s.wired.register_links _ _).trans (by rw [hs.newInput]; rfl)
  have hstart : Triple (OnWiring (Deaf ([], 0))) (wlrBackendStart start calls.backendStart)
      (OnWiring (Untold (start.foldl announceStart ([], 0)))) fun _ => True :=
    Triple.seq (Triple.update fun _ hs => hs.untold.start hs.newInput start)
      ((Triple.ensureKeeps _).weakenFailure fun _ _ => trivial)
  have hmodules := createModules_wired (Untold.stable (p := start.foldl announceStart ([], 0)))
    calls fun s hs => by
      rw [OnWiring, zenInputDestroy_wired]
      exact Untold.survives.inputDestroy hs _
  exact Triple.onFailure (hcore.seq (hregister.seq (hstart.seq
    (hmodules.weakenFailure fun _ _ => trivial)))) fun _ _ => trivial

theorem created_untold (plan : Plan) (h : plan.created.1 = true) :
    Untold (plan.start.foldl announceStart ([], 0)) plan.created.2.wired ∧
      Initialised plan.created.2.wired := by
  have hzeroed : OnWiring (Deaf ([], 0)) zeroed := ⟨⟨rfl, rfl, rfl, rfl⟩, rfl⟩
  have hcreate := zenCompositorCreate_untold plan.calls plan.start plan.order zeroed hzeroed
  exact (if_pos h).mp hcreate

theorem announceStart_numbered (start : List StartEvent) :
    Numbered (start.foldl announceStart ([], 0)) :=
  List.foldlRecOn start announceStart ⟨List.nodup_nil, by simp⟩ fun _ h e _ => h.announceStart e

/-- No input device is ever missed exactly if none that is announced during the start is
there when the creation returns, and every later keyboard gets its record. -/
theorem devices_tracked_iff (plan : Plan) (h : plan.created.1 = true) :
    (NoneMissed plan.created.2.wired ∧
      Along runStep (fun s e => NoneMissed (runStep s e).wired) plan.created.2 plan.events) ↔
      (∀ o ∈ survivors plan.start, o.isInput = false) ∧
        ∀ e ∈ plan.events, e.getsRecord = true := by
  obtain ⟨huntold, hinitialised⟩ := created_untold plan h
  rw [huntold.noneMissed_iff]
  refine and_congr_right fun hstart => ?_
  have hwatching : Watching plan.created.2.wired :=
    { numbered := by
        rw [huntold.objects, huntold.next]
        exact announceStart_numbered plan.start
      numbers := by simp [huntold.keyboards]
      initialised := hinitialised.lists .keyboards
      newInput := hinitialised.newInput
      noneMissed := huntold.noneMissed_iff.mpr hstart }
  have hsteps : Along runStep (fun s e => NoneMissed (runStep s e).wired) plan.created.2
      plan.events ↔ Along runStep (fun _ e => e.getsRecord = true) plan.created.2 plan.events :=
    along_iff_along (I := fun s : World => Watching s.wired)
      (fun _ _ hs _ hnone => hs.runStep hnone) (fun _ e hs _ => hs.step_iff e)
      (along_true plan.created.2 plan.events) hwatching
  exact hsteps.trans (along_const _ _ _)

/-- A pointer goes while the backend starts; a keyboard comes and goes later, and a touch
device comes. -/
def hotplug : Plan :=
  { calls := .succeed
    start := [.device .pointer true, .vanish ⟨.device .pointer, 0⟩]
    events := [.arrive (.device .keyboard true), .arrive (.device .touch true),
      .vanish ⟨.device .keyboard, 1⟩]
    order := [] }

theorem hotplug_misses_nothing :
    NoneMissed hotplug.created.2.wired ∧
      Along runStep (fun s e => NoneMissed (runStep s e).wired) hotplug.created.2
        hotplug.events :=
  (devices_tracked_iff hotplug (by decide +kernel)).mpr (by decide +kernel)

/-- A keyboard and a pointer are there when the backend starts. -/
def pluggedIn : Plan :=
  { calls := .succeed
    start := [.device .keyboard true, .device .pointer true]
    events := []
    order := [] }

theorem plugged_in_is_missed :
    pluggedIn.created.1 = true ∧
      pluggedIn.created.2.wired.objects = [⟨.device .pointer, 1⟩, ⟨.device .keyboard, 0⟩] ∧
      ¬ Tracked pluggedIn.created.2.wired ⟨.device .keyboard, 0⟩ ∧
      ¬ Tracked pluggedIn.created.2.wired ⟨.device .pointer, 1⟩ := by
  decide +kernel

end Life

end ZenOS.Lifecycle
