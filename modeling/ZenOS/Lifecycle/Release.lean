import ZenOS.Lifecycle.Balance
import ZenOS.Lifecycle.Lists

/-!
Every resource is released exactly once: the creation acquires into pointers that are
unset, wherever it fails, and the destruction leaves every pointer unset.
-/

namespace ZenOS.Lifecycle

open ZenOS.Compositor (ZenKeybinding)
open ZenOS.Library.Programs ZenOS.Library.Ownership

/-- The books are balanced, the pointers in `held` are set and those in `unset` are not,
and `K` holds of the registry of key bindings and of the state of the wallpaper. -/
structure Stage (held unset : List Pointer)
    (K : Option (List (Nat × ZenKeybinding)) → Option Nat → Prop) (s : World) : Prop where
  balanced : s.owned.Balanced
  held : ∀ p ∈ held, s.owned.has p = true
  unset : ∀ p ∈ unset, s.owned.pointers p = none
  state : K s.owned.keybindings s.owned.wallpaperState

/-- What hangs on something else finds it. -/
def Pointer.Supported (held : List Pointer) (p : Pointer) : Prop :=
  (∀ b f, p = .field b f → .buffer b ∈ held) ∧ (p.onScene = true → .scene ∈ held)

/-- Nothing hangs on the pointer. -/
def Pointer.isPlain : Pointer → Bool
  | .buffer _ | .scene => false
  | _ => true

/-- The pointer hangs on nothing. -/
def Pointer.isStandalone : Pointer → Bool
  | .field .. => false
  | _ => true

theorem Pointer.supported_of_isStandalone (held : List Pointer) {p : Pointer}
    (hp : p.isStandalone = true) : p.Supported held := by
  cases p with
  | field b f => cases hp
  | _ => exact ⟨by simp, by simp [Pointer.onScene]⟩

namespace Stage

variable {held held' unset unset' : List Pointer}
  {K K' : Option (List (Nat × ZenKeybinding)) → Option Nat → Prop} {s : World} {p : Pointer}
  {E : World → Prop}

theorem mono (h : Stage held unset K s) (hheld : held' ⊆ held) (hunset : unset' ⊆ unset) :
    Stage held' unset' K s :=
  ⟨h.balanced, fun p hp => h.held p (hheld hp), fun p hp => h.unset p (hunset hp), h.state⟩

theorem forget (h : Stage held (p :: unset) K s) : Stage held unset K s :=
  h.mono (List.Subset.refl _) (List.subset_cons_self _ _)

theorem of_owned (h : Stage held unset K s) {s' : World} (hs' : s'.owned = s.owned) :
    Stage held unset K s' := by
  constructor <;> rw [hs']
  · exact h.balanced
  · exact h.held
  · exact h.unset
  · exact h.state

theorem wire (h : Stage held unset K s) (f : Wiring → Wiring) :
    Stage held unset K (wire f s) :=
  h.of_owned rfl

theorem wireIf (h : Stage held unset K s) (p : Pointer) (f : Wiring → Wiring) :
    Stage held unset K (wireIf p f s) :=
  h.of_owned rfl

theorem acquire (h : Stage held (p :: unset) K s) (hp : p ∉ unset) (hsup : p.Supported held) :
    Stage (p :: held) unset K (own (·.acquire p) s) where
  balanced := h.balanced.acquire (h.unset p List.mem_cons_self)
    (fun b f hbf => h.held _ (hsup.1 b f hbf)) fun hscene => h.held _ (hsup.2 hscene)
  held q hq := by
    change (s.owned.acquire p).has q = true
    exact Ownership.acquire_has_iff.mpr ((List.mem_cons.mp hq).imp_right (h.held q))
  unset q hq := by
    have hne : q ≠ p := fun heq => hp (heq ▸ hq)
    exact (Ownership.acquire_pointers_of_ne hne).trans (h.unset q (List.mem_cons_of_mem _ hq))
  state := h.state

theorem release (h : Stage held unset K s) (hp : p ∉ held)
    (hbuffer : ∀ b, p = .buffer b → ∀ f, .field b f ∈ unset)
    (hscene : p = .scene → (∀ b, .field b .sceneBuffer ∈ unset) ∧
      s.owned.wallpaperState = none) :
    Stage held (p :: unset) K (own (·.release p) s) where
  balanced := by
    have hhas : ∀ q ∈ unset, s.owned.has q = false := fun q hq => by
      rw [Ownership.has, h.unset q hq]
      rfl
    refine h.balanced.release (fun b hb f => hhas _ (hbuffer b hb f)) fun hs => ?_
    obtain ⟨hnodes, hwallpaper⟩ := hscene hs
    refine ⟨fun q hq => ?_, hwallpaper⟩
    cases q with
    | field b f =>
        cases f with
        | sceneBuffer => exact hhas _ (hnodes b)
        | _ => cases hq
    | _ => cases hq
  held q hq := by
    have hne : q ≠ p := fun heq => hp (heq ▸ hq)
    change (s.owned.release p).has q = true
    exact Ownership.release_has_iff.mpr ⟨hne, h.held q hq⟩
  unset q hq := by
    change (s.owned.release p).pointers q = none
    rcases eq_or_ne q p with rfl | hne
    · exact Ownership.release_pointers_self
    · rw [s.owned.release_pointers_of_ne hne]
      exact h.unset q ((List.mem_cons.mp hq).resolve_left hne)
  state := by
    change K (s.owned.release p).keybindings (s.owned.release p).wallpaperState
    rw [Ownership.release_keybindings, Ownership.release_wallpaperState]
    exact h.state

theorem releaseAll (h : Stage held unset K s) {ps : List Pointer}
    (hps : ∀ p ∈ ps, p ∉ held ∧ p.isPlain = true) :
    Stage held (ps ++ unset) K (own (·.releaseAll ps) s) := by
  induction ps generalizing s unset with
  | nil => exact h
  | cons p ps ih =>
      obtain ⟨⟨hp, hplain⟩, hps⟩ := List.forall_mem_cons.mp hps
      have hrelease : Stage held (p :: unset) K (own (·.release p) s) := by
        refine h.release hp ?_ ?_
        · rintro b rfl
          cases hplain
        · rintro rfl
          cases hplain
      exact (ih hrelease hps).mono (List.Subset.refl _) (by simp)

end Stage

theorem CairoBuffer.isPlain_of_mem_fields {b : CairoBuffer} {p : Pointer} (hp : p ∈ b.fields) :
    p.isPlain = true := by
  simp only [CairoBuffer.fields, List.mem_cons, List.not_mem_nil, or_false] at hp
  rcases hp with rfl | rfl | rfl | rfl | rfl <;> rfl

theorem CairoBuffer.field_mem_fields (b : CairoBuffer) (f : CairoField) :
    .field b f ∈ b.fields := by
  cases f <;> simp [CairoBuffer.fields]

section Buffers

variable {held unset : List Pointer}
  {K : Option (List (Nat × ZenKeybinding)) → Option Nat → Prop} {s : World} {b : CairoBuffer}

theorem Stage.releaseBuffer (h : Stage held (b.fields ++ unset) K s) (hb : .buffer b ∉ held) :
    Stage held (b.pointers ++ unset) K (own (·.release (.buffer b)) s) := by
  refine (h.release hb ?_ (by simp)).mono (List.Subset.refl _) ?_
  · rintro b' hb' f
    cases hb'
    exact List.mem_append_left _ (b.field_mem_fields f)
  · intro p hp
    rw [CairoBuffer.pointers] at hp
    simp only [List.mem_append, List.mem_cons] at hp ⊢
    tauto

theorem Stage.zenCairoBufferDestroy (h : Stage held unset K s)
    (hb : ∀ p ∈ b.pointers, p ∉ held) :
    Stage held (b.fields ++ unset) K (zenCairoBufferDestroy b s) :=
  h.releaseAll fun p hp =>
    ⟨hb p (List.mem_append_left _ hp), CairoBuffer.isPlain_of_mem_fields hp⟩

theorem Stage.freeBuffer (h : Stage held unset K s) (hb : ∀ p ∈ b.pointers, p ∉ held) :
    Stage held (b.pointers ++ unset) K (freeBuffer b s) := by
  have hbuffer : .buffer b ∈ b.pointers := List.mem_append_right _ List.mem_cons_self
  rw [Lifecycle.freeBuffer]
  split
  · exact (h.zenCairoBufferDestroy hb).releaseBuffer (hb _ hbuffer)
  · next hnone =>
      have hfields := h.balanced.pointers_eq_none (Bool.eq_false_iff.mpr hnone)
      refine ⟨h.balanced, h.held, fun p hp => ?_, h.state⟩
      exact (List.mem_append.mp hp).elim (hfields p) (h.unset p)

theorem create_stage {p : Pointer} (ok : Bool) (hp : p ∉ unset) (hsup : p.Supported held) :
    Triple (Stage held (p :: unset) K) (create p ok) (Stage (p :: held) unset K)
      (Stage held (p :: unset) K) :=
  Triple.seq (Triple.ensure (fun _ h _ => h) fun _ h _ => h)
    (Triple.update fun _ h => h.acquire hp hsup)

theorem createField_stage {f : CairoField} {ok : Bool} {rest : List Pointer}
    (hscene : .scene ∈ held) (hf : .field b f ∉ rest) (hrest : unset ⊆ rest) :
    Triple (Stage (.buffer b :: held) (.field b f :: rest) K) (create (.field b f) ok)
      (Stage (.buffer b :: held) rest K) (Stage held unset K) := by
  have hsup : (Pointer.field b f).Supported (.buffer b :: held) := by
    refine ⟨?_, fun _ => List.mem_cons_of_mem _ hscene⟩
    rintro b' f' heq
    cases heq
    exact List.mem_cons_self
  refine (create_stage ok hf hsup).mono (fun _ h => h) (fun _ h => ?_) fun _ h => ?_
  · exact h.mono (List.subset_cons_self _ _) (List.Subset.refl _)
  · exact h.mono (List.subset_cons_self _ _) (List.Subset.trans hrest (List.subset_cons_self _ _))

theorem zenCairoBufferCreate_stage (calls : CairoCalls) (hscene : .scene ∈ held)
    (hheld : ∀ p ∈ b.pointers, p ∉ held) (hfield : ∀ f, .field b f ∉ unset) :
    Triple (Stage (.buffer b :: held) (b.fields ++ unset) K) (zenCairoBufferCreate b calls)
      (Stage held unset K) (Stage held (b.fields ++ unset) K) := by
  refine Triple.onFailure (R := Stage held unset K) ?_ fun s h => h.zenCairoBufferDestroy hheld
  refine Triple.seq (R := Stage (.buffer b :: held) (.field b .surface :: .field b .cr ::
    .field b .pangoLayout :: .field b .wlrBuf :: .field b .sceneBuffer :: unset) K)
    (Triple.ensure (fun _ h _ => ?_) fun _ h _ => ?_) ?_
  · refine h.mono (List.Subset.refl _) fun q hq => ?_
    simp only [CairoBuffer.fields, List.mem_append, List.mem_cons] at hq ⊢
    grind
  · exact h.mono (List.subset_cons_self _ _) (List.subset_append_right _ _)
  · refine (createField_stage hscene (by simp [hfield]) fun q hq => by simp [hq]).seq ?_
    refine (createField_stage hscene (by simp [hfield]) fun q hq => by simp [hq]).seq ?_
    refine (createField_stage hscene (by simp [hfield]) fun q hq => by simp [hq]).seq ?_
    refine (createField_stage hscene (by simp [hfield]) fun q hq => by simp [hq]).seq ?_
    refine (createField_stage hscene (hfield _) (List.Subset.refl _)).mono (fun _ h => h)
      (fun _ h => ?_) fun _ h => h
    exact h.mono (List.subset_cons_self _ _) (List.Subset.refl _)

theorem newBuffer_stage (calls : CairoCalls) (hscene : .scene ∈ held)
    (hheld : ∀ p ∈ b.pointers, p ∉ held) (hunset : ∀ p ∈ b.pointers, p ∉ unset) :
    Triple (Stage held (b.pointers ++ unset) K) (newBuffer b calls) (Stage held unset K)
      (Stage held (b.pointers ++ unset) K) := by
  have hfield : ∀ f, .field b f ∉ unset :=
    fun f => hunset _ (List.mem_append_left _ (b.field_mem_fields f))
  have hbuffer : .buffer b ∈ b.pointers := List.mem_append_right _ List.mem_cons_self
  have hnew : .buffer b ∉ b.fields ++ unset := by
    simpa [CairoBuffer.fields] using hunset _ hbuffer
  have hcreate := create_stage (K := K) calls.calloc hnew
    (Pointer.supported_of_isStandalone held rfl)
  have hperm : ∀ q, q ∈ b.pointers ++ unset ↔ q ∈ .buffer b :: (b.fields ++ unset) := by
    intro q
    simp only [CairoBuffer.pointers, List.mem_append, List.mem_cons]
    tauto
  refine Triple.seq (hcreate.mono (fun _ h => ?_) (fun _ h => h) fun _ h => ?_)
    (Triple.onFailure (zenCairoBufferCreate_stage calls hscene hheld hfield)
      fun s h => h.releaseBuffer (hheld _ hbuffer))
  · exact h.mono (List.Subset.refl _) fun q hq => (hperm q).mpr hq
  · exact h.mono (List.Subset.refl _) fun q hq => (hperm q).mp hq

end Buffers

section Outputs

variable {held unset : List Pointer}
  {K : Option (List (Nat × ZenKeybinding)) → Option Nat → Prop} {s : World}

theorem Stage.drawWallpaper (h : Stage held unset K s) (hK : ∀ ks w w', K ks w → K ks w')
    (ok : Bool) : Stage held unset K (drawWallpaper ok s) := by
  have hrender : Stage held unset K (own (·.renderWallpaper ok) s) := by
    rw [own, Ownership.renderWallpaper]
    split
    · next n hn =>
        split
        · have hstate : s.owned.wallpaperState.isSome = true := by rw [hn]; rfl
          refine ⟨h.balanced.of_eq rfl rfl (fun _ => h.balanced.wallpaper hstate) rfl rfl rfl,
            h.held, h.unset, hK _ _ _ h.state⟩
        · exact h
    · exact h
  rw [Lifecycle.drawWallpaper]
  split
  · exact hrender
  · exact h

theorem Stage.drawOverlay (h : Stage held unset K s) (hscene : .scene ∈ held)
    (hheld : ∀ p ∈ CairoBuffer.pointers .testOverlay, p ∉ held)
    (hunset : ∀ p ∈ CairoBuffer.pointers .testOverlay, p ∉ unset) (calls : CairoCalls) :
    Stage held unset K (drawOverlay calls s) := by
  rw [Lifecycle.drawOverlay]
  split
  · next hguard =>
      simp only [Bool.and_eq_true, Bool.not_eq_true'] at hguard
      have hfields := h.balanced.pointers_eq_none hguard.1.1
      have hnone : Stage held (CairoBuffer.pointers .testOverlay ++ unset) K s := by
        refine ⟨h.balanced, h.held, fun p hp => ?_, h.state⟩
        exact (List.mem_append.mp hp).elim (hfields p) (h.unset p)
      have hnew := (newBuffer_stage (K := K) calls hscene hheld hunset).mono (fun _ hs => hs)
        (fun _ hs => hs) fun _ hs => hs.mono (List.Subset.refl _) (List.subset_append_right _ _)
      exact hnew.always hnone
  · exact h

theorem Stage.arrive (h : Stage held unset K s) (hK : ∀ ks w w', K ks w → K ks w')
    (hscene : .scene ∈ held) (hheld : ∀ p ∈ CairoBuffer.pointers .testOverlay, p ∉ held)
    (hunset : ∀ p ∈ CairoBuffer.pointers .testOverlay, p ∉ unset) (a : Arrival) :
    Stage held unset K (arrive s a) := by
  have hdraw : ∀ (s' : World) (allocs : OutputAllocs), s'.owned = s.owned →
      Stage held unset K
        (Lifecycle.drawOverlay allocs.overlay (Lifecycle.drawWallpaper allocs.wallpaper s')) :=
    fun s' allocs hs' =>
      ((h.of_owned hs').drawWallpaper hK _).drawOverlay hscene hheld hunset _
  rw [Lifecycle.arrive]
  split
  · cases a with
    | output allocs =>
        rw [handleArrival, handleNewOutput]
        split
        · exact h.of_owned rfl
        · exact hdraw _ allocs rfl
    | _ => exact h.of_owned rfl
  · exact h.of_owned rfl

theorem Stage.startEvent (h : Stage held unset K s) (hK : ∀ ks w w', K ks w → K ks w')
    (hscene : .scene ∈ held) (hheld : ∀ p ∈ CairoBuffer.pointers .testOverlay, p ∉ held)
    (hunset : ∀ p ∈ CairoBuffer.pointers .testOverlay, p ∉ unset) (e : StartEvent) :
    Stage held unset K (startEvent s e) := by
  cases e with
  | output allocs => exact h.arrive hK hscene hheld hunset _
  | device type ok => exact h.arrive hK hscene hheld hunset _
  | vanish o => exact h.of_owned rfl

end Outputs

section Creation

variable {held unset : List Pointer}
  {K : Option (List (Nat × ZenKeybinding)) → Option Nat → Prop} {s : World}

def NoRegistry (ks : Option (List (Nat × ZenKeybinding))) (_ : Option Nat) : Prop :=
  ks = none

def Registry (ks : Option (List (Nat × ZenKeybinding))) (_ : Option Nat) : Prop :=
  ks.isSome = true

def AnyState (_ : Option (List (Nat × ZenKeybinding))) (_ : Option Nat) : Prop :=
  True

theorem Stage.anyState (h : Stage held unset K s) : Stage held unset AnyState s :=
  ⟨h.balanced, h.held, h.unset, trivial⟩

theorem Stage.drop (h : Stage held unset K s) : Stage held [] AnyState s :=
  (h.mono (List.Subset.refl _) (List.nil_subset _)).anyState

theorem wire_stage {E : World → Prop} (f : Wiring → Wiring) :
    Triple (Stage held unset K) (update (wire f)) (Stage held unset K) E :=
  Triple.update fun _ h => h.wire f

theorem createGlobal_stage (g : Global) (ok : Bool) :
    Triple (Stage held unset K) (createGlobal g ok) (Stage held unset K) (Stage held unset K) :=
  (Triple.ensureKeeps ok).seq (wire_stage _)

theorem createPlain_stage {p : Pointer} (ok : Bool) (hp : p ∉ unset)
    (halone : p.isStandalone = true) :
    Triple (Stage held (p :: unset) K) (create p ok) (Stage held unset K)
      (Stage held unset K) :=
  (create_stage ok hp (Pointer.supported_of_isStandalone _ halone)).mono (fun _ h => h)
    (fun _ h => h.mono (List.subset_cons_self _ _) (List.Subset.refl _))
    fun _ h => h.mono (List.Subset.refl _) (List.subset_cons_self _ _)

theorem zenXdgInit_stage (ok : Bool) :
    Triple (Stage held unset K) (zenXdgInit ok) (Stage held unset K) (Stage held unset K) :=
  (Triple.ensureStateKeeps _).seq
    ((wire_stage _).seq ((createGlobal_stage _ _).seq (wire_stage _)))

theorem Stage.zenInputDestroy (h : Stage held unset K s) (hcursor : .cursor ∉ held)
    (hmgr : .xcursorMgr ∉ held) :
    Stage held (.cursor :: .xcursorMgr :: unset) K (zenInputDestroy s) := by
  have hrelease : Stage held (.xcursorMgr :: unset) K (own (·.release .xcursorMgr) s) :=
    h.release hmgr (by simp) (by simp)
  exact ((hrelease.release hcursor (by simp) (by simp)).of_owned rfl)

theorem zenInputInit_stage (calls : InputCalls) (hheld : ∀ p ∈ [.cursor, .xcursorMgr], p ∉ held)
    (hunset : ∀ p ∈ [.cursor, .xcursorMgr], p ∉ unset) :
    Triple (Stage held (.cursor :: .xcursorMgr :: unset) K) (zenInputInit calls)
      (Stage held unset K) (Stage held unset K) := by
  refine Triple.onFailure (R := Stage held unset K) ?_ fun s h => ?_
  · refine Triple.seq ((Triple.ensureStateKeeps _).weakenFailure fun _ h => h.forget.forget) ?_
    refine (wire_stage _).seq (Triple.seq ((createGlobal_stage _ _).weakenFailure
      fun _ h => h.forget.forget) ?_)
    refine Triple.seq ((createPlain_stage _ (by simp [hunset]) rfl).weakenFailure
      fun _ h => h.forget) ?_
    refine (wire_stage _).seq ((createPlain_stage _ (hunset _ (by simp)) rfl).seq ?_)
    refine (wire_stage _).seq ((wire_stage _).seq ((wire_stage _).seq ?_))
    exact (wire_stage _).seq (wire_stage _)
  · exact (h.zenInputDestroy (hheld _ (by simp)) (hheld _ (by simp))).forget.forget

theorem zenWallpaperInit_stage (calls : WallpaperCalls) (hK : ∀ ks w w', K ks w → K ks w')
    (hscene : .scene ∈ held) :
    Triple (Stage held unset K) (zenWallpaperInit calls) (Stage held unset K)
      (Stage held unset K) := by
  refine (Triple.ensureKeeps _).seq ((Triple.ensureKeeps _).seq (Triple.update fun s h => ?_))
  exact ⟨h.balanced.of_eq rfl rfl (fun _ => h.held _ hscene) rfl rfl rfl, h.held, h.unset,
    hK _ _ _ h.state⟩

/-- The registry takes over a binding; `trace` says that it has been acquired. -/
theorem Stage.register (h : Stage held unset Registry s) (b : ZenKeybinding)
    {trace : List (Op Resource)}
    (htrace : trace = (if b.customCmd.isSome then [.acquire (.customCmd s.owned.next)] else []) ++
      .acquire (.keybinding s.owned.next) :: s.owned.trace) :
    Stage held unset Registry (own (fun o => { o with
      next := o.next + 1
      trace := trace
      keybindings := o.keybindings.map (· ++ [(o.next, b)]) }) s) := by
  obtain ⟨bs, hbs⟩ := Option.isSome_iff_exists.mp h.state
  have hbindings : (s.owned.keybindings.map (· ++ [(s.owned.next, b)])).getD [] =
      s.owned.bindings ++ [(s.owned.next, b)] := by
    rw [Ownership.bindings, hbs]
    rfl
  refine ⟨h.balanced.append rfl hbindings rfl rfl htrace rfl, h.held, h.unset, ?_⟩
  change (s.owned.keybindings.map _).isSome = true
  rw [hbs]
  rfl

theorem registerBinding_stage (b : BindingAllocs) :
    Triple (Stage held unset Registry) (registerBinding b) (Stage held unset Registry)
      (Stage held unset Registry) := by
  refine (Triple.ensureKeeps _).seq ?_
  split
  · next hcmd =>
      split
      · refine Triple.update fun s h => h.register b.binding ?_
        rw [if_pos hcmd]
        rfl
      · refine Triple.seq (Triple.update fun s h => ?_) fun _ h => h
        exact ⟨h.balanced.giveBack, h.held, h.unset, h.state⟩
  · next hcmd =>
      refine Triple.update fun s h => h.register b.binding ?_
      rw [if_neg hcmd]
      rfl

theorem Stage.zenKeybindsDestroy (h : Stage held unset K s) :
    Stage held unset (fun ks _ => ks.getD [] = []) (zenKeybindsDestroy s) := by
  obtain ⟨hbalanced, hempty⟩ := h.balanced.freeBindings
  refine ⟨hbalanced, fun p hp => ?_, fun p hp => ?_, hempty⟩
  · exact (congrArg Option.isSome (congrFun s.owned.freeBindings_pointers p)).trans (h.held p hp)
  · exact (congrFun s.owned.freeBindings_pointers p).trans (h.unset p hp)

theorem zenKeybindsInit_stage (calloc : Nat → Bool) (config : List BindingAllocs) :
    Triple (Stage held unset NoRegistry) (zenKeybindsInit calloc config)
      (Stage held unset Registry) (Stage held unset AnyState) := by
  have hinit : Triple (Stage held unset NoRegistry)
      (update (own fun o => { o with keybindings := some [] })) (Stage held unset Registry)
      (Stage held unset AnyState) := by
    refine Triple.update fun s h => ⟨?_, h.held, h.unset, rfl⟩
    have hbindings : s.owned.bindings = [] := by
      rw [Ownership.bindings, h.state]
      rfl
    exact h.balanced.of_eq rfl hbindings.symm h.balanced.wallpaper rfl rfl rfl
  have hconfig : Triple (Stage held unset Registry) (each registerBinding config)
      (Stage held unset Registry) (Stage held unset Registry) :=
    Triple.each registerBinding_stage _
  refine hinit.seq (Triple.seq ?_ (Triple.tolerate hconfig))
  exact Triple.onFailure (Triple.each registerBinding_stage _)
    fun s h => h.zenKeybindsDestroy.anyState

theorem zenDbusInit_stage (calls : DbusCalls)
    (hheld : ∀ p ∈ [.bus, .dbusSlot, .dbusEventSource], p ∉ held)
    (hunset : ∀ p ∈ [.bus, .dbusSlot, .dbusEventSource], p ∉ unset) :
    Triple (Stage held (.bus :: .dbusSlot :: .dbusEventSource :: unset) K) (zenDbusInit calls)
      (Stage held unset K) (Stage held unset K) := by
  refine Triple.onFailure (R := Stage held unset K) ?_ fun s h => ?_
  · refine Triple.seq ((createPlain_stage _ (by simp [hunset]) rfl).weakenFailure
      fun _ h => h.forget.forget) ?_
    refine Triple.seq ((createPlain_stage _ (by simp [hunset]) rfl).weakenFailure
      fun _ h => h.forget) ?_
    refine Triple.seq ((Triple.ensureKeeps _).weakenFailure fun _ h => h.forget) ?_
    refine Triple.seq ((Triple.ensureKeeps _).weakenFailure fun _ h => h.forget) ?_
    exact createPlain_stage _ (hunset _ (by simp)) rfl
  · have hplain : ∀ p ∈ [Pointer.dbusEventSource, .dbusSlot, .bus],
        p ∈ [.bus, .dbusSlot, .dbusEventSource] ∧ p.isPlain = true := by decide
    exact (h.releaseAll fun p hp => ⟨hheld p (hplain p hp).1, (hplain p hp).2⟩).mono
      (List.Subset.refl _) (List.subset_append_right _ _)

theorem Stage.setLocked (h : Stage held unset K s) (locked : Bool) :
    Stage held unset K (own (fun o => { o with locked := locked }) s) :=
  ⟨h.balanced.of_eq rfl rfl h.balanced.wallpaper rfl rfl rfl, h.held, h.unset, h.state⟩

theorem Stage.zenLockDestroy (h : Stage held unset K s)
    (hslots : ∀ p ∈ [.idleTimer, .lockSignalSlot], p ∉ held)
    (hbuffer : ∀ p ∈ CairoBuffer.pointers .lockBuffer, p ∉ held) :
    Stage held (CairoBuffer.pointers .lockBuffer ++ (.idleTimer :: .lockSignalSlot :: unset)) K
      (zenLockDestroy s) := by
  have hplain : ∀ p ∈ [Pointer.idleTimer, .lockSignalSlot], p.isPlain = true := by decide
  have hreleased := h.releaseAll fun p hp => ⟨hslots p hp, hplain p hp⟩
  exact (hreleased.freeBuffer hbuffer).setLocked false

theorem zenLockInit_stage (calls : LockCalls)
    (hheld : ∀ p ∈ [.idleTimer, .lockSignalSlot], p ∉ held)
    (hbuffer : ∀ p ∈ CairoBuffer.pointers .lockBuffer, p ∉ held)
    (hunset : ∀ p ∈ [.idleTimer, .lockSignalSlot], p ∉ unset) :
    Triple (Stage held (.idleTimer :: .lockSignalSlot :: unset) K) (zenLockInit calls)
      (Stage held unset K) (Stage held unset K) := by
  refine Triple.onFailure (R := Stage held unset K) ?_ fun s h => ?_
  · refine Triple.seq ((Triple.ensureStateKeeps _).weakenFailure fun _ h => h.forget.forget) ?_
    refine Triple.seq ((createGlobal_stage _ _).weakenFailure fun _ h => h.forget.forget) ?_
    refine (wire_stage _).seq ?_
    refine Triple.seq (Triple.tolerate (createPlain_stage _ (by simp [hunset]) rfl)) ?_
    refine Triple.tolerate (Triple.seq ((Triple.ensureStateKeeps _).weakenFailure
      fun _ h => h.forget) ?_)
    exact createPlain_stage _ (hunset _ (by simp)) rfl
  · refine (h.zenLockDestroy hheld hbuffer).mono (List.Subset.refl _) ?_
    exact List.Subset.trans (List.subset_append_right [.idleTimer, .lockSignalSlot] _)
      (List.subset_append_right _ _)

/-- What the modules of the desktop set, in the order of the creation. -/
def desktopPointers : List Pointer :=
  [.bus, .dbusSlot, .dbusEventSource, .idleTimer, .lockSignalSlot, .shell]

theorem createDesktop_stage (calls : CreateCalls) :
    Triple (Stage [.scene, .backend] (desktopPointers ++ CairoBuffer.pointers .lockBuffer)
        NoRegistry) (createDesktop calls)
      (Stage [.scene, .backend] (CairoBuffer.pointers .lockBuffer) Registry)
      (Stage [.scene, .backend] [] AnyState) := by
  have hoverlay : ∀ {unset K}, Triple (Stage [.scene, .backend] unset K)
      (update (own fun o => { o with shellOverlayTree := true }))
      (Stage [.scene, .backend] unset K) (Stage [.scene, .backend] [] AnyState) :=
    Triple.update fun s h =>
      ⟨h.balanced.of_eq rfl rfl h.balanced.wallpaper rfl rfl rfl, h.held, h.unset, h.state⟩
  have hlayer : ∀ {unset K}, Triple (Stage [.scene, .backend] unset K)
      (zenLayerInit calls.layerShell) (Stage [.scene, .backend] unset K)
      (Stage [.scene, .backend] unset K) :=
    (wire_stage _).seq ((createGlobal_stage _ _).seq (wire_stage _))
  refine Triple.seq ((Triple.ensureKeeps _).weakenFailure fun _ h => h.drop) (hoverlay.seq ?_)
  refine Triple.seq ((zenWallpaperInit_stage _ (fun _ _ _ h => h) (by decide)).weakenFailure
    fun _ h => h.drop) ?_
  refine Triple.seq ((zenKeybindsInit_stage _ _).weakenFailure fun _ h => h.drop) ?_
  refine Triple.seq (hlayer.weakenFailure fun _ h => h.drop) ?_
  refine Triple.seq (Triple.tolerate (zenDbusInit_stage _ (by decide) (by decide))) ?_
  refine Triple.seq ((zenLockInit_stage _ (by decide) (by decide) (by decide)).weakenFailure
    fun _ h => h.drop) ?_
  refine Triple.seq ((createPlain_stage _ (by decide) rfl).weakenFailure fun _ h => h.drop) ?_
  exact (Triple.ensureKeeps _).weakenFailure fun _ h => h.drop

theorem createModules_stage (calls : CreateCalls) :
    Triple (Stage [.scene, .backend] (.cursor :: .xcursorMgr :: (desktopPointers ++
        CairoBuffer.pointers .lockBuffer)) NoRegistry) (createModules calls)
      (Stage [.scene, .backend] (CairoBuffer.pointers .lockBuffer) Registry)
      (Stage [.scene, .backend] [] AnyState) := by
  refine Triple.seq ((zenXdgInit_stage _).weakenFailure fun _ h => h.drop) ?_
  refine Triple.seq ((zenInputInit_stage _ (by decide) (by decide)).weakenFailure
    fun _ h => h.drop) ?_
  exact createDesktop_stage calls

theorem createRest_stage (calls : CreateCalls) (start : List StartEvent) :
    Triple (Stage [.scene, .backend] (.cursor :: .xcursorMgr :: (desktopPointers ++
        CairoBuffer.pointers .lockBuffer)) NoRegistry) (createRest calls start)
      (Stage [.scene, .backend] (CairoBuffer.pointers .lockBuffer) Registry)
      (Stage [.scene, .backend] [] AnyState) := by
  refine (wire_stage _).seq (Triple.seq ?_ (createModules_stage calls))
  refine Triple.seq (Triple.update fun s h => ?_)
    ((Triple.ensureKeeps _).weakenFailure fun _ h => h.drop)
  exact List.foldlRecOn start startEvent h fun s h e _ =>
    h.startEvent (fun _ _ _ h => h) (by decide) (by decide) (by decide) e

/-- Every pointer, in the order in which the creation comes to them. -/
def allPointers : List Pointer :=
  [.wlDisplay, .backend, .renderer, .allocator, .scene, .cursor, .xcursorMgr] ++
    desktopPointers ++ CairoBuffer.pointers .lockBuffer ++ CairoBuffer.pointers .testOverlay

theorem mem_allPointers (p : Pointer) : p ∈ allPointers := by
  cases p with
  | buffer b => cases b <;> decide
  | field b f => cases b <;> cases f <;> decide
  | _ => decide

theorem createCore_stage (calls : CreateCalls) :
    Triple (Stage [] allPointers NoRegistry) (createCore calls)
      (Stage [.scene, .backend] (.cursor :: .xcursorMgr :: (desktopPointers ++
        CairoBuffer.pointers .lockBuffer)) NoRegistry)
      (Stage [] [] AnyState) := by
  have hdrop : ∀ {held unset K s}, Stage held unset K s → Stage [] [] AnyState s :=
    fun h => h.drop.mono (List.nil_subset _) (List.Subset.refl _)
  refine Triple.seq ((createPlain_stage _ (by decide) rfl).weakenFailure fun _ h => hdrop h) ?_
  refine Triple.seq ((create_stage _ (by decide)
    (Pointer.supported_of_isStandalone _ rfl)).weakenFailure fun _ h => hdrop h) ?_
  refine (wire_stage _).seq ?_
  refine Triple.seq ((createPlain_stage _ (by decide) rfl).weakenFailure fun _ h => hdrop h) ?_
  refine Triple.seq ((Triple.ensureKeeps _).weakenFailure fun _ h => hdrop h) ?_
  refine Triple.seq ((createPlain_stage _ (by decide) rfl).weakenFailure fun _ h => hdrop h) ?_
  refine Triple.seq ((create_stage _ (by decide)
    (Pointer.supported_of_isStandalone _ rfl)).weakenFailure fun _ h => hdrop h) ?_
  refine Triple.seq ((createGlobal_stage _ _).weakenFailure fun _ h => hdrop h) ?_
  refine (Triple.ensureKeeps _).mono (fun _ h => h) (fun _ h => ?_) fun _ h => hdrop h
  exact h.mono (List.Subset.refl _) (by decide)

end Creation

section Destruction

variable {unset : List Pointer} {s : World}
  {K : Option (List (Nat × ZenKeybinding)) → Option Nat → Prop}

/-- Neither a binding nor a node of the wallpaper is left. -/
def Settled (ks : Option (List (Nat × ZenKeybinding))) (w : Option Nat) : Prop :=
  ks.getD [] = [] ∧ w = none

theorem Stage.zenWallpaperDestroy (h : Stage [] unset (fun ks _ => ks.getD [] = []) s) :
    Stage [] unset Settled (zenWallpaperDestroy s) := by
  rw [Lifecycle.zenWallpaperDestroy, own]
  split
  · next hnone => exact ⟨h.balanced, h.held, h.unset, h.state, hnone⟩
  · next n hn =>
      have hscene : s.owned.has .scene = true := h.balanced.wallpaper (by rw [hn]; rfl)
      have hmisuses : s.owned.checkScene (0 < n) = s.owned.misuses := by
        rw [Ownership.checkScene, hscene, if_neg (by simp)]
      exact ⟨h.balanced.of_eq rfl rfl (fun _ => hscene) rfl rfl hmisuses, h.held, h.unset,
        h.state, rfl⟩

theorem Stage.destroyDesktop (h : Stage [] unset K s) :
    Stage [] (desktopPointers ++ (CairoBuffer.pointers .lockBuffer ++
      (CairoBuffer.pointers .testOverlay ++ unset))) Settled (destroyDesktop s) := by
  have hheld : ∀ {ps : List Pointer}, ∀ p ∈ ps, p ∉ ([] : List Pointer) := fun _ _ => by simp
  have hshell := (h.freeBuffer (b := .testOverlay) hheld).release
    (p := .shell) (by simp) (by simp) (by simp)
  have hlock := hshell.zenLockDestroy hheld hheld
  have hplain : ∀ p ∈ [Pointer.dbusEventSource, .dbusSlot, .bus], p.isPlain = true := by decide
  have hdbus := hlock.releaseAll fun p hp => ⟨hheld p hp, hplain p hp⟩
  have hlayer := hdbus.wire (·.freeLayerSurfaces)
  refine hlayer.zenKeybindsDestroy.zenWallpaperDestroy.mono (List.Subset.refl _) fun p hp => ?_
  simp only [desktopPointers, List.mem_append, List.mem_cons, List.not_mem_nil, or_false] at hp ⊢
  grind

theorem Stage.destroyCore (h : Stage [] unset Settled s)
    (hnodes : ∀ b, .field b .sceneBuffer ∈ unset) (order : List Obj) :
    Stage [] (.wlDisplay :: .backend :: .allocator :: .renderer :: .scene :: unset) Settled
      (destroyCore order s) := by
  have hclients := h.wireIf .wlDisplay (wlDisplayDestroyClients order)
  have hscene := hclients.release (p := .scene) (by simp) (by simp)
    fun _ => ⟨hnodes, hclients.state.2⟩
  have hplain : ∀ p ∈ [Pointer.allocator, .renderer], p ∉ [] ∧ p.isPlain = true := by decide
  have hbackend := (hscene.releaseAll hplain).wireIf .backend (wlrBackendDestroy order)
  have hdisplay := (hbackend.release (p := .backend) (by simp) (by simp) (by simp)).wireIf
    .wlDisplay wlDisplayDestroy
  exact hdisplay.release (p := .wlDisplay) (by simp) (by simp) (by simp)

theorem Stage.zenCompositorDestroy (h : Stage [] unset K s) (order : List Obj) :
    Stage [] allPointers Settled (zenCompositorDestroy order s) := by
  have hinput := h.destroyDesktop.zenInputDestroy (by simp) (by simp)
  have hxdg := hinput.wire fun w => w.freeToplevels.unlinkIfLinked .newXdgToplevel
  have hnodes : ∀ b : CairoBuffer, Pointer.field b .sceneBuffer ∈
      Pointer.cursor :: .xcursorMgr :: (desktopPointers ++ (CairoBuffer.pointers .lockBuffer ++
        (CairoBuffer.pointers .testOverlay ++ unset))) := by
    intro b
    cases b <;> simp [CairoBuffer.pointers, CairoBuffer.fields]
  refine (hxdg.destroyCore hnodes order).mono (List.Subset.refl _) fun p hp => ?_
  simp only [allPointers, desktopPointers, List.mem_append, List.mem_cons, List.not_mem_nil,
    or_false] at hp ⊢
  grind

end Destruction

section Run

variable {s : World}

/-- The lock buffer is there only while the session is locked. -/
structure Running (s : World) : Prop where
  stage : Stage [.scene, .backend] [] Registry s
  unlocked : s.owned.locked = false → s.owned.has (.buffer .lockBuffer) = false

theorem drawOverlay_locked (calls : CairoCalls) :
    (drawOverlay calls s).owned.locked = s.owned.locked := by
  rw [drawOverlay]
  split
  · have hrelease : ∀ (t : World) p, t.owned.locked = s.owned.locked →
        (own (·.release p) t).owned.locked = s.owned.locked := by
      intro t p ht
      change (t.owned.release p).locked = s.owned.locked
      rw [Ownership.release]
      split <;> exact ht
    exact (newBuffer_keeps (P := fun t => t.owned.locked = s.owned.locked) _ calls
      (fun _ _ h => h) hrelease).always rfl
  · rfl

theorem drawWallpaper_locked (ok : Bool) :
    (drawWallpaper ok s).owned.locked = s.owned.locked := by
  have hrender : ∀ o : Ownership, (o.renderWallpaper ok).locked = o.locked := by
    intro o
    rw [Ownership.renderWallpaper]
    split
    · split <;> rfl
    · rfl
  rw [drawWallpaper]
  split
  · exact hrender s.owned
  · rfl

theorem arrive_locked (a : Arrival) : (arrive s a).owned.locked = s.owned.locked := by
  rw [arrive]
  split
  · cases a with
    | output allocs =>
        rw [handleArrival, handleNewOutput]
        split
        · rfl
        · rw [drawOverlay_locked, drawWallpaper_locked]
          rfl
    | _ => rfl
  · rfl

theorem Running.unset (h : Running s) (hlocked : s.owned.locked = false) :
    Stage [.scene, .backend] (CairoBuffer.pointers .lockBuffer) Registry s :=
  ⟨h.stage.balanced, h.stage.held, h.stage.balanced.pointers_eq_none (h.unlocked hlocked),
    h.stage.state⟩

theorem Stage.running {locked : Bool}
    (h : Stage [.scene, .backend] (if locked then [] else [.buffer .lockBuffer]) Registry s)
    (hlocked : s.owned.locked = locked) : Running s := by
  refine ⟨h.mono (List.Subset.refl _) (List.nil_subset _), fun hfalse => ?_⟩
  have hnone := h.unset (.buffer .lockBuffer) (by simp [← hlocked, hfalse])
  exact congrArg Option.isSome hnone

theorem Running.arrive (h : Running s) (a : Arrival) : Running (arrive s a) := by
  have hstart : Stage [.scene, .backend]
      (if s.owned.locked then [] else [.buffer .lockBuffer]) Registry s := by
    split
    · exact h.stage
    · next hlocked =>
        exact (h.unset (Bool.eq_false_iff.mpr hlocked)).mono (List.Subset.refl _) (by decide)
  refine (hstart.arrive (fun _ _ _ hk => hk) (by decide) (by decide) ?_ a).running (arrive_locked a)
  split <;> decide

theorem Running.of_owned (h : Running s) {s' : World} (hs' : s'.owned = s.owned) : Running s' :=
  ⟨h.stage.of_owned hs', by rw [hs']; exact h.unlocked⟩

theorem Running.zenLockActivate (h : Running s) (calls : CairoCalls) :
    Running (zenLockActivate calls s) := by
  rw [Lifecycle.zenLockActivate]
  split
  · exact h
  · next hlocked =>
      have hnew : Triple (Stage [.scene, .backend] (CairoBuffer.pointers .lockBuffer) Registry)
          (newBuffer .lockBuffer calls) (Stage [.scene, .backend] [] Registry)
          (Stage [.scene, .backend] (CairoBuffer.pointers .lockBuffer) Registry) :=
        newBuffer_stage calls (by decide) (by decide) (by decide)
      have hdone := hnew s (h.unset (Bool.eq_false_iff.mpr hlocked))
      generalize exec (newBuffer .lockBuffer calls) s = result at hdone ⊢
      obtain ⟨ok, s'⟩ := result
      cases ok with
      | true => exact ⟨hdone.setLocked true, fun hfalse => by cases hfalse⟩
      | false =>
          exact ⟨(hdone.setLocked false).mono (List.Subset.refl _) (List.nil_subset _),
            fun _ => congrArg Option.isSome (hdone.unset _ (by decide))⟩

theorem Running.zenLockDeactivate (h : Running s) : Running (zenLockDeactivate s) := by
  rw [Lifecycle.zenLockDeactivate]
  split
  · have hfree := (h.stage.freeBuffer (b := .lockBuffer) (by decide)).setLocked false
    refine ⟨hfree.mono (List.Subset.refl _) (List.nil_subset _), fun _ => ?_⟩
    exact congrArg Option.isSome (hfree.unset _ (by decide))
  · exact h

theorem Running.runStep (h : Running s) (e : RunEvent) : Running (runStep s e) := by
  cases e with
  | arrive a => exact h.arrive a
  | vanish o => exact h.of_owned rfl
  | associate o ok => exact h.of_owned rfl
  | dissociate o => exact h.of_owned rfl
  | lockActivate calls => exact h.zenLockActivate calls
  | lockDeactivate => exact h.zenLockDeactivate
  | key => exact h.of_owned (if_pos h.stage.state)
  | getRunningApps => exact h.of_owned rfl
  | xwaylandInit ok =>
      have hwire : ∀ f, Triple Running (update (wire f)) Running Running := fun f =>
        Triple.update fun _ h => h.of_owned rfl
      have hinit : Triple Running (zenXwaylandInit ok) Running Running :=
        (Triple.ensureStateKeeps _).seq (((Triple.ensureKeeps _).seq (hwire _)).seq
          ((hwire _).seq (hwire _)))
      exact hinit.always h

end Run

section Life

theorem zeroed_stage : Stage [] allPointers NoRegistry zeroed where
  balanced :=
    { accounts := Accounts.nil fun r => by
        cases r <;> simp [Ownership.Holds, Ownership.bindings, zeroed]
      fresh := fun _ _ => rfl
      distinct := List.nodup_nil
      buffers := fun _ _ h => by cases h
      nodes := fun _ _ h => by cases h
      wallpaper := fun h => by cases h
      proper := rfl }
  held _ hp := by cases hp
  unset _ _ := rfl
  state := rfl

theorem createSteps_stage (calls : CreateCalls) (start : List StartEvent) :
    Triple (Stage [] allPointers NoRegistry) (do createCore calls; createRest calls start)
      (Stage [.scene, .backend] (CairoBuffer.pointers .lockBuffer) Registry)
      (Stage [] [] AnyState) :=
  (createCore_stage calls).seq ((createRest_stage calls start).weakenFailure
    fun _ h => h.mono (List.nil_subset _) (List.Subset.refl _))

theorem created_stage (plan : Plan) :
    if plan.created.1 then Running plan.created.2
    else Stage [] allPointers Settled plan.created.2 := by
  have hcreate : Triple (Stage [] allPointers NoRegistry)
      (zenCompositorCreate plan.calls plan.start plan.order)
      (Stage [.scene, .backend] (CairoBuffer.pointers .lockBuffer) Registry)
      (Stage [] allPointers Settled) :=
    Triple.onFailure (createSteps_stage _ _) fun _ h => h.zenCompositorDestroy plan.order
  have h := hcreate zeroed zeroed_stage
  rw [Plan.created]
  split at h
  · next hok =>
      refine (if_pos hok).mpr ⟨h.mono (List.Subset.refl _) (List.nil_subset _), fun _ => ?_⟩
      exact congrArg Option.isSome (h.unset _ (by decide))
  · next hok => exact (if_neg hok).mpr h

theorem ended_running (plan : Plan) (h : plan.created.1 = true) : Running plan.ended := by
  have hcreated := created_stage plan
  rw [if_pos h] at hcreated
  exact List.foldlRecOn plan.events runStep hcreated fun _ hs e _ => hs.runStep e

theorem finish_stage (plan : Plan) : Stage [] allPointers Settled plan.finish := by
  rw [Plan.finish]
  split
  · next hok =>
      have hended : Stage [] [] Registry plan.ended :=
        (ended_running plan hok).stage.mono (List.nil_subset _) (List.Subset.refl _)
      exact hended.zenCompositorDestroy plan.order
  · next hok =>
      have hcreated := created_stage plan
      rwa [if_neg hok] at hcreated

theorem Stage.releasedOnce {s : World} (h : Stage [] allPointers Settled s) (r : Resource) :
    ReleasedOnce s.owned.trace r := by
  refine h.balanced.accounts.settled r fun hr => ?_
  have hbindings : s.owned.bindings = [] := h.state.1
  cases r with
  | pointee p n => cases (h.unset p (mem_allPointers p)).symm.trans hr
  | keybinding n => simp [Ownership.Holds, hbindings] at hr
  | customCmd n => simp [Ownership.Holds, hbindings] at hr

/-- Whatever fails in the creation and whatever happens afterwards, every resource that has
been acquired is released exactly once, and none that has not; no list is used before it is
initialised, and no node is destroyed after its scene. -/
theorem finish_releasedOnce (plan : Plan) :
    (∀ r, ReleasedOnce plan.finish.owned.trace r) ∧ plan.finish.owned.misuses = [] ∧
      .uninitialised ∉ plan.finish.wired.faults :=
  ⟨(finish_stage plan).releasedOnce, (finish_stage plan).balanced.proper,
    (finish_ready plan).clean⟩

end Life

end ZenOS.Lifecycle
