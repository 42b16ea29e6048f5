import ZenOS.Buffers.State
import ZenOS.Library.Runs

/-!
The accounts of the pixel buffers over whole runs.
-/

namespace ZenOS.Buffers

open ZenOS.Library.Programs (exec_pure)
open ZenOS.Library.References ZenOS.Library.Runs

/-- A buffer that holds everything: the producer's and the node's reference. -/
def ZenCairoBuffer.complete : ZenCairoBuffer :=
  { surface := true, cr := true, pangoLayout := true, wlrBuf := true, sceneBuffer := true
    pixels :=
      { surface := .held, context := .held, layout := .held, wrapper := .live true 1
        node := .held, fault := false } }

/-- A drawn wallpaper: its wrapper is never dropped. -/
def ZenWallpaperOutput.drawn : ZenWallpaperOutput :=
  { surface := true, wbuf := true, sceneBuf := true
    pixels :=
      { surface := .held, context := .released, layout := .unused, wrapper := .live true 1
        node := .held, fault := false } }

instance (p : Pixels) : Decidable p.Settled :=
  decidable_of_iff (p.surface ≠ .held ∧ p.context ≠ .held ∧ p.layout ≠ .held ∧
      p.wrapper.isLive = false ∧ p.node ≠ .held ∧ p.fault = false)
    ⟨fun ⟨h₁, h₂, h₃, h₄, h₅, h₆⟩ => ⟨h₁, h₂, h₃, h₄, h₅, h₆⟩,
      fun ⟨h₁, h₂, h₃, h₄, h₅, h₆⟩ => ⟨h₁, h₂, h₃, h₄, h₅, h₆⟩⟩

/-- The structure points to nothing, and what it pointed to is released. -/
def ZenCairoBuffer.Empty (buf : ZenCairoBuffer) : Prop :=
  buf = { ZenCairoBuffer.zeroed with pixels := buf.pixels } ∧ buf.pixels.Settled

instance (buf : ZenCairoBuffer) : Decidable buf.Empty :=
  inferInstanceAs (Decidable (_ ∧ _))

theorem zenCairoBufferCreate_spec : ∀ calls : CreateCalls,
    zenCairoBufferCreate calls = .complete ∨ (zenCairoBufferCreate calls).Empty
  | { surface := false, .. } => .inr (by decide +revert)
  | { surface := true, cr := false, .. } => .inr (by decide +revert)
  | { surface := true, cr := true, pangoLayout := false, .. } => .inr (by decide +revert)
  | { surface := true, cr := true, pangoLayout := true, raw := false, .. } =>
      .inr (by decide +revert)
  | ⟨true, true, true, true, false⟩ => .inr (by decide)
  | ⟨true, true, true, true, true⟩ => .inl (by decide)

theorem zenCairoBufferSubmit_complete :
    zenCairoBufferSubmit .complete = .complete := by
  decide

theorem ZenCairoBuffer.Empty.submit {buf : ZenCairoBuffer} (h : buf.Empty) :
    zenCairoBufferSubmit buf = buf := by
  rw [h.1]
  rfl

theorem ZenCairoBuffer.Empty.destroy {buf : ZenCairoBuffer} (h : buf.Empty) :
    zenCairoBufferDestroy buf = buf := by
  rw [h.1]
  rfl

theorem zenCairoBufferDestroy_complete : (zenCairoBufferDestroy .complete).Empty := by
  decide

def RenderCalls.all (calls : RenderCalls) : Bool :=
  calls.surface && calls.cr && calls.wbuf && calls.sceneBuf

theorem renderOutputInternal_spec : ∀ calls : RenderCalls,
    (calls.all = true ∧ renderOutputInternal calls = (true, .drawn)) ∨
      (calls.all = false ∧ (renderOutputInternal calls).1 = false ∧
        (renderOutputInternal calls).2.pixels.Settled)
  | { surface := false, .. } => .inr (by decide +revert)
  | { surface := true, cr := false, .. } => .inr (by decide +revert)
  | { surface := true, cr := true, wbuf := false, .. } => .inr (by decide +revert)
  | { surface := true, cr := true, wbuf := true, sceneBuf := false, .. } =>
      .inr (by decide +revert)
  | { surface := true, cr := true, wbuf := true, sceneBuf := true, .. } =>
      .inl (by decide +revert)

theorem releaseOutput_drawn :
    (releaseOutput .drawn).pixels.wrapper = .live true 0 ∧
      (releaseOutput .drawn).pixels.fault = true := by
  decide

/-- The final destroy calls, for every structure and for the module. -/
def World.finish (w : World) : World :=
  zenWallpaperDestroy { w with buffers := fun b => zenCairoBufferDestroy (w.buffers b) }

/-- Everything that was ever acquired has been released once, in the right order. -/
structure World.Clean (w : World) : Prop where
  buffers : ∀ b, (w.buffers b).pixels.Settled
  overwritten : ∀ buf ∈ w.overwritten, buf.pixels.Settled
  outputs : ∀ wo ∈ w.outputsGone, wo.pixels.Settled
  images : ∀ image ∈ w.imagesGone, image ≠ .held

/-- If nothing is done any more but the final destroy calls, the accounts are balanced. -/
def World.Balanced (w : World) : Prop :=
  w.finish.Clean

/-- A structure that is created is empty, no image is forgotten by a second initialisation,
and no wallpaper is drawn with success. -/
def KeepsBalance (w : World) : Event → Prop
  | .create b sized _ => sized = true → (w.buffers b).surface = false
  | .wallpaperInit state tree _ =>
      state = true → tree = true → ∀ st ∈ w.wallpaperState, st.srcImage ≠ .held
  | .renderOutput sized calls =>
      (w.wallpaperState.isSome && (w.wallpaperTree && sized && calls.record)) = true →
        calls.all = false
  | _ => True

/-- What a structure, a record and an image can be between two calls. -/
structure World.Whole (w : World) : Prop where
  buffers : ∀ b, w.buffers b = .complete ∨ (w.buffers b).Empty
  outputs : ∀ st ∈ w.wallpaperState, ∀ wo ∈ st.outputs, wo = .drawn
  images : ∀ st ∈ w.wallpaperState, st.srcImage ≠ .released

section World

variable {w : World} {e : Event}

theorem destroy_empty {buf : ZenCairoBuffer} (h : buf = .complete ∨ buf.Empty) :
    (zenCairoBufferDestroy buf).Empty := by
  rcases h with rfl | h
  · exact zenCairoBufferDestroy_complete
  · rw [h.destroy]
    exact h

theorem settled_iff {buf : ZenCairoBuffer} (h : buf = .complete ∨ buf.Empty) :
    buf.pixels.Settled ↔ buf.surface = false := by
  rcases h with rfl | h
  · exact iff_of_false (by decide) (by decide)
  · exact iff_of_true h.2 (congrArg ZenCairoBuffer.surface h.1)

theorem World.Whole.update (h : w.Whole) (b : Nat) {buf : ZenCairoBuffer}
    (hbuf : buf = .complete ∨ buf.Empty) :
    ∀ b', Function.update w.buffers b buf b' = .complete ∨
      (Function.update w.buffers b buf b').Empty := by
  intro b'
  rcases eq_or_ne b' b with rfl | hne
  · rw [Function.update_self]
    exact hbuf
  · rw [Function.update_of_ne hne]
    exact h.buffers b'

theorem World.Whole.wallpaperInit (h : w.Whole) (state tree : Bool) (image : Option Bool) :
    (zenWallpaperInit w state tree image).Whole := by
  cases state with
  | false => exact h
  | true =>
      cases tree with
      | false => exact ⟨h.buffers, h.outputs, h.images⟩
      | true =>
          refine ⟨h.buffers, ?_, ?_⟩
          · rintro st ⟨⟩ wo ⟨⟩
          · rintro st ⟨⟩
            rw [loadedState]
            split <;> rintro ⟨⟩

theorem World.Whole.renderOutput (h : w.Whole) (sized : Bool) (calls : RenderCalls) :
    (zenWallpaperRenderOutput w sized calls).Whole := by
  rw [zenWallpaperRenderOutput]
  split
  · exact h
  · next st hst =>
    split
    · rcases renderOutputInternal_spec calls with ⟨-, hdrawn⟩ | ⟨-, hfailed, -⟩
      · rw [hdrawn]
        refine ⟨h.buffers, ?_, ?_⟩
        · rintro st' ⟨⟩ wo hwo
          rcases List.mem_cons.mp hwo with rfl | hwo
          · rfl
          · exact h.outputs st hst wo hwo
        · rintro st' ⟨⟩
          exact h.images st hst
      · generalize renderOutputInternal calls = result at hfailed ⊢
        obtain ⟨ok, wo⟩ := result
        obtain rfl : ok = false := hfailed
        exact ⟨h.buffers, h.outputs, h.images⟩
    · exact h

theorem World.Whole.step (h : w.Whole) : (step w e).Whole := by
  cases e with
  | create b sized calls =>
      cases sized with
      | true => exact ⟨h.update b (zenCairoBufferCreate_spec calls), h.outputs, h.images⟩
      | false => exact ⟨h.update b (.inr (destroy_empty (h.buffers b))), h.outputs, h.images⟩
  | submit b =>
      refine ⟨h.update b ?_, h.outputs, h.images⟩
      rcases h.buffers b with hfull | hempty
      · rw [hfull]
        exact .inl zenCairoBufferSubmit_complete
      · rw [hempty.submit]
        exact .inr hempty
  | destroy b => exact ⟨h.update b (.inr (destroy_empty (h.buffers b))), h.outputs, h.images⟩
  | wallpaperInit state tree image => exact h.wallpaperInit state tree image
  | renderOutput sized calls => exact h.renderOutput sized calls
  | wallpaperDestroy =>
      change (zenWallpaperDestroy w).Whole
      rw [zenWallpaperDestroy]
      split
      · exact h
      · refine ⟨h.buffers, ?_, ?_⟩
        · rintro st ⟨⟩
        · rintro st ⟨⟩

theorem release_ne_held {c : Cell} (h : c ≠ .released) : c.release.getD c ≠ .held := by
  cases c with
  | released => exact absurd rfl h
  | unused | held => decide

theorem World.Whole.balanced_iff (h : w.Whole) :
    w.Balanced ↔
      (∀ buf ∈ w.overwritten, buf.pixels.Settled) ∧
        (∀ wo ∈ w.outputsGone, wo.pixels.Settled) ∧
        (∀ image ∈ w.imagesGone, image ≠ .held) ∧
        ∀ st ∈ w.wallpaperState, st.outputs = [] := by
  have hbuffers : ∀ b, (zenCairoBufferDestroy (w.buffers b)).pixels.Settled :=
    fun b => (destroy_empty (h.buffers b)).2
  rw [World.Balanced, World.finish, zenWallpaperDestroy]
  cases hst : w.wallpaperState with
  | none =>
      constructor
      · rintro ⟨-, hover, houtputs, himages⟩
        refine ⟨hover, houtputs, himages, ?_⟩
        rintro st ⟨⟩
      · rintro ⟨hover, houtputs, himages, -⟩
        exact ⟨hbuffers, hover, houtputs, himages⟩
  | some st =>
      dsimp only
      constructor
      · rintro ⟨-, hover, houtputs, himages⟩
        refine ⟨hover, fun wo hwo => houtputs wo (List.mem_append_right _ hwo),
          fun image himage => himages image (List.mem_cons_of_mem _ himage), ?_⟩
        rintro st' ⟨⟩
        refine List.eq_nil_iff_forall_not_mem.mpr fun wo hwo => ?_
        have hsettled := houtputs (releaseOutput wo)
          (List.mem_append_left _ (List.mem_map_of_mem hwo))
        rw [h.outputs st hst wo hwo] at hsettled
        have hfault := hsettled.faultless
        rw [releaseOutput_drawn.2] at hfault
        cases hfault
      · rintro ⟨hover, houtputs, himages, hnone⟩
        refine ⟨hbuffers, hover, fun wo hwo => ?_, fun image himage => ?_⟩
        · rw [hnone st rfl] at hwo
          exact houtputs wo hwo
        · rcases List.mem_cons.mp himage with rfl | himage
          · exact release_ne_held (h.images st hst)
          · exact himages image himage

theorem World.Balanced.congr {w' : World} (hw : w.Balanced) (h : w.Whole) (h' : w'.Whole)
    (hover : w'.overwritten = w.overwritten) (houtputs : w'.outputsGone = w.outputsGone)
    (himages : w'.imagesGone = w.imagesGone)
    (hstate : w'.wallpaperState = w.wallpaperState) : w'.Balanced := by
  rw [h'.balanced_iff, hover, houtputs, himages, hstate]
  exact h.balanced_iff.mp hw

theorem balanced_create_iff (hw : w.Balanced) (h : w.Whole) (b : Nat) (sized : Bool)
    (calls : CreateCalls) :
    (step w (.create b sized calls)).Balanced ↔ KeepsBalance w (.create b sized calls) := by
  have hwhole : (step w (.create b sized calls)).Whole := h.step
  cases sized with
  | false => exact iff_of_true (hw.congr h hwhole rfl rfl rfl rfl) (by rintro ⟨⟩)
  | true =>
      obtain ⟨hover, hrest⟩ := h.balanced_iff.mp hw
      rw [hwhole.balanced_iff]
      change (∀ buf ∈ w.buffers b :: w.overwritten, buf.pixels.Settled) ∧ _ ↔
        (true = true → (w.buffers b).surface = false)
      rw [List.forall_mem_cons, settled_iff (h.buffers b)]
      exact ⟨fun hafter _ => hafter.1.1, fun hempty => ⟨⟨hempty rfl, hover⟩, hrest⟩⟩

theorem balanced_wallpaperInit_iff (hw : w.Balanced) (h : w.Whole) (state tree : Bool)
    (image : Option Bool) :
    (step w (.wallpaperInit state tree image)).Balanced ↔
      KeepsBalance w (.wallpaperInit state tree image) := by
  have hwhole : (step w (.wallpaperInit state tree image)).Whole := h.step
  cases state with
  | false => exact iff_of_true hw (by rintro ⟨⟩)
  | true =>
      cases tree with
      | false => exact iff_of_true (hw.congr h hwhole rfl rfl rfl rfl) (by rintro _ ⟨⟩)
      | true =>
          obtain ⟨hover, houtputs, himages, hnone⟩ := h.balanced_iff.mp hw
          have hgone : w.wallpaperState.elim [] (·.outputs) = [] := by
            cases hst : w.wallpaperState with
            | none => rfl
            | some st => exact hnone st hst
          rw [hwhole.balanced_iff]
          change _ ∧ (∀ wo ∈ w.wallpaperState.elim [] (·.outputs) ++ w.outputsGone, _) ∧
            (∀ image ∈ (w.wallpaperState.map (·.srcImage)).toList ++ w.imagesGone, _) ∧ _ ↔
            (true = true → true = true → ∀ st ∈ w.wallpaperState, st.srcImage ≠ .held)
          rw [hgone, List.nil_append]
          constructor
          · rintro ⟨-, -, hkept, -⟩ - - st hst
            refine hkept st.srcImage (List.mem_append_left _ ?_)
            rw [Option.mem_toList]
            exact Option.mem_map_of_mem (·.srcImage) hst
          · intro hkept
            refine ⟨hover, houtputs, fun image himage => ?_, ?_⟩
            · rcases List.mem_append.mp himage with himage | himage
              · obtain ⟨st, hst, rfl⟩ := Option.mem_map.mp (Option.mem_toList.mp himage)
                exact hkept rfl rfl st hst
              · exact himages image himage
            · rintro st ⟨⟩
              rfl

theorem balanced_renderOutput_iff (hw : w.Balanced) (h : w.Whole) (sized : Bool)
    (calls : RenderCalls) :
    (step w (.renderOutput sized calls)).Balanced ↔
      KeepsBalance w (.renderOutput sized calls) := by
  have hwhole : (step w (.renderOutput sized calls)).Whole := h.step
  obtain ⟨hover, houtputs, himages, hnone⟩ := h.balanced_iff.mp hw
  revert hwhole
  change (zenWallpaperRenderOutput w sized calls).Whole → _
  intro hwhole
  change (zenWallpaperRenderOutput w sized calls).Balanced ↔ ((w.wallpaperState.isSome &&
    (w.wallpaperTree && sized && calls.record)) = true → calls.all = false)
  cases hst : w.wallpaperState with
  | none =>
      have hsame : zenWallpaperRenderOutput w sized calls = w := by
        rw [zenWallpaperRenderOutput, hst]
      rw [hsame]
      exact iff_of_true hw (by rintro ⟨⟩)
  | some st =>
      rw [Option.isSome_some, Bool.true_and]
      cases hdraw : w.wallpaperTree && sized && calls.record with
      | false =>
          have hsame : zenWallpaperRenderOutput w sized calls = w := by
            rw [zenWallpaperRenderOutput, hst]
            dsimp only
            rw [hdraw, if_neg Bool.false_ne_true]
          rw [hsame]
          exact iff_of_true hw (by rintro ⟨⟩)
      | true =>
          rw [hwhole.balanced_iff, zenWallpaperRenderOutput, hst]
          dsimp only
          rw [hdraw, if_pos rfl]
          rcases renderOutputInternal_spec calls with ⟨hall, hdrawn⟩ | ⟨hall, hfailed, hsettled⟩
          · rw [hdrawn, hall]
            refine iff_of_false ?_ (by simp)
            rintro ⟨-, -, -, hempty⟩
            cases hempty _ rfl
          · refine iff_of_true ?_ fun _ => hall
            generalize renderOutputInternal calls = result at hfailed hsettled ⊢
            obtain ⟨ok, wo⟩ := result
            obtain rfl : ok = false := hfailed
            refine ⟨hover, List.forall_mem_cons.mpr ⟨hsettled, houtputs⟩, himages, ?_⟩
            rintro st' ⟨⟩
            exact hnone st hst

theorem World.Balanced.wallpaperDestroy (hw : w.Balanced) (h : w.Whole) :
    (zenWallpaperDestroy w).Balanced := by
  have hwhole : (zenWallpaperDestroy w).Whole := World.Whole.step (e := .wallpaperDestroy) h
  obtain ⟨hover, houtputs, himages, hnone⟩ := h.balanced_iff.mp hw
  rw [hwhole.balanced_iff, zenWallpaperDestroy]
  cases hst : w.wallpaperState with
  | none =>
      refine ⟨hover, houtputs, himages, ?_⟩
      rw [hst]
      rintro st ⟨⟩
  | some st =>
      dsimp only
      rw [hnone st hst]
      refine ⟨hover, houtputs, fun image himage => ?_, ?_⟩
      · rcases List.mem_cons.mp himage with rfl | himage
        · exact release_ne_held (h.images st hst)
        · exact himages image himage
      · rintro st' ⟨⟩

/-- A step keeps the accounts balanced exactly as `KeepsBalance` says. -/
theorem balanced_step_iff (hw : w.Balanced) (h : w.Whole) (e : Event) :
    (step w e).Balanced ↔ KeepsBalance w e := by
  have hwhole : (step w e).Whole := h.step
  cases e with
  | create b sized calls => exact balanced_create_iff hw h b sized calls
  | submit b => exact iff_of_true (hw.congr h hwhole rfl rfl rfl rfl) trivial
  | destroy b => exact iff_of_true (hw.congr h hwhole rfl rfl rfl rfl) trivial
  | wallpaperInit state tree image => exact balanced_wallpaperInit_iff hw h state tree image
  | renderOutput sized calls => exact balanced_renderOutput_iff hw h sized calls
  | wallpaperDestroy => exact iff_of_true (hw.wallpaperDestroy h) trivial

end World

theorem initial_whole : World.initial.Whole := by
  have hzeroed : ZenCairoBuffer.zeroed.Empty := by decide
  refine ⟨fun _ => .inr hzeroed, ?_, ?_⟩
  · rintro st ⟨⟩
  · rintro st ⟨⟩

theorem initial_balanced : World.initial.Balanced := by
  rw [initial_whole.balanced_iff]
  refine ⟨?_, ?_, ?_, ?_⟩
  · rintro buf ⟨⟩
  · rintro wo ⟨⟩
  · rintro image ⟨⟩
  · rintro st ⟨⟩

/-- However far a run goes, the final destroy calls balance the accounts, exactly when every
step of the run meets `KeepsBalance`. -/
theorem run_balanced_iff (events : List Event) :
    Along step (fun w e => (step w e).Balanced) World.initial events ↔
      Along step KeepsBalance World.initial events :=
  along_iff_along (P := fun _ _ => True) (I := fun (w : World) => w.Whole ∧ w.Balanced)
    (fun _ _ h _ hafter => ⟨h.1.step, hafter⟩)
    (fun _ e h _ => balanced_step_iff h.2 h.1 e) (along_true _ _)
    ⟨initial_whole, initial_balanced⟩

/-- The calls that end a run: each structure in use is destroyed, and the module. -/
def finalCalls (bs : List Nat) : List Event :=
  bs.map Event.destroy ++ [.wallpaperDestroy]

theorem zenCairoBufferDestroy_idem (buf : ZenCairoBuffer) :
    zenCairoBufferDestroy (zenCairoBufferDestroy buf) = zenCairoBufferDestroy buf := by
  obtain ⟨surface, cr, pangoLayout, wlrBuf, sceneBuffer, pixels⟩ := buf
  cases surface <;> cases cr <;> cases pangoLayout <;> cases wlrBuf <;> cases sceneBuffer <;> rfl

/-- `finish` is what the final calls do. -/
theorem exec_finalCalls (bs : List Nat) (w : World)
    (hothers : ∀ b, b ∉ bs → zenCairoBufferDestroy (w.buffers b) = w.buffers b) :
    exec step w (finalCalls bs) = w.finish := by
  induction bs generalizing w with
  | nil =>
      have hsame : (fun b => zenCairoBufferDestroy (w.buffers b)) = w.buffers :=
        funext fun b => hothers b List.not_mem_nil
      change zenWallpaperDestroy w = w.finish
      rw [World.finish, hsame]
  | cons b bs ih =>
      change exec step (step w (.destroy b)) (finalCalls bs) = w.finish
      rw [ih]
      · unfold World.finish
        refine congrArg (fun buffers => zenWallpaperDestroy { w with buffers }) ?_
        funext b'
        change zenCairoBufferDestroy (Function.update w.buffers b
          (zenCairoBufferDestroy (w.buffers b)) b') = _
        rcases eq_or_ne b' b with rfl | hne
        · rw [Function.update_self, zenCairoBufferDestroy_idem]
        · rw [Function.update_of_ne hne]
      · intro b' hb'
        change zenCairoBufferDestroy (Function.update w.buffers b
          (zenCairoBufferDestroy (w.buffers b)) b') = Function.update w.buffers b
          (zenCairoBufferDestroy (w.buffers b)) b'
        rcases eq_or_ne b' b with rfl | hne
        · rw [Function.update_self, zenCairoBufferDestroy_idem]
        · rw [Function.update_of_ne hne]
          exact hothers b' (by simp [hne, hb'])

/-- A wallpaper is drawn for one output, and everything is destroyed: the wrapper stays
allocated, and its pixels are gone. -/
theorem wallpaper_wrapper_is_left :
    let calls : RenderCalls :=
      { record := true, surface := true, cr := true, wbuf := true, sceneBuf := true }
    let events : List Event := [.wallpaperInit true true none, .renderOutput true calls]
    (exec step World.initial (events ++ finalCalls [])).outputsGone.map (·.pixels) =
        [{ surface := .released, context := .released, layout := .unused
           wrapper := .live true 0, node := .released, fault := true }] ∧
      ¬ Along step (fun w e => (step w e).Balanced) World.initial events := by
  intro calls events
  refine ⟨by decide, ?_⟩
  rintro ⟨-, hlast, -⟩
  have hsettled := hlast.outputs (releaseOutput .drawn) (by decide)
  have hfault := hsettled.faultless
  rw [releaseOutput_drawn.2] at hfault
  cases hfault

end ZenOS.Buffers
