import ZenOS.Compositor.LockScreen
import ZenOS.Library.Runs
import ZenOS.Library.Stacking
import Mathlib.Logic.Relation

/-!
The place of the lock buffer in the scene.  The buffer is a child of the overlay
tree, and toplevels and wallpapers are painted after that tree.
-/

namespace ZenOS.Compositor

open ZenOS.Library.Runs ZenOS.Library.Stacking

/-- What a lock screen has to hide: windows, layer surfaces and wallpapers. -/
def SceneNode.Covers : SceneNode → Prop
  | .toplevel _ | .layerSurface _ | .wallpaper _ => True
  | _ => False

instance : DecidablePred SceneNode.Covers
  | .toplevel _ | .layerSurface _ | .wallpaper _ => isTrue trivial
  | .root | .background | .surfaceBuffer _ | .shellOverlayTree | .testOverlay | .lockBuffer
  | .wallpaperTree _ => isFalse id

/-- The lock buffer is painted, and after it no window, layer surface or wallpaper. -/
def LockOnTop (s : ZenCompositor) : Prop :=
  OnTop SceneNode.Covers .lockBuffer s.scene.paintOrder

instance (s : ZenCompositor) : Decidable (LockOnTop s) :=
  inferInstanceAs (Decidable (OnTop _ _ _))

/-- The scene has no toplevel, and no wallpaper in any of its wallpaper trees. -/
def Scene.Bare (sc : Scene) : Prop :=
  (∀ t, SceneNode.toplevel t ∉ sc.root) ∧
    ∀ n, SceneNode.wallpaperTree n ∈ sc.root → sc.wallpaper n = []

/-- `zen_wallpaper_render_output` adds a wallpaper for the output. -/
def rendersWallpaper (s : ZenCompositor) (o : Output) (ok : Bool) : Bool :=
  s.wallpaperState.isSome && s.wallpaperTree.isSome &&
    (0 < o.width && 0 < o.height && ok)

/-- The event adds a toplevel, a layer surface or a wallpaper to the scene. -/
def addsCover (s : ZenCompositor) : Event → Bool
  | .newToplevel _ _ ok | .newLayerSurface _ _ ok => ok
  | .newOutput o _ allocs => allocs.output && rendersWallpaper s o allocs.wallpaper
  | _ => false

/-- The screen is locked over a bare scene only, and while it is locked nothing is
added that it would have to hide. -/
def Undisturbed (s : ZenCompositor) (e : Event) : Prop :=
  (Locks s e → s.scene.Bare) ∧ (s.lock.locked = true → addsCover s e = false)

/-- The children of the root: background and overlay tree, and before them toplevels
and wallpaper trees in any order. -/
structure Scene.Layered (sc : Scene) (front : List SceneNode) : Prop where
  root : sc.root = .background :: .shellOverlayTree :: front
  front : ∀ node ∈ front, (∃ t, node = .toplevel t) ∨ ∃ n, node = .wallpaperTree n
  wallpaper : ∀ n, ∀ node ∈ sc.wallpaper n, ∃ m, node = .wallpaper m
  fresh : ∀ n, sc.nextNode ≤ n → sc.wallpaper n = []

/-- The scene of a reachable state; it has a lock buffer exactly while locked. -/
structure Layered (s : ZenCompositor) : Prop where
  scene : ∃ front, s.scene.Layered front
  overlayTree : s.shellOverlayTree = true
  lock : s.lock.Consistent
  lockBuffer : s.scene.overlay.count .lockBuffer = if s.lock.locked then 1 else 0
  tree : ∀ n ∈ s.wallpaperTree,
    n < s.scene.nextNode ∧ SceneNode.wallpaperTree n ∈ s.scene.root

section Layers

variable {sc : Scene} {front : List SceneNode}

theorem Scene.Layered.covers (h : sc.Layered front) {node : SceneNode}
    (hnode : node ∈ front.flatMap sc.painted) : node.Covers := by
  obtain ⟨child, hchild, hpainted⟩ := List.mem_flatMap.mp hnode
  rcases h.front child hchild with ⟨t, rfl⟩ | ⟨n, rfl⟩
  · rw [List.mem_singleton.mp hpainted]
    trivial
  · obtain ⟨m, rfl⟩ := h.wallpaper n node hpainted
    trivial

theorem Scene.Layered.bare_iff (h : sc.Layered front) :
    sc.Bare ↔ front.flatMap sc.painted = [] := by
  rw [Scene.Bare, h.root, List.flatMap_eq_nil_iff]
  constructor
  · rintro ⟨hno, hempty⟩ child hchild
    rcases h.front child hchild with ⟨t, rfl⟩ | ⟨n, rfl⟩
    · exact absurd (by simp [hchild]) (hno t)
    · exact hempty n (by simp [hchild])
  · intro hall
    refine ⟨fun t ht => ?_, fun n hn =>
      hall (.wallpaperTree n) (by simpa using hn)⟩
    have hpainted := hall (.toplevel t) (by simpa using ht)
    simp [Scene.painted] at hpainted

theorem lockOnTop_iff {s : ZenCompositor} (h : Layered s) (hl : s.lock.locked = true) :
    LockOnTop s ↔ OnTop SceneNode.Covers .lockBuffer s.scene.overlay ∧ s.scene.Bare := by
  obtain ⟨front, hfront⟩ := h.scene
  have hmem : SceneNode.lockBuffer ∈ s.scene.overlay := by
    rw [← List.count_pos_iff, h.lockBuffer, hl]
    exact Nat.one_pos
  have hpaint : s.scene.paintOrder =
      [.background] ++ (s.scene.overlay ++ front.flatMap s.scene.painted) := by
    rw [Scene.paintOrder, hfront.root]
    rfl
  rw [LockOnTop, hpaint, OnTop.append_iff_of_notMem (by simp), OnTop.append_iff hmem,
    hfront.bare_iff]
  refine and_congr_right fun _ => ⟨fun hnone => ?_, fun hnil => by simp [hnil]⟩
  exact List.eq_nil_iff_forall_not_mem.mpr fun node hnode => hnone node hnode (hfront.covers hnode)

end Layers

structure Restacked (sc sc' : Scene) : Prop where
  overlay : sc'.overlay = sc.overlay
  wallpaper : sc'.wallpaper = sc.wallpaper
  nextNode : sc'.nextNode = sc.nextNode
  root : ∀ front, sc.root = .background :: .shellOverlayTree :: front →
    ∃ front', sc'.root = .background :: .shellOverlayTree :: front' ∧ front' ⊆ front
  tree : ∀ n, SceneNode.wallpaperTree n ∈ sc.root → SceneNode.wallpaperTree n ∈ sc'.root

namespace Restacked

variable {sc sc' sc'' : Scene}

theorem refl (sc : Scene) : Restacked sc sc :=
  ⟨rfl, rfl, rfl, fun front h => ⟨front, h, List.Subset.refl _⟩, fun _ h => h⟩

theorem trans (h : Restacked sc sc') (h' : Restacked sc' sc'') : Restacked sc sc'' where
  overlay := h'.overlay.trans h.overlay
  wallpaper := h'.wallpaper.trans h.wallpaper
  nextNode := h'.nextNode.trans h.nextNode
  root front hroot := by
    obtain ⟨front', hroot', hsub⟩ := h.root front hroot
    obtain ⟨front'', hroot'', hsub'⟩ := h'.root front' hroot'
    exact ⟨front'', hroot'', List.Subset.trans hsub' hsub⟩
  tree n hn := h'.tree n (h.tree n hn)

theorem destroy (sc : Scene) (t : ToplevelId) :
    Restacked sc (sc.destroy .root (.toplevel t)) where
  overlay := rfl
  wallpaper := rfl
  nextNode := rfl
  root front hroot := by
    refine ⟨front.erase (.toplevel t), ?_, List.erase_subset⟩
    rw [Scene.destroy, Scene.children, Scene.setChildren, hroot]
    rfl
  tree n hn := (List.mem_erase_of_ne (by simp)).mpr hn

theorem raiseToTop (sc : Scene) (t : ToplevelId) :
    Restacked sc (sc.raiseToTop .root (.toplevel t)) := by
  rw [Scene.raiseToTop]
  split
  · next hmem =>
      refine ⟨rfl, rfl, rfl, fun front hroot => ?_, fun n hn => ?_⟩
      · refine ⟨front.erase (.toplevel t) ++ [.toplevel t], ?_, ?_⟩
        · rw [Scene.children, Scene.setChildren, hroot]
          rfl
        · have ht : SceneNode.toplevel t ∈ front := by simpa [Scene.children, hroot] using hmem
          intro node hnode
          rcases List.mem_append.mp hnode with hnode | hnode
          · exact List.mem_of_mem_erase hnode
          · rwa [List.mem_singleton.mp hnode]
      · exact List.mem_append_left _ ((List.mem_erase_of_ne (by simp)).mpr hn)
  · exact .refl sc

theorem layered (h : Restacked sc sc') {front : List SceneNode} (hs : sc.Layered front) :
    ∃ front', sc'.Layered front' := by
  obtain ⟨front', hroot, hsub⟩ := h.root front hs.root
  refine ⟨front', hroot, fun node hnode => hs.front node (hsub hnode), ?_, ?_⟩
  · rw [h.wallpaper]
    exact hs.wallpaper
  · rw [h.wallpaper, h.nextNode]
    exact hs.fresh

theorem bare (h : Restacked sc sc') {front : List SceneNode} (hs : sc.Layered front)
    (hbare : sc.Bare) : sc'.Bare := by
  obtain ⟨front', hroot, hsub⟩ := h.root front hs.root
  have hmem : sc'.root ⊆ sc.root := by
    rw [hroot, hs.root]
    exact List.cons_subset_cons _ (List.cons_subset_cons _ hsub)
  refine ⟨fun t ht => hbare.1 t (hmem ht), fun n hn => ?_⟩
  rw [h.wallpaper]
  exact hbare.2 n (hmem hn)

end Restacked

/-- A toplevel is raised or removed. -/
def RestackStep (sc sc' : Scene) : Prop :=
  ∃ t, sc' = sc.raiseToTop .root (.toplevel t) ∨ sc' = sc.destroy .root (.toplevel t)

/-- What the window handlers do to the scene, new toplevels apart. -/
abbrev Restacks : Scene → Scene → Prop :=
  Relation.ReflTransGen RestackStep

theorem RestackStep.restacked {sc sc' : Scene} (h : RestackStep sc sc') : Restacked sc sc' := by
  obtain ⟨t, rfl | rfl⟩ := h
  · exact .raiseToTop sc t
  · exact .destroy sc t

theorem Restacks.restacked {sc sc' : Scene} (h : Restacks sc sc') : Restacked sc sc' := by
  induction h with
  | refl => exact .refl sc
  | tail _ hstep ih => exact ih.trans hstep.restacked

theorem zenXdgFocusToplevel_scene (s : ZenCompositor) (target : Option ToplevelId) :
    Restacks s.scene (zenXdgFocusToplevel s target).scene := by
  have hdeactivate : (deactivateFocused s).scene = s.scene := by
    rw [deactivateFocused]
    split <;> rfl
  have hactivate : ∀ (s' : ZenCompositor) t,
      Restacks s'.scene (activateToplevel s' t).scene := by
    intro s' t
    have henter : ∀ s'' : ZenCompositor, (enterToplevel s'' t).scene = s''.scene := by
      intro s''
      rw [enterToplevel]
      split
      · rw [wlrSeatKeyboardNotifyEnter_eq]
        split <;> rfl
      · rfl
    rw [activateToplevel]
    dsimp only
    rw [henter]
    exact .single ⟨t, .inl rfl⟩
  rw [zenXdgFocusToplevel]
  split
  · exact .refl
  · cases target with
    | none =>
        change Restacks s.scene (deactivateFocused s).scene
        rw [hdeactivate]
    | some t =>
        have h := hactivate { deactivateFocused s with
          windows := { (deactivateFocused s).windows with focusedToplevel := some t } } t
        rwa [show ({ deactivateFocused s with
          windows := { (deactivateFocused s).windows with focusedToplevel := some t } } :
            ZenCompositor).scene = s.scene from hdeactivate] at h

/-! What does not touch the scene at all. -/

@[simp] theorem wlrSeatSetKeyboard_scene (s : ZenCompositor) (k : KeyboardId) :
    (wlrSeatSetKeyboard s k).scene = s.scene := by
  rw [wlrSeatSetKeyboard]
  split <;> rfl

theorem newKeyboard_scene (s : ZenCompositor) (k : KeyboardId) (ok : Bool) :
    (handle s (.newKeyboard k ok)).scene = s.scene := by
  cases ok with
  | false => rfl
  | true => exact wlrSeatSetKeyboard_scene (wlrKeyboardInit s k) k

theorem modifiers_scene (s : ZenCompositor) (k : KeyboardId) (state : KeyboardModifiers) :
    (handle s (.modifiers k state)).scene = s.scene :=
  wlrSeatSetKeyboard_scene (wlrKeyboardUpdateModifiers s k state) k

@[simp] theorem wlrSeatPointerNotifyEnter_scene (s : ZenCompositor) (surface : SurfaceId)
    (sx sy : ℚ) : (wlrSeatPointerNotifyEnter s surface sx sy).scene = s.scene := by
  rw [wlrSeatPointerNotifyEnter_eq]
  split <;> rfl

@[simp] theorem wlrSeatPointerNotifyMotion_scene (s : ZenCompositor) (sx sy : ℚ) :
    (wlrSeatPointerNotifyMotion s sx sy).scene = s.scene := by
  rw [wlrSeatPointerNotifyMotion_eq]
  split
  · rfl
  · split <;> rfl

theorem handleCursorMotion_scene (s : ZenCompositor) (x y : ℚ) (hit : Option Hit) :
    (handleCursorMotion s x y hit).scene = s.scene := by
  simp only [handleCursorMotion, zenInputProcessCursorMotion]
  rcases s.windows.grabbedToplevel with _ | g
  · dsimp only
    split
    · simp
    · rfl
  · rfl

theorem handleToplevelRequestMove_scene (s : ZenCompositor) (t : ToplevelId) :
    (handleToplevelRequestMove s t).scene = s.scene := by
  rw [handleToplevelRequestMove]
  split <;> rfl

theorem handleToplevelRequestMaximize_scene (s : ZenCompositor) (t : ToplevelId) :
    (handleToplevelRequestMaximize s t).scene = s.scene := by
  rw [handleToplevelRequestMaximize]
  split
  · rfl
  · dsimp only
    split
    · split <;> rfl
    · rfl

theorem handleToplevelRequestFullscreen_scene (s : ZenCompositor) (t : ToplevelId)
    (requested : Option OutputId) :
    (handleToplevelRequestFullscreen s t requested).scene = s.scene := by
  rw [handleToplevelRequestFullscreen]
  split
  · rfl
  · dsimp only
    split
    · rcases requested with _ | o
      · dsimp only
        split <;> rfl
      · rfl
    · rfl

theorem handleCursorButton_scene (s : ZenCompositor) (pressed : Bool) (hit : Option Hit) :
    Restacks s.scene (handleCursorButton s pressed hit).scene := by
  rw [handleCursorButton]
  cases pressed
  · simp only [Bool.not_false, Bool.true_and, Bool.false_eq_true, if_false]
    split <;> exact .refl
  · simp only [Bool.not_true, Bool.false_and, Bool.false_eq_true, if_false, if_true]
    split
    · exact zenXdgFocusToplevel_scene s _
    · exact .refl

theorem handleToplevelUnmap_scene (s : ZenCompositor) (t : ToplevelId) :
    Restacks s.scene (handleToplevelUnmap s t).scene := by
  rw [handleToplevelUnmap]
  dsimp only
  split
  · exact zenXdgFocusToplevel_scene (wlrSceneNodeSetEnabled s t false) _
  · exact .refl

theorem handleToplevelDestroy_scene (s : ZenCompositor) (t : ToplevelId) :
    Restacks s.scene (handleToplevelDestroy s t).scene := by
  rw [handleToplevelDestroy]
  dsimp only
  refine .trans ?_ (.single ⟨t, .inr rfl⟩)
  split
  · split <;> exact zenXdgFocusToplevel_scene s _
  · split <;> exact .refl

/-- An event of `xdg.c` or `input.c` restacks the scene, unless it creates a toplevel. -/
theorem handle_desktop_scene (s : ZenCompositor) {e : Event} (ho : e.owner = .desktop) :
    (addsCover s e = false ∧ Restacks s.scene (handle s e).scene) ∨
      ∃ t, addsCover s e = true ∧
        (handle s e).scene = s.scene.create .root (.toplevel t) := by
  have same : ∀ {sc : Scene}, sc = s.scene → Restacks s.scene sc := by
    rintro sc rfl
    exact .refl
  -- wlroots marks the surface as mapped or unmapped before the handler runs
  have map : ∀ (s' : ZenCompositor) t, s'.scene = s.scene →
      Restacks s.scene (handleToplevelMap s' t).scene := by
    intro s' t hs'
    rw [← hs']
    exact zenXdgFocusToplevel_scene (wlrSceneNodeSetEnabled s' t true) _
  have unmap : ∀ (s' : ZenCompositor) t, s'.scene = s.scene →
      Restacks s.scene (handleToplevelUnmap s' t).scene := by
    intro s' t hs'
    rw [← hs']
    exact handleToplevelUnmap_scene s' t
  cases e with
  | newToplevel t surface ok =>
      cases ok
      · exact .inl ⟨rfl, .refl⟩
      · exact .inr ⟨t, rfl, rfl⟩
  | map t => exact .inl ⟨rfl, map _ t rfl⟩
  | unmap t => exact .inl ⟨rfl, unmap _ t rfl⟩
  | destroy t => exact .inl ⟨rfl, handleToplevelDestroy_scene s t⟩
  | requestMove t => exact .inl ⟨rfl, same (handleToplevelRequestMove_scene s t)⟩
  | requestMaximize t => exact .inl ⟨rfl, same (handleToplevelRequestMaximize_scene s t)⟩
  | requestFullscreen t requested =>
      exact .inl ⟨rfl, same (handleToplevelRequestFullscreen_scene s t requested)⟩
  | focus target => exact .inl ⟨rfl, zenXdgFocusToplevel_scene s target⟩
  | newKeyboard k ok => exact .inl ⟨rfl, same (newKeyboard_scene s k ok)⟩
  | modifiers k state => exact .inl ⟨rfl, same (modifiers_scene s k state)⟩
  | cursorMotion x y hit => exact .inl ⟨rfl, same (handleCursorMotion_scene s x y hit)⟩
  | cursorButton pressed hit => exact .inl ⟨rfl, handleCursorButton_scene s pressed hit⟩
  | commit | requestResize | surfaceDestroy | keyboardDestroy => exact .inl ⟨rfl, .refl⟩
  | _ => cases ho

theorem handleNewLayerSurface_scene (s : ZenCompositor) (l : LayerId) (output : Option OutputId) :
    (handleNewLayerSurface s l output true).scene =
      s.scene.create (overlayParent s) (.layerSurface l) := by
  rw [handleNewLayerSurface, if_pos rfl]
  cases output with
  | none => rfl
  | some o =>
      dsimp only
      split <;> rfl

theorem handle_layers_scene (s : ZenCompositor) {e : Event} (ho : e.owner = .layers) :
    (addsCover s e = false ∧ ((handle s e).scene = s.scene ∨
        ∃ l, (handle s e).scene = s.scene.destroy (overlayParent s) (.layerSurface l))) ∨
      ∃ l, addsCover s e = true ∧
        (handle s e).scene = s.scene.create (overlayParent s) (.layerSurface l) := by
  cases e with
  | newLayerSurface l output ok =>
      cases ok
      · exact .inl ⟨rfl, .inl rfl⟩
      · exact .inr ⟨l, rfl, handleNewLayerSurface_scene s l output⟩
  | layerDestroy l => exact .inl ⟨rfl, .inr ⟨l, rfl⟩⟩
  | layerCommit | layerMap | layerUnmap => exact .inl ⟨rfl, .inl rfl⟩
  | _ => cases ho

theorem zenWallpaperRenderOutput_scene (s : ZenCompositor) (o : Output) (ok : Bool) :
    (rendersWallpaper s o ok = false ∧ zenWallpaperRenderOutput s o ok = s) ∨
      ∃ tree ∈ s.wallpaperTree, rendersWallpaper s o ok = true ∧
        (zenWallpaperRenderOutput s o ok).scene =
          { s.scene.create (.wallpaperTree tree) (.wallpaper s.scene.nextNode) with
            nextNode := s.scene.nextNode + 1 } := by
  rw [zenWallpaperRenderOutput, rendersWallpaper]
  rcases s.wallpaperState with _ | outputs
  · exact .inl ⟨rfl, rfl⟩
  rcases s.wallpaperTree with _ | tree
  · exact .inl ⟨rfl, rfl⟩
  rcases hok : (0 < o.width && 0 < o.height && ok : Bool) with _ | _
  · exact .inl ⟨rfl, if_neg (by simp)⟩
  · exact .inr ⟨tree, rfl, rfl, congrArg ZenCompositor.scene (if_pos rfl)⟩

theorem createTestOverlay_scene (s : ZenCompositor) (o : Output) (ok : Bool) :
    (createTestOverlay s o ok).scene = s.scene ∨
      (createTestOverlay s o ok).scene = s.scene.create .shellOverlayTree .testOverlay := by
  rw [createTestOverlay]
  split
  · exact .inr rfl
  · exact .inl rfl

structure KeepsLayers (sc sc' : Scene) : Prop where
  layered : ∀ front, sc.Layered front → ∃ front', sc'.Layered front'
  lockBuffer : sc'.overlay.count .lockBuffer = sc.overlay.count .lockBuffer
  nextNode : sc.nextNode ≤ sc'.nextNode
  tree : ∀ n, SceneNode.wallpaperTree n ∈ sc.root → SceneNode.wallpaperTree n ∈ sc'.root

/-- Nothing is put above the lock buffer that it would have to hide. -/
structure KeepsOnTop (sc sc' : Scene) : Prop extends KeepsLayers sc sc' where
  overlay : OnTop SceneNode.Covers .lockBuffer sc.overlay →
    OnTop SceneNode.Covers .lockBuffer sc'.overlay
  bare : ∀ front, sc.Layered front → sc.Bare → sc'.Bare

theorem Restacked.keepsOnTop {sc sc' : Scene} (h : Restacked sc sc') :
    KeepsOnTop sc sc' where
  layered front hs := h.layered hs
  lockBuffer := congrArg (List.count _) h.overlay
  nextNode := h.nextNode.ge
  tree := h.tree
  overlay hon := by rwa [h.overlay]
  bare front hs := h.bare hs

section Operations

variable (sc : Scene)

theorem keepsLayers_createToplevel (t : ToplevelId) :
    KeepsLayers sc (sc.create .root (.toplevel t)) where
  layered front h := by
    refine ⟨front ++ [.toplevel t], ?_, fun node hnode => ?_, h.wallpaper, h.fresh⟩
    · rw [Scene.create, Scene.children, Scene.setChildren, h.root]
      rfl
    · rcases List.mem_append.mp hnode with hnode | hnode
      · exact h.front node hnode
      · exact .inl ⟨t, List.mem_singleton.mp hnode⟩
  lockBuffer := rfl
  nextNode := le_rfl
  tree n hn := List.mem_append_left _ hn

theorem keepsLayers_createOverlay {node : SceneNode} (hnode : node ≠ .lockBuffer) :
    KeepsLayers sc (sc.create .shellOverlayTree node) where
  layered front h := ⟨front, h.root, h.front, h.wallpaper, h.fresh⟩
  lockBuffer := by
    change (sc.overlay ++ [node]).count _ = _
    rw [List.count_append, List.count_singleton, if_neg (by simpa using hnode), Nat.add_zero]
  nextNode := le_rfl
  tree _ hn := hn

theorem keepsOnTop_createTestOverlay :
    KeepsOnTop sc (sc.create .shellOverlayTree .testOverlay) where
  toKeepsLayers := keepsLayers_createOverlay sc (by simp)
  overlay hon := by
    refine (OnTop.append_iff hon.1).mpr ⟨hon, fun node hnode => ?_⟩
    rw [List.mem_singleton.mp hnode]
    exact id
  bare _ _ hbare := hbare

theorem keepsOnTop_destroyLayerSurface (l : LayerId) :
    KeepsOnTop sc (sc.destroy .shellOverlayTree (.layerSurface l)) where
  layered front h := ⟨front, h.root, h.front, h.wallpaper, h.fresh⟩
  lockBuffer := List.count_erase_of_ne (by simp) ..
  nextNode := le_rfl
  tree _ hn := hn
  overlay hon := hon.erase (by simp)
  bare _ _ hbare := hbare

theorem keepsLayers_createWallpaper {tree : Nat} (htree : tree < sc.nextNode) :
    KeepsLayers sc { sc.create (.wallpaperTree tree) (.wallpaper sc.nextNode) with
      nextNode := sc.nextNode + 1 } where
  layered front h := by
    refine ⟨front, h.root, h.front, fun n node hnode => ?_, fun n hn => ?_⟩
    · change node ∈ Function.update sc.wallpaper tree _ n at hnode
      rcases eq_or_ne n tree with rfl | hne
      · rw [Function.update_self] at hnode
        rcases List.mem_append.mp hnode with hnode | hnode
        · exact h.wallpaper n node hnode
        · exact ⟨_, List.mem_singleton.mp hnode⟩
      · rw [Function.update_of_ne hne] at hnode
        exact h.wallpaper n node hnode
    · change Function.update sc.wallpaper tree _ n = []
      have hn : sc.nextNode + 1 ≤ n := hn
      rw [Function.update_of_ne (by omega)]
      exact h.fresh n (by omega)
  lockBuffer := rfl
  nextNode := Nat.le_succ _
  tree _ hn := hn

theorem keepsOnTop_createWallpaperTree :
    KeepsOnTop sc { sc.create .root (.wallpaperTree sc.nextNode) with
      nextNode := sc.nextNode + 1 } where
  layered front h := by
    refine ⟨front ++ [.wallpaperTree sc.nextNode], ?_, fun node hnode => ?_, h.wallpaper,
      fun n hn => h.fresh n (Nat.le_of_succ_le hn)⟩
    · change sc.root ++ _ = _
      rw [h.root]
      rfl
    · rcases List.mem_append.mp hnode with hnode | hnode
      · exact h.front node hnode
      · exact .inr ⟨_, List.mem_singleton.mp hnode⟩
  lockBuffer := rfl
  nextNode := Nat.le_succ _
  tree n hn := List.mem_append_left _ hn
  overlay hon := hon
  bare front h hbare := by
    refine ⟨fun t ht => ?_, fun n hn => ?_⟩
    · rcases List.mem_append.mp ht with ht | ht
      · exact hbare.1 t ht
      · simp at ht
    · rcases List.mem_append.mp hn with hn | hn
      · exact hbare.2 n hn
      · obtain rfl : n = sc.nextNode := by simpa using hn
        exact h.fresh _ le_rfl

theorem keepsOnTop_destroyWallpapers (nodes : List Nat) :
    KeepsOnTop sc (sc.destroyWallpapers nodes) where
  layered front h := by
    refine ⟨front, h.root, h.front, fun n node hnode => ?_, fun n hn => ?_⟩
    · exact h.wallpaper n node (List.mem_of_mem_filter hnode)
    · change (sc.wallpaper n).filter _ = []
      rw [h.fresh n hn]
      rfl
  lockBuffer := rfl
  nextNode := le_rfl
  tree _ hn := hn
  overlay hon := hon
  bare front h hbare := by
    refine ⟨hbare.1, fun n hn => ?_⟩
    change (sc.wallpaper n).filter _ = []
    rw [hbare.2 n hn]
    rfl

end Operations

theorem KeepsLayers.trans {sc sc' sc'' : Scene} (h : KeepsLayers sc sc')
    (h' : KeepsLayers sc' sc'') : KeepsLayers sc sc'' where
  layered front hs := by
    obtain ⟨front', hs'⟩ := h.layered front hs
    exact h'.layered front' hs'
  lockBuffer := h'.lockBuffer.trans h.lockBuffer
  nextNode := h.nextNode.trans h'.nextNode
  tree n hn := h'.tree n (h.tree n hn)

theorem KeepsOnTop.refl (sc : Scene) : KeepsOnTop sc sc :=
  (Restacked.refl sc).keepsOnTop

/-- Something that the lock buffer has to hide is put above it. -/
structure Disturbs (sc sc' : Scene) : Prop extends KeepsLayers sc sc' where
  covered : SceneNode.lockBuffer ∈ sc.overlay →
    ¬ (OnTop SceneNode.Covers .lockBuffer sc'.overlay ∧ sc'.Bare)

theorem createTestOverlay_keepsOnTop (s : ZenCompositor) (o : Output) (ok : Bool) :
    KeepsOnTop s.scene (createTestOverlay s o ok).scene := by
  rcases createTestOverlay_scene s o ok with h | h
  · rw [h]
    exact .refl _
  · rw [h]
    exact keepsOnTop_createTestOverlay _

theorem createTestOverlay_bare {s : ZenCompositor} {o : Output} {ok : Bool}
    (h : (createTestOverlay s o ok).scene.Bare) : s.scene.Bare := by
  rcases createTestOverlay_scene s o ok with hscene | hscene
  · rwa [hscene] at h
  · rw [hscene] at h
    exact h

theorem zenWallpaperRenderOutput_disturbs {s : ZenCompositor} {o : Output} {ok : Bool}
    (htree : ∀ n ∈ s.wallpaperTree,
      n < s.scene.nextNode ∧ SceneNode.wallpaperTree n ∈ s.scene.root)
    (hok : rendersWallpaper s o ok = true) :
    KeepsLayers s.scene (zenWallpaperRenderOutput s o ok).scene ∧
      ¬ (zenWallpaperRenderOutput s o ok).scene.Bare := by
  rcases zenWallpaperRenderOutput_scene s o ok with ⟨hno, -⟩ | ⟨tree, hmem, -, hscene⟩
  · rw [hok] at hno
    cases hno
  · obtain ⟨hlt, hroot⟩ := htree tree hmem
    rw [hscene]
    refine ⟨keepsLayers_createWallpaper _ hlt, fun hbare => ?_⟩
    have hnil : Function.update s.scene.wallpaper tree
        (s.scene.wallpaper tree ++ [.wallpaper s.scene.nextNode]) tree = [] :=
      hbare.2 tree hroot
    rw [Function.update_self] at hnil
    exact List.append_ne_nil_of_right_ne_nil _ (List.cons_ne_nil _ _) hnil

theorem renderOutput_scene {s : ZenCompositor}
    (htree : ∀ n ∈ s.wallpaperTree,
      n < s.scene.nextNode ∧ SceneNode.wallpaperTree n ∈ s.scene.root)
    (o : Output) (wallpaperOk overlayOk : Bool) :
    let s' := createTestOverlay (zenWallpaperRenderOutput s o wallpaperOk) o overlayOk
    (rendersWallpaper s o wallpaperOk = false ∧ KeepsOnTop s.scene s'.scene) ∨
      (rendersWallpaper s o wallpaperOk = true ∧ Disturbs s.scene s'.scene) := by
  intro s'
  have hoverlay := createTestOverlay_keepsOnTop (zenWallpaperRenderOutput s o wallpaperOk) o
    overlayOk
  rcases zenWallpaperRenderOutput_scene s o wallpaperOk with ⟨hno, hsame⟩ | ⟨-, -, hyes, -⟩
  · rw [hsame] at hoverlay
    refine .inl ⟨hno, ?_⟩
    change KeepsOnTop s.scene
      (createTestOverlay (zenWallpaperRenderOutput s o wallpaperOk) o overlayOk).scene
    rwa [hsame]
  · obtain ⟨hkeeps, hbare⟩ := zenWallpaperRenderOutput_disturbs htree hyes
    refine .inr ⟨hyes, hkeeps.trans hoverlay.toKeepsLayers, fun _ hon => ?_⟩
    exact hbare (createTestOverlay_bare hon.2)

/-- An event of `main.c` or `wallpaper.c` puts nothing above the lock buffer, unless a
wallpaper is rendered for a new output. -/
theorem handle_outputs_scene {s : ZenCompositor} (h : Layered s) {e : Event}
    (ho : e.owner = .outputs) :
    (addsCover s e = false ∧ KeepsOnTop s.scene (handle s e).scene) ∨
      (addsCover s e = true ∧ Disturbs s.scene (handle s e).scene) := by
  cases e with
  | newOutput o place allocs =>
      obtain ⟨_ | _, wallpaperOk, overlayOk⟩ := allocs
      · exact .inl ⟨rfl, .refl _⟩
      rw [handle, handleNewOutput_eq, if_pos rfl]
      exact renderOutput_scene
        (s := { s with outputLayout := arrange place (s.outputLayout ++ [o]) })
        h.tree o wallpaperOk overlayOk
  | wallpaperInit stateOk treeOk =>
      refine .inl ⟨rfl, ?_⟩
      change KeepsOnTop s.scene (zenWallpaperInit s stateOk treeOk).scene
      rw [zenWallpaperInit]
      split
      · exact .refl _
      · split
        · exact .refl _
        · exact keepsOnTop_createWallpaperTree _
  | wallpaperDestroy =>
      refine .inl ⟨rfl, ?_⟩
      change KeepsOnTop s.scene (zenWallpaperDestroy s).scene
      rw [zenWallpaperDestroy]
      split
      · exact .refl _
      · exact keepsOnTop_destroyWallpapers _ _
  | outputRequestState | outputDestroy => exact .inl ⟨rfl, .refl _⟩
  | _ => cases ho

theorem handle_scene {s : ZenCompositor} (h : Layered s) {e : Event} (ho : e.owner ≠ .lock) :
    (addsCover s e = false ∧ KeepsOnTop s.scene (handle s e).scene) ∨
      (addsCover s e = true ∧ Disturbs s.scene (handle s e).scene) := by
  rcases howner : e.owner with _ | _ | _ | _
  · rcases handle_desktop_scene s howner with ⟨hno, hstack⟩ | ⟨t, hyes, hscene⟩
    · exact .inl ⟨hno, hstack.restacked.keepsOnTop⟩
    · rw [hscene]
      refine .inr ⟨hyes, keepsLayers_createToplevel _ t, fun _ hon => hon.2.1 t ?_⟩
      exact List.mem_append_right _ (List.mem_singleton.mpr rfl)
  · have hparent : overlayParent s = .shellOverlayTree := by
      rw [overlayParent, h.overlayTree, if_pos rfl]
    have hlayers := handle_layers_scene s howner
    rw [hparent] at hlayers
    rcases hlayers with ⟨hno, hsame | ⟨l, hscene⟩⟩ | ⟨l, hyes, hscene⟩
    · rw [hsame]
      exact .inl ⟨hno, .refl _⟩
    · rw [hscene]
      exact .inl ⟨hno, keepsOnTop_destroyLayerSurface _ l⟩
    · rw [hscene]
      refine .inr ⟨hyes, keepsLayers_createOverlay _ (by simp), fun hmem hon => ?_⟩
      exact ((OnTop.append_iff hmem).mp hon.1).2 _ (List.mem_singleton.mpr rfl) trivial
  · exact handle_outputs_scene h howner
  · exact absurd howner ho

section Step

variable {s : ZenCompositor} {e : Event}

theorem overlayParent_eq (h : Layered s) : overlayParent s = .shellOverlayTree := by
  rw [overlayParent, h.overlayTree, if_pos rfl]

theorem Layered.clear (h : Layered s) : Layered { s with calls := [] } :=
  ⟨h.scene, h.overlayTree, h.lock, h.lockBuffer, h.tree⟩

theorem step_scene (h : Layered s) (ho : e.owner ≠ .lock) :
    (addsCover s e = false ∧ KeepsOnTop s.scene (step s e).scene) ∨
      (addsCover s e = true ∧ Disturbs s.scene (step s e).scene) := by
  have hclear : addsCover { s with calls := [] } e = addsCover s e := by
    cases e <;> rfl
  have := handle_scene h.clear ho
  rwa [hclear] at this

theorem step_wallpaperTree :
    (step s e).wallpaperTree = s.wallpaperTree ∨
      ∃ stateOk treeOk, e = .wallpaperInit stateOk treeOk := by
  rcases eq_or_ne e.owner .outputs with ho | ho
  · cases e with
    | newOutput o place allocs => exact .inl (handleNewOutput_wallpaperTree _ o place allocs)
    | wallpaperInit stateOk treeOk => exact .inr ⟨stateOk, treeOk, rfl⟩
    | wallpaperDestroy =>
        refine .inl ?_
        change (zenWallpaperDestroy { s with calls := [] }).wallpaperTree = _
        rw [zenWallpaperDestroy]
        split <;> rfl
    | outputRequestState | outputDestroy => exact .inl rfl
    | _ => cases ho
  · exact .inl ((handle_writes _ e).framed.wallpaperTree ho)

theorem zenWallpaperInit_tree (h : Layered s) (stateOk treeOk : Bool) :
    ∀ n ∈ (zenWallpaperInit s stateOk treeOk).wallpaperTree,
      n < (zenWallpaperInit s stateOk treeOk).scene.nextNode ∧
        SceneNode.wallpaperTree n ∈ (zenWallpaperInit s stateOk treeOk).scene.root := by
  cases stateOk
  · exact h.tree
  cases treeOk
  · intro n hn
    cases hn
  · rintro n ⟨⟩
    exact ⟨Nat.lt_succ_self _, List.mem_append_right _ (List.mem_singleton.mpr rfl)⟩

theorem Layered.of_overlay {s' : ZenCompositor} (h : Layered s) (overlay : List SceneNode)
    (hscene : s'.scene = { s.scene with overlay := overlay })
    (hcount : overlay.count .lockBuffer = if s'.lock.locked then 1 else 0)
    (hlock : s'.lock.Consistent) (htree : s'.wallpaperTree = s.wallpaperTree)
    (hoverlay : s'.shellOverlayTree = true) : Layered s' := by
  obtain ⟨front, hfront⟩ := h.scene
  refine ⟨⟨front, ?_⟩, hoverlay, hlock, ?_, ?_⟩
  · rw [hscene]
    exact ⟨hfront.root, hfront.front, hfront.wallpaper, hfront.fresh⟩
  · rw [hscene]
    exact hcount
  · rw [htree, hscene]
    exact h.tree

/-- The layers are the same after every event, and there is a lock buffer exactly while
the screen is locked. -/
theorem step_layered (h : Layered s) : Layered (step s e) := by
  have hlock : (step s e).lock.Consistent := step_consistent h.lock
  have hoverlay : (step s e).shellOverlayTree = true :=
    (step_shellOverlayTree s).trans h.overlayTree
  rcases eq_or_ne e.owner .lock with ho | ho
  · have htree : (step s e).wallpaperTree = s.wallpaperTree :=
      (handle_writes _ e).framed.wallpaperTree (by rw [ho]; simp)
    have hparent := overlayParent_eq h
    by_cases hlocks : Locks s e
    · obtain ⟨hl, -, hscene⟩ := step_locks hlocks
      rw [hparent] at hscene
      refine h.of_overlay (s.scene.overlay ++ [SceneNode.lockBuffer]) hscene ?_ hlock htree
        hoverlay
      rw [List.count_append, h.lockBuffer, hlocks.1, hl]
      rfl
    · rcases step_of_not_locks h.lock ho hlocks with hsame | hunlocked
      · refine h.of_overlay s.scene.overlay hsame.scene ?_ hlock htree hoverlay
        rw [hsame.locked]
        exact h.lockBuffer
      · have hscene := hunlocked.scene
        rw [hparent] at hscene
        refine h.of_overlay (s.scene.overlay.erase SceneNode.lockBuffer) hscene ?_ hlock htree
          hoverlay
        rw [List.count_erase_self, h.lockBuffer, hunlocked.was_locked, hunlocked.locked]
        rfl
  · have hkeeps : KeepsLayers s.scene (step s e).scene := by
      rcases step_scene h ho with ⟨-, hkeeps⟩ | ⟨-, hdisturbs⟩
      · exact hkeeps.toKeepsLayers
      · exact hdisturbs.toKeepsLayers
    obtain ⟨front, hfront⟩ := h.scene
    refine ⟨hkeeps.layered front hfront, hoverlay, hlock, ?_, ?_⟩
    · rw [hkeeps.lockBuffer, h.lockBuffer, step_lock s ho]
    · rcases step_wallpaperTree (s := s) (e := e) with hsame | ⟨stateOk, treeOk, rfl⟩
      · intro n hn
        rw [hsame] at hn
        exact ⟨(h.tree n hn).1.trans_le hkeeps.nextNode, hkeeps.tree n (h.tree n hn).2⟩
      · exact zenWallpaperInit_tree h.clear stateOk treeOk

theorem step_lockOnTop_iff (h : Layered s) (hon : s.lock.locked = true → LockOnTop s) :
    ((step s e).lock.locked = true → LockOnTop (step s e)) ↔ Undisturbed s e := by
  have h' : Layered (step s e) := step_layered h
  obtain ⟨front, hfront⟩ := h.scene
  rcases eq_or_ne e.owner .lock with ho | ho
  · have hno : addsCover s e = false := by
      cases e <;> first | rfl | cases ho
    by_cases hlocks : Locks s e
    · -- the screen gets locked: the new buffer is the topmost node of the overlay tree
      obtain ⟨hl, -, hscene⟩ := step_locks hlocks
      rw [overlayParent_eq h] at hscene
      have hmem : SceneNode.lockBuffer ∉ s.scene.overlay := by
        rw [← List.count_eq_zero, h.lockBuffer, hlocks.1]
        rfl
      have htop : OnTop SceneNode.Covers .lockBuffer (step s e).scene.overlay := by
        rw [hscene]
        exact (OnTop.append_iff_of_notMem hmem).mpr (.singleton id)
      rw [lockOnTop_iff h' hl, hscene]
      constructor
      · intro hafter
        exact ⟨fun _ => (hafter hl).2, fun _ => hno⟩
      · rintro ⟨hbare, -⟩ -
        exact ⟨hscene ▸ htop, hbare hlocks⟩
    · have hundisturbed : Undisturbed s e :=
        ⟨fun hyes => absurd hyes hlocks, fun _ => hno⟩
      rw [iff_true_right hundisturbed]
      intro hl'
      rcases step_of_not_locks h.lock ho hlocks with hsame | hunlocked
      · rw [LockOnTop, hsame.scene]
        exact hon (hsame.locked ▸ hl')
      · exact absurd (hunlocked.locked.symm.trans hl') (by simp)
  · have hno : ¬ Locks s e := fun hlocks => ho hlocks.owner
    rw [step_lock s ho, Undisturbed]
    refine (imp_congr_right fun hl => ?_).trans
      (and_iff_right fun hlocks => absurd hlocks hno).symm
    rw [lockOnTop_iff h' ((congrArg _ (step_lock s ho)).trans hl)]
    obtain ⟨htop, hbare⟩ := (lockOnTop_iff h hl).mp (hon hl)
    rcases step_scene h ho with ⟨hnone, hkeeps⟩ | ⟨hsome, hdisturbs⟩
    · exact iff_of_true ⟨hkeeps.overlay htop, hkeeps.bare front hfront hbare⟩ hnone
    · exact iff_of_false (hdisturbs.covered htop.1) (by simp [hsome])

end Step

section Runs

variable (outputs : List Output) (bindings : List ZenKeybinding) (idleTimer : Bool)

theorem created_layered : Layered (created outputs bindings idleTimer) where
  scene := by
    refine ⟨[.wallpaperTree 0], rfl, fun node hnode => ?_, fun n node hnode => ?_, fun _ _ => rfl⟩
    · exact .inr ⟨0, List.mem_singleton.mp hnode⟩
    · cases hnode
  overlayTree := rfl
  lock := created_consistent outputs bindings idleTimer
  lockBuffer := rfl
  tree := by
    rintro n ⟨⟩
    exact ⟨Nat.one_pos, by simp [created]⟩

/-- The lock buffer is on top in every locked state of a run exactly when the screen is
only ever locked over a scene without toplevels and wallpapers, and no toplevel, layer
surface or wallpaper is added while it is locked. -/
theorem run_lockOnTop_iff (events : List Event) :
    Along step (fun s e => (step s e).lock.locked = true → LockOnTop (step s e))
        (created outputs bindings idleTimer) events ↔
      Along step Undisturbed (created outputs bindings idleTimer) events := by
  refine along_iff_along (P := fun _ _ => True)
    (I := fun s => Layered s ∧ (s.lock.locked = true → LockOnTop s))
    (fun s e hs _ hon => ⟨step_layered hs.1, hon⟩)
    (fun s e hs _ => step_lockOnTop_iff hs.1 hs.2) (along_true _ _) ?_
  exact ⟨created_layered outputs bindings idleTimer, fun hl => by cases hl⟩

/-- A window that is open when the screen gets locked stays painted above the lock
buffer. -/
theorem window_above_lock :
    let events := showWindow 1 11 ++ [.idleTimeout true]
    Along step Admissible (created [] [] true) events ∧
      Along step Ordered (created [] [] true) events ∧
      ¬ Along step (fun s e => (step s e).lock.locked = true → LockOnTop (step s e))
        (created [] [] true) events := by
  decide

end Runs

end ZenOS.Compositor
