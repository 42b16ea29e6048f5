import ZenOS.Compositor.LockOnTop
import Mathlib.Data.List.Flatten

/-!
The order of the layers on the screen: wallpaper, background and bottom surfaces,
windows, top surfaces, overlay surfaces.  All layer surfaces are children of the overlay
tree, whatever layer they ask for.
-/

namespace ZenOS.Compositor

open ZenOS.Library.Runs ZenOS.Library.Stacking

/-- `enum zwlr_layer_shell_v1_layer` -/
inductive ShellLayer where
  | background
  | bottom
  | top
  | overlay
  deriving DecidableEq

/-- The height of a layer, where wallpapers have height 0 and windows height 2. -/
def ShellLayer.rank : ShellLayer → Nat
  | .background | .bottom => 1
  | .top => 3
  | .overlay => 4

/-- The layer that each layer surface has asked for. -/
abbrev Layers := LayerId → ShellLayer

def SceneNode.rank (layers : Layers) : SceneNode → Option Nat
  | .wallpaper _ => some 0
  | .toplevel _ => some 2
  | .layerSurface l => some (layers l).rank
  | _ => none

@[simp] theorem SceneNode.rank_wallpaper (layers : Layers) (n : Nat) :
    (SceneNode.wallpaper n).rank layers = some 0 :=
  rfl

@[simp] theorem SceneNode.rank_toplevel (layers : Layers) (t : ToplevelId) :
    (SceneNode.toplevel t).rank layers = some 2 :=
  rfl

@[simp] theorem SceneNode.rank_layerSurface (layers : Layers) (l : LayerId) :
    (SceneNode.layerSurface l).rank layers = some (layers l).rank :=
  rfl

/-- An event, with the layer of the surface when it announces a layer surface. -/
structure LayerEvent where
  event : Event
  layer : ShellLayer

def stepLayers (p : ZenCompositor × Layers) (e : LayerEvent) : ZenCompositor × Layers :=
  (step p.1 e.event,
    match e.event with
    | .newLayerSurface l _ _ => Function.update p.2 l e.layer
    | _ => p.2)

theorem exec_stepLayers_fst (p : ZenCompositor × Layers) (events : List LayerEvent) :
    (exec stepLayers p events).1 = exec step p.1 (events.map (·.event)) := by
  induction events generalizing p with
  | nil => rfl
  | cons e events ih => exact ih (stepLayers p e)

/-- No layer is painted above a higher one. -/
def LayersInOrder (p : ZenCompositor × Layers) : Prop :=
  InOrder (SceneNode.rank p.2) p.1.scene.paintOrder

instance (p : ZenCompositor × Layers) : Decidable (LayersInOrder p) :=
  inferInstanceAs (Decidable (InOrder _ _))

/-- What is added to the scene comes in an order in which the top is the right place for
windows, the top of the overlay tree for layer surfaces, and the wallpaper tree for
wallpapers. -/
def ArrivesInOrder (p : ZenCompositor × Layers) (e : LayerEvent) : Prop :=
  let scene := p.1.scene
  match e.event with
  | .newToplevel _ _ ok => ok = true →
      ∀ l, .layerSurface l ∈ scene.paintOrder → (p.2 l).rank ≤ 2
  | .newLayerSurface _ _ ok => ok = true →
      (∀ n, .wallpaper n ∉ scene.paintOrder) ∧
        (∀ t, .toplevel t ∈ scene.paintOrder → e.layer.rank ≤ 2) ∧
        ∀ l, .layerSurface l ∈ scene.paintOrder → (p.2 l).rank ≤ e.layer.rank
  | .newOutput o _ allocs =>
      allocs.output = true → rendersWallpaper p.1 o allocs.wallpaper = true →
        (∀ l, .layerSurface l ∉ scene.paintOrder) ∧
          ∀ tree ∈ p.1.wallpaperTree, ∀ lower upper,
            scene.root = lower ++ .wallpaperTree tree :: upper → ∀ t, .toplevel t ∉ lower
  | _ => True

/-- What the overlay tree holds; it has a node for every layer surface. -/
structure Placed (s : ZenCompositor) : Prop where
  layered : Layered s
  overlay : ∀ node ∈ s.scene.overlay,
    (∃ l, node = .layerSurface l) ∨ node = .testOverlay ∨ node = .lockBuffer
  surfaces : ∀ l, s.scene.overlay.count (.layerSurface l) =
    if (s.layerSurfaces l).isSome then 1 else 0

section PaintOrder

variable {sc : Scene} {front : List SceneNode} {layers : Layers}

theorem Scene.Layered.paintOrder_eq (h : sc.Layered front) :
    sc.paintOrder = .background :: (sc.overlay ++ front.flatMap sc.painted) := by
  rw [Scene.paintOrder, h.root]
  rfl

theorem Scene.Layered.mem_paintOrder (h : sc.Layered front) {node : SceneNode} :
    node ∈ sc.paintOrder ↔
      node = .background ∨ node ∈ sc.overlay ∨ node ∈ front.flatMap sc.painted := by
  rw [h.paintOrder_eq, List.mem_cons, List.mem_append]

theorem Scene.Layered.front_painted (h : sc.Layered front) {node : SceneNode}
    (hnode : node ∈ front.flatMap sc.painted) :
    (∃ t, node = .toplevel t) ∨ ∃ n, node = .wallpaper n := by
  obtain ⟨child, hchild, hpainted⟩ := List.mem_flatMap.mp hnode
  rcases h.front child hchild with ⟨t, rfl⟩ | ⟨n, rfl⟩
  · exact .inl ⟨t, List.mem_singleton.mp hpainted⟩
  · exact .inr (h.wallpaper n node hpainted)

theorem Scene.Layered.layerSurface_mem (h : sc.Layered front) {l : LayerId}
    (hl : .layerSurface l ∈ sc.paintOrder) : .layerSurface l ∈ sc.overlay := by
  rcases h.mem_paintOrder.mp hl with hnode | hover | hfront
  · cases hnode
  · exact hover
  · rcases h.front_painted hfront with ⟨_, hnode⟩ | ⟨_, hnode⟩ <;> cases hnode

theorem Scene.Layered.paintOrder_overlay (h : sc.Layered front) (overlay : List SceneNode) :
    Scene.paintOrder { sc with overlay := overlay } =
      .background :: (overlay ++ front.flatMap sc.painted) := by
  have hlayered : Scene.Layered { sc with overlay := overlay } front :=
    ⟨h.root, h.front, h.wallpaper, h.fresh⟩
  rw [hlayered.paintOrder_eq]
  congr 2
  refine List.flatMap_congr fun child hchild => ?_
  rcases h.front child hchild with ⟨t, rfl⟩ | ⟨n, rfl⟩ <;> rfl

theorem inOrder_createToplevel (t : ToplevelId) :
    InOrder (SceneNode.rank layers) (sc.create .root (.toplevel t)).paintOrder ↔
      InOrder (SceneNode.rank layers) sc.paintOrder ∧
        ∀ node ∈ sc.paintOrder, ∀ x ∈ node.rank layers, x ≤ 2 := by
  have hpaint : (sc.create .root (.toplevel t)).paintOrder = sc.paintOrder ++ [.toplevel t] :=
    List.flatMap_append
  rw [hpaint]
  exact InOrder.append_singleton_iff (SceneNode.rank_toplevel layers t)

theorem inOrder_createUnranked (h : sc.Layered front) {node : SceneNode}
    (hnode : node.rank layers = none) :
    InOrder (SceneNode.rank layers) (sc.create .shellOverlayTree node).paintOrder ↔
      InOrder (SceneNode.rank layers) sc.paintOrder := by
  have hpaint : (sc.create .shellOverlayTree node).paintOrder =
      (.background :: sc.overlay) ++ node :: front.flatMap sc.painted := by
    refine (h.paintOrder_overlay (sc.overlay ++ [node])).trans ?_
    simp
  rw [hpaint, InOrder.insert_iff_of_unranked hnode, List.cons_append, ← h.paintOrder_eq]

theorem inOrder_createLayerSurface (h : sc.Layered front) (l : LayerId) :
    InOrder (SceneNode.rank layers) (sc.create .shellOverlayTree (.layerSurface l)).paintOrder ↔
      InOrder (SceneNode.rank layers) sc.paintOrder ∧
        (∀ node ∈ sc.overlay, ∀ x ∈ node.rank layers, x ≤ (layers l).rank) ∧
        ∀ node ∈ front.flatMap sc.painted, ∀ x ∈ node.rank layers, (layers l).rank ≤ x := by
  have hpaint : (sc.create .shellOverlayTree (.layerSurface l)).paintOrder =
      (.background :: sc.overlay) ++ .layerSurface l :: front.flatMap sc.painted := by
    refine (h.paintOrder_overlay (sc.overlay ++ [.layerSurface l])).trans ?_
    simp
  have hbackground : SceneNode.rank layers .background = none := rfl
  rw [hpaint, InOrder.insert_iff (SceneNode.rank_layerSurface layers l), List.cons_append,
    ← h.paintOrder_eq, List.forall_mem_cons, hbackground]
  simp

theorem inOrder_eraseOverlay (h : sc.Layered front) (node : SceneNode)
    (hin : InOrder (SceneNode.rank layers) sc.paintOrder) :
    InOrder (SceneNode.rank layers) (sc.destroy .shellOverlayTree node).paintOrder := by
  refine hin.sublist ?_
  change (Scene.paintOrder { sc with overlay := sc.overlay.erase node }).Sublist _
  rw [h.paintOrder_overlay, h.paintOrder_eq]
  exact (List.erase_sublist.append_right _).cons_cons _

theorem rank_le_of_toplevel (h : sc.Layered front)
    (hin : InOrder (SceneNode.rank layers) sc.paintOrder) {t : ToplevelId}
    (ht : .toplevel t ∈ front) : ∀ node ∈ sc.paintOrder, ∀ x ∈ node.rank layers, x ≤ 2 := by
  intro node hnode x hx
  have htop : .toplevel t ∈ front.flatMap sc.painted :=
    List.mem_flatMap.mpr ⟨.toplevel t, ht, List.mem_singleton.mpr rfl⟩
  rw [h.paintOrder_eq, ← List.cons_append] at hnode hin
  rcases List.mem_append.mp hnode with hnode | hnode
  · exact hin.le_of_append htop rfl hnode hx
  · rcases h.front_painted hnode with ⟨_, rfl⟩ | ⟨_, rfl⟩ <;> cases hx
    · exact le_rfl
    · exact Nat.zero_le 2

theorem RestackStep.inOrder {sc' : Scene} (hstep : RestackStep sc sc') (h : sc.Layered front)
    (hin : InOrder (SceneNode.rank layers) sc.paintOrder) :
    InOrder (SceneNode.rank layers) sc'.paintOrder := by
  have herase : ∀ t, ((sc.root.erase (.toplevel t)).flatMap sc.painted).Sublist sc.paintOrder :=
    fun t => List.erase_sublist.flatMap _
  obtain ⟨t, rfl | rfl⟩ := hstep
  · rw [Scene.raiseToTop]
    split
    · next hmem =>
        have ht : .toplevel t ∈ front := by simpa [Scene.children, h.root] using hmem
        have hpaint : (sc.setChildren .root
            ((sc.children .root).erase (.toplevel t) ++ [.toplevel t])).paintOrder =
              (sc.root.erase (.toplevel t)).flatMap sc.painted ++ [.toplevel t] :=
          List.flatMap_append
        rw [hpaint, InOrder.append_singleton_iff (SceneNode.rank_toplevel layers t)]
        exact ⟨hin.sublist (herase t), fun node hnode =>
          rank_le_of_toplevel h hin ht node ((herase t).subset hnode)⟩
    · exact hin
  · exact hin.sublist (herase t)

theorem Restacks.inOrder {sc' : Scene} (hstack : Restacks sc sc') (h : sc.Layered front)
    (hin : InOrder (SceneNode.rank layers) sc.paintOrder) :
    InOrder (SceneNode.rank layers) sc'.paintOrder := by
  induction hstack with
  | refl => exact hin
  | tail hsteps hstep ih =>
      obtain ⟨front', h'⟩ := Restacked.layered (Restacks.restacked hsteps) h
      exact hstep.inOrder h' ih

theorem inOrder_createWallpaperTree (h : sc.Layered front) :
    InOrder (SceneNode.rank layers)
        (Scene.paintOrder { sc.create .root (.wallpaperTree sc.nextNode) with
          nextNode := sc.nextNode + 1 }) ↔
      InOrder (SceneNode.rank layers) sc.paintOrder := by
  have hpaint : Scene.paintOrder { sc.create .root (.wallpaperTree sc.nextNode) with
      nextNode := sc.nextNode + 1 } = sc.paintOrder ++ sc.wallpaper sc.nextNode := by
    refine List.flatMap_append.trans ?_
    rw [List.flatMap_cons, List.flatMap_nil, List.append_nil]
    rfl
  rw [hpaint, h.fresh _ le_rfl, List.append_nil]

theorem inOrder_destroyWallpapers (nodes : List Nat)
    (hin : InOrder (SceneNode.rank layers) sc.paintOrder) :
    InOrder (SceneNode.rank layers) (sc.destroyWallpapers nodes).paintOrder := by
  refine hin.sublist (List.Sublist.flatMap_right _ fun child _ => ?_)
  cases child with
  | wallpaperTree n => exact List.filter_sublist
  | _ => exact List.Sublist.refl _

theorem ShellLayer.rank_pos (layer : ShellLayer) : 0 < layer.rank := by
  cases layer <;> decide

theorem Scene.Layered.overlayTree_mem (h : sc.Layered front) {n : Nat}
    {lower upper : List SceneNode} (hroot : sc.root = lower ++ .wallpaperTree n :: upper) :
    .shellOverlayTree ∈ lower := by
  rw [h.root] at hroot
  rcases lower with _ | ⟨_, _ | ⟨_, lower⟩⟩ <;> cases hroot
  exact List.mem_cons_of_mem _ List.mem_cons_self

section Overlay

variable (h : sc.Layered front)
  (hoverlay : ∀ node ∈ sc.overlay,
    (∃ l, node = .layerSurface l) ∨ node = .testOverlay ∨ node = .lockBuffer)

include h hoverlay

theorem bare_below_iff {tree : Nat} (htree : .wallpaperTree tree ∈ sc.root) :
    (∀ lower upper, sc.root = lower ++ .wallpaperTree tree :: upper →
        ∀ node ∈ lower.flatMap sc.painted, ∀ x ∈ node.rank layers, x ≤ 0) ↔
      (∀ l, .layerSurface l ∉ sc.paintOrder) ∧
        ∀ lower upper, sc.root = lower ++ .wallpaperTree tree :: upper →
          ∀ t, .toplevel t ∉ lower := by
  constructor
  · intro hbelow
    refine ⟨fun l hl => ?_, fun lower upper hroot t ht => ?_⟩
    · obtain ⟨lower, upper, hroot⟩ := List.append_of_mem htree
      have hmem : .layerSurface l ∈ lower.flatMap sc.painted :=
        List.mem_flatMap.mpr ⟨_, h.overlayTree_mem hroot, h.layerSurface_mem hl⟩
      have hrank := hbelow lower upper hroot _ hmem _ (SceneNode.rank_layerSurface layers l)
      exact absurd (layers l).rank_pos (by omega)
    · have hmem : .toplevel t ∈ lower.flatMap sc.painted :=
        List.mem_flatMap.mpr ⟨_, ht, List.mem_singleton.mpr rfl⟩
      exact absurd (hbelow lower upper hroot _ hmem _ (SceneNode.rank_toplevel layers t))
        (by decide)
  · rintro ⟨hsurface, htoplevel⟩ lower upper hroot node hnode x hx
    obtain ⟨child, hchild, hpainted⟩ := List.mem_flatMap.mp hnode
    have hmem : child ∈ sc.root := by
      rw [hroot]
      exact List.mem_append_left _ hchild
    rw [h.root, List.mem_cons, List.mem_cons] at hmem
    rcases hmem with rfl | rfl | hfront
    · rw [List.mem_singleton.mp hpainted] at hx
      cases hx
    · have hover : node ∈ sc.overlay := hpainted
      rcases hoverlay node hover with ⟨l, rfl⟩ | rfl | rfl
      · exact absurd (h.mem_paintOrder.mpr (.inr (.inl hover))) (hsurface l)
      · cases hx
      · cases hx
    · rcases h.front child hfront with ⟨t, rfl⟩ | ⟨n, rfl⟩
      · exact absurd hchild (htoplevel lower upper hroot t)
      · obtain ⟨m, rfl⟩ := h.wallpaper n node hpainted
        cases hx
        exact le_rfl

theorem inOrder_createWallpaper {tree : Nat} (htree : .wallpaperTree tree ∈ sc.root) (n : Nat) :
    InOrder (SceneNode.rank layers)
        (Scene.paintOrder { sc.create (.wallpaperTree tree) (.wallpaper n) with
          nextNode := n + 1 }) ↔
      InOrder (SceneNode.rank layers) sc.paintOrder ∧
        (∀ l, .layerSurface l ∉ sc.paintOrder) ∧
          ∀ lower upper, sc.root = lower ++ .wallpaperTree tree :: upper →
            ∀ t, .toplevel t ∉ lower := by
  rw [← bare_below_iff h hoverlay htree]
  refine InOrder.flatMap_insert_iff (f := sc.painted)
    (g := Scene.painted { sc.create (.wallpaperTree tree) (.wallpaper n) with nextNode := n + 1 })
    (b := .wallpaperTree tree) (Function.update_self ..) (fun child hchild => ?_)
    (SceneNode.rank_wallpaper layers n) Nat.zero_le (fun node hnode x hx => ?_) sc.root []
  · cases child with
    | wallpaperTree m =>
        exact Function.update_of_ne (fun hm => hchild (congrArg SceneNode.wallpaperTree hm)) ..
    | _ => rfl
  · obtain ⟨m, rfl⟩ := h.wallpaper tree node hnode
    cases hx
    exact le_rfl

theorem overlay_rank_le_iff (r : Nat) :
    (∀ node ∈ sc.overlay, ∀ x ∈ node.rank layers, x ≤ r) ↔
      ∀ l, .layerSurface l ∈ sc.paintOrder → (layers l).rank ≤ r := by
  constructor
  · intro hle l hl
    exact hle _ (h.layerSurface_mem hl) _ (SceneNode.rank_layerSurface layers l)
  · intro hle node hnode x hx
    rcases hoverlay node hnode with ⟨l, rfl⟩ | rfl | rfl
    · cases hx
      exact hle l (h.mem_paintOrder.mpr (.inr (.inl hnode)))
    · cases hx
    · cases hx

theorem front_rank_ge_iff {r : Nat} (hr : 0 < r) :
    (∀ node ∈ front.flatMap sc.painted, ∀ x ∈ node.rank layers, r ≤ x) ↔
      (∀ n, .wallpaper n ∉ sc.paintOrder) ∧ ∀ t, .toplevel t ∈ sc.paintOrder → r ≤ 2 := by
  have hfront : ∀ node ∈ sc.paintOrder, (∃ t, node = .toplevel t) ∨ (∃ n, node = .wallpaper n) →
      node ∈ front.flatMap sc.painted := by
    intro node hnode hkind
    rcases h.mem_paintOrder.mp hnode with rfl | hover | hfront
    · rcases hkind with ⟨_, hkind⟩ | ⟨_, hkind⟩ <;> cases hkind
    · rcases hoverlay node hover with ⟨_, rfl⟩ | rfl | rfl <;>
        rcases hkind with ⟨_, hkind⟩ | ⟨_, hkind⟩ <;> cases hkind
    · exact hfront
  have hpaint : ∀ node ∈ front.flatMap sc.painted, node ∈ sc.paintOrder :=
    fun node hnode => h.mem_paintOrder.mpr (.inr (.inr hnode))
  constructor
  · intro hge
    refine ⟨fun n hn => ?_, fun t ht => ?_⟩
    · have hzero := hge _ (hfront _ hn (.inr ⟨n, rfl⟩)) _ (SceneNode.rank_wallpaper layers n)
      omega
    · exact hge _ (hfront _ ht (.inl ⟨t, rfl⟩)) _ (SceneNode.rank_toplevel layers t)
  · rintro ⟨hwallpaper, htoplevel⟩ node hnode x hx
    rcases h.front_painted hnode with ⟨t, rfl⟩ | ⟨n, rfl⟩
    · cases hx
      exact htoplevel t (hpaint _ hnode)
    · exact absurd (hpaint _ hnode) (hwallpaper n)

end Overlay

theorem rank_update {l : LayerId} {layer : ShellLayer} {node : SceneNode}
    (hne : node ≠ .layerSurface l) :
    node.rank (Function.update layers l layer) = node.rank layers := by
  cases node with
  | layerSurface l' =>
      have hl : l' ≠ l := fun h => hne (congrArg _ h)
      rw [SceneNode.rank_layerSurface, SceneNode.rank_layerSurface, Function.update_of_ne hl]
  | _ => rfl

end PaintOrder

section Step

variable {s : ZenCompositor} {e : Event} {layers : Layers}

theorem Placed.clear (h : Placed s) : Placed { s with calls := [] } :=
  ⟨h.layered.clear, h.overlay, h.surfaces⟩

theorem step_lock_scene (h : Layered s) (ho : e.owner = .lock) :
    (step s e).scene = s.scene ∨
      (step s e).scene = s.scene.create .shellOverlayTree .lockBuffer ∨
        (step s e).scene = s.scene.destroy .shellOverlayTree .lockBuffer := by
  have hparent := overlayParent_eq h
  by_cases hlocks : Locks s e
  · obtain ⟨-, -, hscene⟩ := step_locks hlocks
    rw [hparent] at hscene
    exact .inr (.inl hscene)
  · rcases step_of_not_locks h.lock ho hlocks with hsame | hunlocked
    · exact .inl hsame.scene
    · have hscene := hunlocked.scene
      rw [hparent] at hscene
      exact .inr (.inr hscene)

theorem step_lock_inOrder (h : Placed s) (ho : e.owner = .lock)
    (hin : InOrder (SceneNode.rank layers) s.scene.paintOrder) :
    InOrder (SceneNode.rank layers) (step s e).scene.paintOrder := by
  obtain ⟨front, hfront⟩ := h.layered.scene
  rcases step_lock_scene h.layered ho with hscene | hscene | hscene <;> rw [hscene]
  · exact hin
  · exact (inOrder_createUnranked hfront rfl).mpr hin
  · exact inOrder_eraseOverlay hfront _ hin

theorem step_desktop_inOrder (h : Placed s) (ho : e.owner = .desktop)
    (hno : addsCover s e = false) (hin : InOrder (SceneNode.rank layers) s.scene.paintOrder) :
    InOrder (SceneNode.rank layers) (step s e).scene.paintOrder := by
  obtain ⟨front, hfront⟩ := h.layered.scene
  rcases handle_desktop_scene { s with calls := [] } ho with ⟨-, hstack⟩ | ⟨t, hyes, -⟩
  · exact Restacks.inOrder hstack hfront hin
  · have hclear : addsCover { s with calls := [] } e = addsCover s e := by
      cases e <;> rfl
    rw [hclear, hno] at hyes
    cases hyes

theorem rank_le_two_iff {nodes : List SceneNode} :
    (∀ node ∈ nodes, ∀ x ∈ node.rank layers, x ≤ 2) ↔
      ∀ l, .layerSurface l ∈ nodes → (layers l).rank ≤ 2 := by
  constructor
  · intro h l hl
    exact h _ hl _ (SceneNode.rank_layerSurface layers l)
  · intro h node hnode x hx
    cases node with
    | layerSurface l =>
        cases hx
        exact h l hnode
    | toplevel t =>
        cases hx
        exact le_rfl
    | wallpaper n =>
        cases hx
        exact Nat.zero_le 2
    | _ => cases hx

theorem step_newToplevel_inOrder (t : ToplevelId) (surface : SurfaceId) :
    InOrder (SceneNode.rank layers) (step s (.newToplevel t surface true)).scene.paintOrder ↔
      InOrder (SceneNode.rank layers) s.scene.paintOrder ∧
        ∀ l, .layerSurface l ∈ s.scene.paintOrder → (layers l).rank ≤ 2 := by
  rw [← rank_le_two_iff]
  exact inOrder_createToplevel t

theorem Placed.layerSurface_notMem (h : Placed s) {l : LayerId}
    (hl : (s.layerSurfaces l).isNone) : .layerSurface l ∉ s.scene.paintOrder := by
  intro hmem
  obtain ⟨front, hfront⟩ := h.layered.scene
  have hcount := List.count_pos_iff.mpr (hfront.layerSurface_mem hmem)
  rw [h.surfaces l, if_neg (by simpa using hl)] at hcount
  exact absurd hcount (lt_irrefl 0)

theorem step_newLayerSurface_inOrder (h : Placed s) {l : LayerId} (output : Option OutputId)
    (layer : ShellLayer) (hl : (s.layerSurfaces l).isNone) :
    InOrder (SceneNode.rank (Function.update layers l layer))
        (step s (.newLayerSurface l output true)).scene.paintOrder ↔
      InOrder (SceneNode.rank layers) s.scene.paintOrder ∧
        (∀ n, .wallpaper n ∉ s.scene.paintOrder) ∧
          (∀ t, .toplevel t ∈ s.scene.paintOrder → layer.rank ≤ 2) ∧
            ∀ l', .layerSurface l' ∈ s.scene.paintOrder → (layers l').rank ≤ layer.rank := by
  obtain ⟨front, hfront⟩ := h.layered.scene
  have hscene : (step s (.newLayerSurface l output true)).scene =
      s.scene.create .shellOverlayTree (.layerSurface l) := by
    refine (handleNewLayerSurface_scene { s with calls := [] } l output).trans ?_
    rw [overlayParent_eq h.layered.clear]
  have hrank : ∀ node ∈ s.scene.paintOrder,
      node.rank (Function.update layers l layer) = node.rank layers := by
    intro node hnode
    refine rank_update ?_
    rintro rfl
    exact h.layerSurface_notMem hl hnode
  have hover : ∀ node ∈ s.scene.overlay,
      node.rank (Function.update layers l layer) = node.rank layers :=
    fun node hnode => hrank node (hfront.mem_paintOrder.mpr (.inr (.inl hnode)))
  have habove : ∀ node ∈ front.flatMap s.scene.painted,
      node.rank (Function.update layers l layer) = node.rank layers :=
    fun node hnode => hrank node (hfront.mem_paintOrder.mpr (.inr (.inr hnode)))
  rw [hscene, inOrder_createLayerSurface hfront, InOrder.congr hrank, Function.update_self,
    forall_rank_congr hover, forall_rank_congr habove, overlay_rank_le_iff hfront h.overlay,
    front_rank_ge_iff hfront h.overlay layer.rank_pos]
  tauto

theorem createTestOverlay_inOrder {front : List SceneNode} (hfront : s.scene.Layered front)
    (o : Output) (ok : Bool) :
    InOrder (SceneNode.rank layers) (createTestOverlay s o ok).scene.paintOrder ↔
      InOrder (SceneNode.rank layers) s.scene.paintOrder := by
  rcases createTestOverlay_scene s o ok with hscene | hscene <;> rw [hscene]
  exact inOrder_createUnranked hfront rfl

theorem renderOutput_inOrder (h : Placed s) (o : Output) (wallpaperOk overlayOk : Bool) :
    InOrder (SceneNode.rank layers)
        (createTestOverlay (zenWallpaperRenderOutput s o wallpaperOk) o
          overlayOk).scene.paintOrder ↔
      InOrder (SceneNode.rank layers) s.scene.paintOrder ∧
        (rendersWallpaper s o wallpaperOk = true →
          (∀ l, .layerSurface l ∉ s.scene.paintOrder) ∧
            ∀ tree ∈ s.wallpaperTree, ∀ lower upper,
              s.scene.root = lower ++ .wallpaperTree tree :: upper → ∀ t, .toplevel t ∉ lower) := by
  obtain ⟨front, hfront⟩ := h.layered.scene
  rcases zenWallpaperRenderOutput_scene s o wallpaperOk with
    ⟨hno, hsame⟩ | ⟨tree, htree, hyes, hscene⟩
  · rw [hsame, createTestOverlay_inOrder hfront, hno]
    simp
  · obtain ⟨hlt, hroot⟩ := h.layered.tree tree htree
    obtain ⟨front', hfront'⟩ := (keepsLayers_createWallpaper s.scene hlt).layered front hfront
    rw [← hscene] at hfront'
    rw [createTestOverlay_inOrder hfront', hscene,
      inOrder_createWallpaper hfront h.overlay hroot]
    have hwallpaperTree : ∀ tree' ∈ s.wallpaperTree, tree' = tree := by
      intro tree' htree'
      rw [htree] at htree'
      exact (Option.some.inj htree').symm
    refine and_congr_right fun _ => ⟨?_, fun hall => ?_⟩
    · rintro ⟨hsurface, htoplevel⟩ -
      refine ⟨hsurface, fun tree' htree' => ?_⟩
      rw [hwallpaperTree tree' htree']
      exact htoplevel
    · exact ⟨(hall hyes).1, (hall hyes).2 tree htree⟩

/-- The other events of `main.c` and `wallpaper.c` keep the order. -/
theorem step_outputs_inOrder (h : Placed s) (ho : e.owner = .outputs)
    (hnew : ∀ o place allocs, e ≠ .newOutput o place allocs)
    (hin : InOrder (SceneNode.rank layers) s.scene.paintOrder) :
    InOrder (SceneNode.rank layers) (step s e).scene.paintOrder := by
  obtain ⟨front, hfront⟩ := h.layered.scene
  cases e with
  | newOutput o place allocs => exact absurd rfl (hnew o place allocs)
  | wallpaperInit stateOk treeOk =>
      cases stateOk
      · exact hin
      · cases treeOk
        · exact hin
        · exact (inOrder_createWallpaperTree hfront).mpr hin
  | wallpaperDestroy =>
      change InOrder _ (zenWallpaperDestroy { s with calls := [] }).scene.paintOrder
      rw [zenWallpaperDestroy]
      split
      · exact hin
      · exact inOrder_destroyWallpapers _ hin
  | outputRequestState | outputDestroy => exact hin
  | _ => cases ho

theorem step_layersInOrder_iff {p : ZenCompositor × Layers} {e : LayerEvent} (h : Placed p.1)
    (hadm : Admissible p.1 e.event) (hin : LayersInOrder p) :
    LayersInOrder (stepLayers p e) ↔ ArrivesInOrder p e := by
  obtain ⟨s, layers⟩ := p
  obtain ⟨event, layer⟩ := e
  cases event with
  | newToplevel t surface ok =>
      cases ok with
      | false => exact iff_of_true hin fun hok => by cases hok
      | true =>
          refine (step_newToplevel_inOrder t surface).trans ((and_iff_right hin).trans ?_)
          exact ⟨fun hle _ => hle, fun hle => hle rfl⟩
  | newLayerSurface l output ok =>
      cases ok with
      | false =>
          refine iff_of_true ?_ fun hok => by cases hok
          refine (InOrder.congr fun node hnode => rank_update ?_).mpr hin
          rintro rfl
          exact h.layerSurface_notMem hadm hnode
      | true =>
          refine (step_newLayerSurface_inOrder h output layer hadm).trans
            ((and_iff_right hin).trans ?_)
          exact ⟨fun hle _ => hle, fun hle => hle rfl⟩
  | layerDestroy l =>
      refine iff_of_true ?_ trivial
      obtain ⟨front, hfront⟩ := h.layered.scene
      change InOrder _ (s.scene.destroy (overlayParent { s with calls := [] }) _).paintOrder
      rw [overlayParent_eq h.layered.clear]
      exact inOrder_eraseOverlay hfront _ hin
  | layerCommit | layerMap | layerUnmap => exact iff_of_true hin trivial
  | newOutput o place allocs =>
      obtain ⟨_ | _, wallpaperOk, overlayOk⟩ := allocs
      · exact iff_of_true hin fun hok => by cases hok
      · change InOrder _ (handleNewOutput { s with calls := [] } o place _).scene.paintOrder ↔ _
        rw [handleNewOutput_eq, if_pos rfl]
        have hplaced : Placed { s with
            calls := [], outputLayout := arrange place (s.outputLayout ++ [o]) } :=
          ⟨⟨h.layered.scene, h.layered.overlayTree, h.layered.lock, h.layered.lockBuffer,
            h.layered.tree⟩, h.overlay, h.surfaces⟩
        refine (renderOutput_inOrder hplaced o wallpaperOk overlayOk).trans
          ((and_iff_right hin).trans ?_)
        exact ⟨fun hall _ => hall, fun hall => hall rfl⟩
  | wallpaperInit | wallpaperDestroy | outputRequestState | outputDestroy =>
      exact iff_of_true (step_outputs_inOrder h rfl (by simp) hin) trivial
  | key | idleTimeout | lockSignal | newLock =>
      exact iff_of_true (step_lock_inOrder h rfl hin) trivial
  | _ => exact iff_of_true (step_desktop_inOrder h rfl rfl hin) trivial

/-! Where the nodes of the overlay tree come from. -/

theorem createTestOverlay_overlay (s : ZenCompositor) (o : Output) (ok : Bool) :
    (createTestOverlay s o ok).scene.overlay = s.scene.overlay ∨
      (createTestOverlay s o ok).scene.overlay = s.scene.overlay ++ [.testOverlay] := by
  rcases createTestOverlay_scene s o ok with hscene | hscene <;> rw [hscene]
  · exact .inl rfl
  · exact .inr rfl

theorem handleNewOutput_overlay (s : ZenCompositor) (o : Output) (place : OutputId → Int × Int)
    (allocs : OutputAllocs) :
    (handleNewOutput s o place allocs).scene.overlay = s.scene.overlay ∨
      (handleNewOutput s o place allocs).scene.overlay = s.scene.overlay ++ [.testOverlay] := by
  rw [handleNewOutput_eq]
  split
  · have hrender : ∀ s' : ZenCompositor,
        (zenWallpaperRenderOutput s' o allocs.wallpaper).scene.overlay = s'.scene.overlay := by
      intro s'
      rcases zenWallpaperRenderOutput_scene s' o allocs.wallpaper with
        ⟨-, hsame⟩ | ⟨_, -, -, hscene⟩
      · rw [hsame]
      · rw [hscene]
        rfl
    have hoverlay := createTestOverlay_overlay (zenWallpaperRenderOutput
      { s with outputLayout := arrange place (s.outputLayout ++ [o]) } o allocs.wallpaper) o
      allocs.overlay
    rwa [hrender] at hoverlay
  · exact .inl rfl

theorem step_overlay (h : Layered s) (ho : e.owner ≠ .layers) :
    ∃ node, (node = .testOverlay ∨ node = .lockBuffer) ∧
      ((step s e).scene.overlay = s.scene.overlay ∨
        (step s e).scene.overlay = s.scene.overlay ++ [node] ∨
          (step s e).scene.overlay = s.scene.overlay.erase node) := by
  rcases howner : e.owner with _ | _ | _ | _
  · refine ⟨.testOverlay, .inl rfl, .inl ?_⟩
    rcases handle_desktop_scene { s with calls := [] } howner with ⟨-, hstack⟩ | ⟨t, -, hscene⟩
    · exact (Restacks.restacked hstack).overlay
    · rw [step, hscene]
      rfl
  · exact absurd howner ho
  · refine ⟨.testOverlay, .inl rfl, ?_⟩
    cases e with
    | newOutput o place allocs =>
        exact (handleNewOutput_overlay { s with calls := [] } o place allocs).imp_right .inl
    | wallpaperInit stateOk treeOk =>
        cases stateOk
        · exact .inl rfl
        · cases treeOk <;> exact .inl rfl
    | wallpaperDestroy =>
        refine .inl ?_
        change (zenWallpaperDestroy { s with calls := [] }).scene.overlay = _
        rw [zenWallpaperDestroy]
        split <;> rfl
    | outputRequestState | outputDestroy => exact .inl rfl
    | _ => cases howner
  · refine ⟨.lockBuffer, .inr rfl, ?_⟩
    rcases step_lock_scene h howner with hscene | hscene | hscene <;> rw [hscene]
    · exact .inl rfl
    · exact .inr (.inl rfl)
    · exact .inr (.inr rfl)

theorem step_placed_of_owner (h : Placed s) (ho : e.owner ≠ .layers) : Placed (step s e) := by
  obtain ⟨node, hnode, hoverlay⟩ := step_overlay h.layered ho
  have hne : ∀ l, node ≠ .layerSurface l := by
    rintro l rfl
    rcases hnode with hnode | hnode <;> cases hnode
  refine ⟨step_layered h.layered, fun node' hnode' => ?_, fun l => ?_⟩
  · rcases hoverlay with hsame | hadd | herase
    · exact h.overlay node' (hsame ▸ hnode')
    · rw [hadd] at hnode'
      rcases List.mem_append.mp hnode' with hold | hnew
      · exact h.overlay node' hold
      · rw [List.mem_singleton.mp hnew]
        exact .inr hnode
    · rw [herase] at hnode'
      exact h.overlay node' (List.mem_of_mem_erase hnode')
  · have hsurfaces : (step s e).layerSurfaces = s.layerSurfaces :=
      (handle_writes { s with calls := [] } e).layerSurfaces ho
    rw [hsurfaces]
    refine Eq.trans ?_ (h.surfaces l)
    rcases hoverlay with hsame | hadd | herase
    · rw [hsame]
    · rw [hadd, List.count_append, List.count_singleton, if_neg (by simpa using hne l),
        Nat.add_zero]
    · rw [herase, List.count_erase_of_ne (hne l).symm]

theorem modifyLayer_isSome (s : ZenCompositor) (l l' : LayerId)
    (f : ZenLayerSurface → ZenLayerSurface) :
    ((modifyLayer s l f).layerSurfaces l').isSome = (s.layerSurfaces l').isSome := by
  by_cases hl : l' = l
  · subst hl
    simp [modifyLayer]
  · simp [modifyLayer, Function.update_of_ne hl]

theorem step_newLayerSurface_placed (h : Placed s) {l : LayerId} (output : Option OutputId)
    (hl : (s.layerSurfaces l).isNone) : Placed (step s (.newLayerSurface l output true)) := by
  have hscene : (step s (.newLayerSurface l output true)).scene.overlay =
      s.scene.overlay ++ [.layerSurface l] := by
    have hcreate := handleNewLayerSurface_scene { s with calls := [] } l output
    rw [overlayParent_eq h.layered.clear] at hcreate
    exact congrArg Scene.overlay hcreate
  have hsurfaces : (step s (.newLayerSurface l output true)).layerSurfaces = _ :=
    handleNewLayerSurface_layerSurfaces { s with calls := [] } l output
  refine ⟨step_layered h.layered, ?_, fun l' => ?_⟩
  · rw [hscene, List.forall_mem_append, List.forall_mem_singleton]
    exact ⟨h.overlay, .inl ⟨l, rfl⟩⟩
  · rw [hscene, hsurfaces, List.count_append, h.surfaces l']
    by_cases hl' : l' = l
    · subst hl'
      rw [Function.update_self, if_neg (by simpa using hl), List.count_singleton_self]
      rfl
    · have hcount : [SceneNode.layerSurface l].count (.layerSurface l') = 0 :=
        List.count_eq_zero.mpr (by simpa using hl')
      rw [Function.update_of_ne hl', hcount, Nat.add_zero]

theorem step_layerDestroy_placed (h : Placed s) {l : LayerId} (hl : (s.layerSurfaces l).isSome) :
    Placed (step s (.layerDestroy l)) := by
  have hscene : (step s (.layerDestroy l)).scene.overlay =
      s.scene.overlay.erase (.layerSurface l) := by
    change (s.scene.destroy (overlayParent { s with calls := [] }) _).overlay = _
    rw [overlayParent_eq h.layered.clear]
    rfl
  have hsurfaces : (step s (.layerDestroy l)).layerSurfaces =
      Function.update s.layerSurfaces l none := rfl
  refine ⟨step_layered h.layered, fun node hnode => ?_, fun l' => ?_⟩
  · rw [hscene] at hnode
    exact h.overlay node (List.mem_of_mem_erase hnode)
  · rw [hscene, hsurfaces]
    by_cases hl' : l' = l
    · subst hl'
      rw [Function.update_self, List.count_erase_self, h.surfaces l', if_pos hl]
      rfl
    · rw [Function.update_of_ne hl', List.count_erase_of_ne (by simpa using hl'), h.surfaces l']

theorem step_placed (h : Placed s) (hadm : Admissible s e) : Placed (step s e) := by
  by_cases ho : e.owner = .layers
  · have hkeep : (step s e).scene = s.scene →
        (∀ l, ((step s e).layerSurfaces l).isSome = (s.layerSurfaces l).isSome) →
          Placed (step s e) := by
      intro hscene hsurfaces
      refine ⟨step_layered h.layered, ?_, fun l => ?_⟩
      · rw [hscene]
        exact h.overlay
      · rw [hscene, hsurfaces, h.surfaces l]
    cases e with
    | newLayerSurface l output ok =>
        cases ok with
        | false => exact h.clear
        | true => exact step_newLayerSurface_placed h output hadm
    | layerDestroy l => exact step_layerDestroy_placed h hadm
    | layerCommit l => exact hkeep rfl fun l' => modifyLayer_isSome _ l l' _
    | layerMap l => exact hkeep rfl fun l' => modifyLayer_isSome _ l l' _
    | layerUnmap l =>
        refine hkeep rfl fun l' => ?_
        exact (modifyLayer_isSome (handleLayerSurfaceUnmap { s with calls := [] } l) l l' _).trans
          (modifyLayer_isSome { s with calls := [] } l l' _)
    | _ => cases ho
  · exact step_placed_of_owner h ho

end Step

section Runs

variable (outputs : List Output) (bindings : List ZenKeybinding) (idleTimer : Bool)

theorem created_placed : Placed (created outputs bindings idleTimer) where
  layered := created_layered outputs bindings idleTimer
  overlay _ h := by cases h
  surfaces _ := rfl

/-- The layers are in order in every state of a run exactly when everything that is added
arrives in order. -/
theorem run_layersInOrder_iff (layers : Layers) (events : List LayerEvent)
    (hadm : Along stepLayers (fun p e => Admissible p.1 e.event)
      (created outputs bindings idleTimer, layers) events) :
    Along stepLayers (fun p e => LayersInOrder (stepLayers p e))
        (created outputs bindings idleTimer, layers) events ↔
      Along stepLayers ArrivesInOrder (created outputs bindings idleTimer, layers) events := by
  refine along_iff_along (I := fun p => Placed p.1 ∧ LayersInOrder p)
    (fun p e h hadm hin => ⟨step_placed h.1 hadm, hin⟩)
    (fun p e h hadm => step_layersInOrder_iff h.1 hadm h.2) hadm ?_
  exact ⟨created_placed outputs bindings idleTimer, List.Pairwise.nil⟩

/-- A panel on the bottom layer and a window after it. -/
theorem window_above_panel :
    let start := (created [] [] true, fun _ => ShellLayer.background)
    let events := [Event.newLayerSurface 1 none true, .layerCommit 1, .layerMap 1] ++
      showWindow 1 11
    Along stepLayers ArrivesInOrder start (events.map fun event => ⟨event, .bottom⟩) :=
  (run_layersInOrder_iff [] [] true _ _ (by decide)).mp (by decide)

/-- A window covers a surface of the overlay layer, and the wallpaper of an output covers one
of the background layer. -/
theorem overlay_covered :
    let start := (created [] [] true, fun _ => ShellLayer.background)
    let surface := [Event.newLayerSurface 1 none true, .layerCommit 1, .layerMap 1]
    let output : Output :=
      { id := 1, enabled := true, width := 1920, height := 1080, transposed := false
        scale := 1, x := 0, y := 0 }
    let window := (surface ++ showWindow 1 11).map fun event => LayerEvent.mk event .overlay
    let wallpaper := (surface ++ [Event.newOutput output (fun _ => (0, 0)) ⟨true, true, true⟩]).map
      fun event => LayerEvent.mk event .background
    (Along stepLayers (fun p e => Admissible p.1 e.event) start window ∧
        ¬ Along stepLayers (fun p e => LayersInOrder (stepLayers p e)) start window) ∧
      Along stepLayers (fun p e => Admissible p.1 e.event) start wallpaper ∧
        ¬ Along stepLayers (fun p e => LayersInOrder (stepLayers p e)) start wallpaper := by
  decide

end Runs

end ZenOS.Compositor
