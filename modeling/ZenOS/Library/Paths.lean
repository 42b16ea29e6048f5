import Mathlib.Data.List.Infix
import Mathlib.Logic.Function.Basic

/-!
A tree of directories without links.  A place is the list of names from the root down to
it; a path is read from a place on, one component after another.
-/

namespace ZenOS.Library.Paths

variable {α : Type*}

inductive Component (α : Type*) where
  | up
  | down (name : α)
  deriving DecidableEq

abbrev Place (α : Type*) := List α

/-- The parent of the root is the root. -/
def Component.move (q : Place α) : Component α → Place α
  | .up => q.dropLast
  | .down name => q ++ [name]

def walk (q : Place α) (path : List (Component α)) : Place α :=
  path.foldl Component.move q

/-- The places that a path goes through behind the one where it starts. -/
def visited (q : Place α) : List (Component α) → List (Place α)
  | [] => []
  | c :: path => c.move q :: visited (c.move q) path

/-- A proper descendant. -/
def Inside (d q : Place α) : Prop :=
  d <+: q ∧ q ≠ d

section Walks

variable (q : Place α)

@[simp] theorem walk_nil : walk q [] = q :=
  rfl

@[simp] theorem walk_cons (c : Component α) (path : List (Component α)) :
    walk q (c :: path) = walk (c.move q) path :=
  rfl

theorem walk_append (path path' : List (Component α)) :
    walk q (path ++ path') = walk (walk q path) path' :=
  List.foldl_append

theorem visited_append (path path' : List (Component α)) :
    visited q (path ++ path') = visited q path ++ visited (walk q path) path' := by
  induction path generalizing q with
  | nil => rfl
  | cons c path ih => rw [List.cons_append, visited, ih, visited, List.cons_append, walk_cons]

theorem mem_visited {path : List (Component α)} {p : Place α} (hp : p ∈ visited q path) :
    p ∈ visited q path.dropLast ∨ p = walk q path := by
  induction path using List.reverseRecOn with
  | nil => cases hp
  | append_singleton path c _ =>
      rw [visited_append, List.mem_append] at hp
      rw [List.dropLast_concat, walk_append]
      exact hp.imp_right List.mem_singleton.mp

theorem visited_dropLast_subset (path : List (Component α)) :
    visited q path.dropLast ⊆ visited q path := by
  induction path using List.reverseRecOn with
  | nil => exact List.Subset.refl _
  | append_singleton path c _ =>
      rw [List.dropLast_concat, visited_append]
      exact List.subset_append_left ..

theorem walk_mem_visited {path : List (Component α)} (h : path ≠ []) :
    walk q path ∈ visited q path := by
  induction path using List.reverseRecOn with
  | nil => exact absurd rfl h
  | append_singleton path c _ =>
      rw [visited_append, walk_append]
      exact List.mem_append_right _ (List.mem_singleton_self _)

theorem inside_concat {d : Place α} (hq : d <+: q) (name : α) : Inside d (q ++ [name]) := by
  refine ⟨hq.trans (List.prefix_append ..), fun h => ?_⟩
  have hlength := hq.length_le
  rw [← h, List.length_append] at hlength
  exact absurd hlength (by simp)

theorem prefix_of_inside_concat {d : Place α} (name : α) (h : Inside d (q ++ [name])) :
    d <+: q :=
  (List.prefix_concat_iff.mp h.1).resolve_left h.2.symm

theorem inside_append {d : Place α} (hq : Inside d q) (names : List α) :
    Inside d (q ++ names) := by
  obtain ⟨⟨rest, rfl⟩, hne⟩ := hq
  refine ⟨⟨rest ++ names, (List.append_assoc ..).symm⟩, fun h => hne ?_⟩
  rw [List.append_assoc, List.append_right_eq_self] at h
  rw [(List.append_eq_nil_iff.mp h).1, List.append_nil]

theorem inside_of_prefix {d p : Place α} (hq : Inside d q) (hp : q <+: p) : Inside d p := by
  obtain ⟨names, rfl⟩ := hp
  exact inside_append q hq names

end Walks

inductive Kind where
  | file
  | directory
  deriving DecidableEq

/-- What is at each place, if anything. -/
abbrev FileTree (α : Type*) := Place α → Option Kind

/-- Everything is in a directory. -/
def FileTree.Rooted (fs : FileTree α) : Prop :=
  fs [] = some .directory ∧
    ∀ q p, q <+: p → q ≠ p → fs p ≠ none → fs q = some .directory

/-- The place that a path names, when something is there. -/
def FileTree.resolve (fs : FileTree α) (q : Place α) : List (Component α) → Option (Place α)
  | [] => if fs q = none then none else some q
  | c :: path => if fs q = some .directory then fs.resolve (c.move q) path else none

section Resolving

variable (fs : FileTree α) (q : Place α)

theorem resolve_eq_some {path : List (Component α)} {p : Place α}
    (h : fs.resolve q path = some p) : p = walk q path ∧ ∀ r ∈ visited q path, fs r ≠ none := by
  induction path generalizing q with
  | nil =>
      rw [FileTree.resolve] at h
      split at h
      · cases h
      · cases h
        exact ⟨rfl, nofun⟩
  | cons c path ih =>
      rw [FileTree.resolve] at h
      split at h
      · obtain ⟨rfl, hvisited⟩ := ih _ h
        refine ⟨rfl, fun r hr => ?_⟩
        rcases List.mem_cons.mp hr with rfl | hr
        · cases path with
          | nil =>
              rw [FileTree.resolve] at h
              split at h
              · cases h
              · next hne => exact hne
          | cons d path =>
              rw [FileTree.resolve] at h
              split at h
              · next hdir => rw [hdir]; nofun
              · cases h
        · exact hvisited r hr
      · cases h

/-- What has been found is found when more is there. -/
theorem resolve_mono {fs fs' : FileTree α} (h : ∀ p kind, fs p = some kind → fs' p = some kind)
    {q p : Place α} {path : List (Component α)} (hp : fs.resolve q path = some p) :
    fs'.resolve q path = some p := by
  induction path generalizing q with
  | nil =>
      rw [FileTree.resolve] at hp ⊢
      split at hp
      · cases hp
      next hne =>
        obtain ⟨kind, hkind⟩ := Option.ne_none_iff_exists'.mp hne
        rw [if_neg (by rw [h q kind hkind]; nofun)]
        exact hp
  | cons c path ih =>
      rw [FileTree.resolve] at hp ⊢
      split at hp
      · next hdir =>
          rw [if_pos (h q _ hdir)]
          exact ih hp
      · cases hp

theorem resolve_of_directories (hfs : ∀ p, fs p = some .directory)
    (path : List (Component α)) : fs.resolve q path = some (walk q path) := by
  induction path generalizing q with
  | nil => rw [FileTree.resolve, hfs, if_neg nofun, walk_nil]
  | cons c path ih => rw [FileTree.resolve, hfs, if_pos rfl, ih, walk_cons]

end Resolving

variable [DecidableEq α]

/-- Make a directory for each place on the way that has none; a file on the way ends it.
The second component says whether the whole path has been made. -/
def FileTree.makeDirs (fs : FileTree α) (q : Place α) : List (Component α) → FileTree α × Bool
  | [] => (fs, true)
  | c :: path =>
      match fs (c.move q) with
      | some .directory => fs.makeDirs (c.move q) path
      | some .file => (fs, false)
      | none => FileTree.makeDirs (Function.update fs (c.move q) (some .directory)) (c.move q) path

/-- Remove a place with everything below it. -/
def FileTree.removeAll (fs : FileTree α) (q : Place α) : FileTree α :=
  fun p => if q.isPrefixOf p then none else fs p

/-- Remove everything below a place, and not the place itself. -/
def FileTree.clear (fs : FileTree α) (q : Place α) : FileTree α :=
  fun p => if q.isPrefixOf p ∧ p ≠ q then none else fs p

/-- The places that come into being. -/
def Created (fs fs' : FileTree α) (p : Place α) : Prop :=
  fs p = none ∧ fs' p ≠ none

def Removed (fs fs' : FileTree α) (p : Place α) : Prop :=
  fs p ≠ none ∧ fs' p = none

section Trees

variable (fs : FileTree α) (q : Place α)

variable {fs} {q} in
theorem removeAll_eq_none_iff {p : Place α} :
    fs.removeAll q p = none ↔ q <+: p ∨ fs p = none := by
  rw [FileTree.removeAll, ← List.isPrefixOf_iff_prefix]
  split
  · next hbelow => exact iff_of_true rfl (.inl hbelow)
  · next hbelow => rw [or_iff_right hbelow]

variable {fs} {q} in
theorem clear_eq_none_iff {p : Place α} :
    fs.clear q p = none ↔ Inside q p ∨ fs p = none := by
  rw [FileTree.clear, Inside, ← List.isPrefixOf_iff_prefix]
  split
  · next hbelow => exact iff_of_true rfl (.inl hbelow)
  · next hbelow => rw [or_iff_right hbelow]

theorem makeDirs_ne_none {path : List (Component α)} {p : Place α}
    (hp : (fs.makeDirs q path).1 p ≠ none) : fs p ≠ none ∨ p ∈ visited q path := by
  induction path generalizing fs q with
  | nil => exact .inl hp
  | cons c path ih =>
      rw [FileTree.makeDirs] at hp
      rw [visited, List.mem_cons]
      split at hp
      · exact (ih _ _ hp).imp_right .inr
      · exact .inl hp
      · rcases ih _ _ hp with h | h
        · rcases eq_or_ne p (c.move q) with rfl | hne
          · exact .inr (.inl rfl)
          · rw [Function.update_of_ne hne] at h
            exact .inl h
        · exact .inr (.inr h)

theorem makeDirs_of_ne_none {path : List (Component α)} {p : Place α} {kind : Kind}
    (hp : fs p = some kind) : (fs.makeDirs q path).1 p = some kind := by
  induction path generalizing fs q with
  | nil => exact hp
  | cons c path ih =>
      rw [FileTree.makeDirs]
      split
      · exact ih _ _ hp
      · exact hp
      · next hnone =>
          refine ih _ _ ?_
          rw [Function.update_of_ne]
          · exact hp
          · rintro rfl
            rw [hnone] at hp
            cases hp

theorem resolve_makeDirs {path : List (Component α)} (hq : fs q = some .directory)
    (h : (fs.makeDirs q path).2 = true) :
    (fs.makeDirs q path).1.resolve q path = some (walk q path) := by
  induction path generalizing fs q with
  | nil =>
      change (if fs q = none then none else some q) = some q
      rw [hq, if_neg nofun]
  | cons c path ih =>
      have hkept : (fs.makeDirs q (c :: path)).1 q = some .directory :=
        makeDirs_of_ne_none fs q hq
      rw [FileTree.resolve, if_pos hkept]
      rw [FileTree.makeDirs] at h ⊢
      split at h
      · next hdir => exact ih _ _ hdir h
      · cases h
      · exact ih _ _ (Function.update_self ..) h

theorem makeDirs_walk {path : List (Component α)} (hq : fs q = some .directory)
    (h : (fs.makeDirs q path).2 = true) :
    (fs.makeDirs q path).1 (walk q path) = some .directory := by
  induction path generalizing fs q with
  | nil => exact hq
  | cons c path ih =>
      rw [FileTree.makeDirs] at h ⊢
      split at h
      · next hdir => exact ih _ _ hdir h
      · cases h
      · exact ih _ _ (Function.update_self ..) h

theorem makeDirs_all (hfs : ∀ p, fs p ≠ some .file) (path : List (Component α)) :
    (fs.makeDirs q path).2 = true ∧
      ∀ p ∈ visited q path, (fs.makeDirs q path).1 p = some .directory := by
  induction path generalizing fs q with
  | nil => exact ⟨rfl, nofun⟩
  | cons c path ih =>
      rw [FileTree.makeDirs, visited]
      split
      · next hdir =>
          obtain ⟨hok, hall⟩ := ih fs (c.move q) hfs
          refine ⟨hok, fun p hp => ?_⟩
          rcases List.mem_cons.mp hp with rfl | hp
          · exact makeDirs_of_ne_none _ _ hdir
          · exact hall p hp
      · next hfile => exact absurd hfile (hfs _)
      · have hfs' : ∀ p, Function.update fs (c.move q) (some .directory) p ≠ some .file := by
          intro p
          rcases eq_or_ne p (c.move q) with rfl | hne
          · simp
          · rw [Function.update_of_ne hne]
            exact hfs p
        obtain ⟨hok, hall⟩ := ih _ (c.move q) hfs'
        refine ⟨hok, fun p hp => ?_⟩
        rcases List.mem_cons.mp hp with rfl | hp
        · exact makeDirs_of_ne_none _ _ (Function.update_self ..)
        · exact hall p hp

end Trees

end ZenOS.Library.Paths
