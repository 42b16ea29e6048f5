import ZenOS.ZenTest.Runner

/-!
Trees of gate files, and what a walk through one finds.
-/

namespace ZenOS.ZenTest

/-- A node lies at a path below a directory with the given entries. -/
inductive Occurs : Entries → List String → Node → Prop
  | here {name : String} {node : Node} {rest : Entries} :
      Occurs (.entry name node rest) [name] node
  | later {name : String} {node other : Node} {rest : Entries} {path : List String}
      (h : Occurs rest path node) : Occurs (.entry name other rest) path node
  | inside {name : String} {node : Node} {rest entries : Entries} {path : List String}
      (h : Occurs entries path node) :
      Occurs (.entry name (.directory entries) rest) (name :: path) node

/-- A gate file below a directory with the path `dir`: what is no directory and is named
`.toml`. -/
def GateFileBelow (dir : List String) (entries : Entries) (file : GateFile) : Prop :=
  ∃ path node, file.path = dir ++ path ∧ Occurs entries path node ∧ node.isDir = false ∧
    isToml file.path = true ∧ file.content = node.content

/-- The gate files of a tree. -/
def Node.HasGateFile (root : Node) (file : GateFile) : Prop :=
  ∃ entries, root = .directory entries ∧ GateFileBelow [] entries file

mutual

/-- Every directory of the tree can be listed. -/
def Node.Listable : Node → Prop
  | .directory entries => entries.Listable
  | .file _ | .inaccessible _ => True

def Entries.Listable : Entries → Prop
  | .nil => True
  | .unreadable => False
  | .entry _ node rest => node.Listable ∧ rest.Listable

end

mutual

/-- Every directory of the tree can be listed, and none is taken for something else. -/
def Node.Accessible : Node → Prop
  | .directory entries => entries.Accessible
  | .file _ => True
  | .inaccessible directory => directory = false

def Entries.Accessible : Entries → Prop
  | .nil => True
  | .unreadable => False
  | .entry _ node rest => node.Accessible ∧ rest.Accessible

end

mutual

theorem Node.Accessible.listable : ∀ {node : Node}, node.Accessible → node.Listable
  | .directory _, h => Entries.Accessible.listable h
  | .file _, _ | .inaccessible _, _ => trivial

theorem Entries.Accessible.listable :
    ∀ {entries : Entries}, entries.Accessible → entries.Listable
  | .nil, _ => trivial
  | .entry .., h => ⟨h.1.listable, h.2.listable⟩

end

theorem occurs_entry_iff {name : String} {node other : Node} {rest : Entries}
    {path : List String} :
    Occurs (.entry name node rest) path other ↔
      (path = [name] ∧ other = node) ∨
        (∃ entries below, node = .directory entries ∧ path = name :: below ∧
          Occurs entries below other) ∨
        Occurs rest path other := by
  constructor
  · rintro (_ | h | h)
    · exact .inl ⟨rfl, rfl⟩
    · exact .inr (.inr h)
    · exact .inr (.inl ⟨_, _, rfl, rfl, h⟩)
  · rintro (⟨rfl, rfl⟩ | ⟨entries, below, rfl, rfl, h⟩ | h)
    · exact .here
    · exact .inside h
    · exact .later h

theorem gateFileBelow_nil (dir : List String) (file : GateFile) :
    ¬ GateFileBelow dir .nil file := by
  rintro ⟨path, node, -, h, -⟩
  cases h

theorem gateFileBelow_entry_iff {dir : List String} {name : String} {node : Node}
    {rest : Entries} {file : GateFile} :
    GateFileBelow dir (.entry name node rest) file ↔
      (node.isDir = false ∧ isToml (dir ++ [name]) = true ∧
          file = ⟨dir ++ [name], node.content⟩) ∨
        (∃ entries, node = .directory entries ∧
          GateFileBelow (dir ++ [name]) entries file) ∨
        GateFileBelow dir rest file := by
  constructor
  · rintro ⟨path, other, hpath, hoccurs, hdir, htoml, hcontent⟩
    rcases occurs_entry_iff.mp hoccurs with
      ⟨rfl, rfl⟩ | ⟨entries, below, rfl, rfl, h⟩ | h
    · refine .inl ⟨hdir, hpath ▸ htoml, ?_⟩
      cases file
      simp_all
    · refine .inr (.inl ⟨entries, rfl, below, other, ?_, h, hdir, htoml, hcontent⟩)
      rw [hpath, List.append_assoc]
      rfl
    · exact .inr (.inr ⟨path, other, hpath, h, hdir, htoml, hcontent⟩)
  · rintro (⟨hdir, htoml, rfl⟩ | ⟨entries, rfl, path, other, hpath, h, hrest⟩ |
      ⟨path, other, hpath, h, hrest⟩)
    · exact ⟨[name], node, rfl, .here, hdir, htoml, rfl⟩
    · refine ⟨name :: path, other, ?_, .inside h, hrest⟩
      rw [hpath, List.append_assoc]
      rfl
    · exact ⟨path, other, hpath, .later h, hrest⟩

mutual

theorem walkTomlFiles_listable (dir : List String) :
    ∀ node : Node, node.Listable → ∃ files, walkTomlFiles dir node = .ok files ∧
      ∀ file, file ∈ files ↔ ∃ entries, node = .directory entries ∧
        GateFileBelow dir entries file
  | .directory entries, h => by
      obtain ⟨files, hwalk, hmem⟩ := walkEntries_listable dir entries h
      refine ⟨files, by rw [walkTomlFiles, hwalk], fun file => (hmem file).trans ?_⟩
      constructor
      · intro hbelow
        exact ⟨entries, rfl, hbelow⟩
      · rintro ⟨_, ⟨⟩, hbelow⟩
        exact hbelow
  | .file content, _ => by
      refine ⟨[], by rw [walkTomlFiles], fun file => iff_of_false (by simp) ?_⟩
      rintro ⟨_, ⟨⟩, -⟩
  | .inaccessible _, _ => by
      refine ⟨[], by rw [walkTomlFiles], fun file => iff_of_false (by simp) ?_⟩
      rintro ⟨_, ⟨⟩, -⟩

theorem walkEntries_listable (dir : List String) :
    ∀ entries : Entries, entries.Listable → ∃ files, walkEntries dir entries = .ok files ∧
      ∀ file, file ∈ files ↔ GateFileBelow dir entries file
  | .nil, _ => by
      refine ⟨[], by rw [walkEntries], fun file => iff_of_false (by simp) ?_⟩
      exact gateFileBelow_nil dir file
  | .entry name node rest, h => by
      obtain ⟨below, hbelow, hmemBelow⟩ := walkTomlFiles_listable (dir ++ [name]) node h.1
      obtain ⟨more, hmore, hmemMore⟩ := walkEntries_listable dir rest h.2
      rw [walkEntries, hmore]
      rcases hdir : node.isDir with _ | _
      · have hnone : ∀ file, ¬ ∃ entries, node = .directory entries ∧
            GateFileBelow (dir ++ [name]) entries file := by
          rintro file ⟨entries, rfl, -⟩
          cases hdir
        rcases htoml : isToml (dir ++ [name]) with _ | _
        · refine ⟨more, rfl, fun file => ?_⟩
          rw [hmemMore, gateFileBelow_entry_iff]
          simp [htoml, hnone]
        · refine ⟨⟨dir ++ [name], node.content⟩ :: more, rfl, fun file => ?_⟩
          rw [List.mem_cons, hmemMore, gateFileBelow_entry_iff]
          simp [htoml, hdir, hnone]
      · refine ⟨below ++ more, by rw [if_pos rfl, hbelow]; rfl, fun file => ?_⟩
        rw [List.mem_append, hmemBelow, hmemMore, gateFileBelow_entry_iff]
        simp [hdir]

end

mutual

theorem walkTomlFiles_unlistable (dir : List String) :
    ∀ node : Node, ¬ node.Listable → ∃ e, walkTomlFiles dir node = .error e
  | .directory entries, h => by
      obtain ⟨e, hwalk⟩ := walkEntries_unlistable dir entries h
      exact ⟨e, by rw [walkTomlFiles, hwalk]⟩
  | .file _, h | .inaccessible _, h => absurd trivial h

theorem walkEntries_unlistable (dir : List String) :
    ∀ entries : Entries, ¬ entries.Listable → ∃ e, walkEntries dir entries = .error e
  | .nil, h => absurd trivial h
  | .unreadable, _ => ⟨_, rfl⟩
  | .entry name node rest, h => by
      rw [walkEntries]
      by_cases hnode : node.Listable
      · obtain ⟨e, hrest⟩ := walkEntries_unlistable dir rest fun hrest => h ⟨hnode, hrest⟩
        obtain ⟨below, hbelow, -⟩ := walkTomlFiles_listable (dir ++ [name]) node hnode
        rw [hbelow, hrest]
        refine ⟨e, ?_⟩
        dsimp only
        split
        · rfl
        · split <;> rfl
      · obtain ⟨e, hbelow⟩ := walkTomlFiles_unlistable (dir ++ [name]) node hnode
        have hdir : node.isDir = true := by
          cases node with
          | directory entries => rfl
          | file content => exact absurd trivial hnode
          | inaccessible directory => exact absurd trivial hnode
        rw [if_pos hdir, hbelow]
        exact ⟨e, rfl⟩

end

end ZenOS.ZenTest
