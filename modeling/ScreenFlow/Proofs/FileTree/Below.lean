import ScreenFlow.FileTree
import ScreenFlow.Proofs.FileTree.Spelling

/-!
# Below a directory

`Node.LeadsTo` says what stands below a node, entry by entry. In a proper tree names lead to one node
(`Node.LeadsTo.unique`), and what is listed below a node is all that stands there
(`Node.mem_descendants_iff`).
-/

namespace ScreenFlow

/-! ## Names that lead somewhere -/

/-- Some names lead from a node to what stands there, each to an entry of a directory. -/
inductive Node.LeadsTo : Node → List ByteArray → Node → Prop
  | here (node : Node) : LeadsTo node [] node
  | enter {entries : Entries} {name : ByteArray} {next found : Node} {names : List ByteArray}
      (entry : (name, next) ∈ entries) (rest : LeadsTo next names found) :
      LeadsTo (.directory entries) (name :: names) found

/-- In every directory the names differ, and none of them holds a slash. -/
inductive Node.Proper : Node → Prop
  | file (content : ByteArray) : Proper (.file content)
  | directory {entries : Entries} (distinct : (entries.map Prod.fst).Nodup)
      (plain : ∀ entry ∈ entries, Path.slash ∉ entry.1.data.toList)
      (below : ∀ entry ∈ entries, Proper entry.2) : Proper (.directory entries)

/-- Names are the same if their bytes are. -/
instance Node.lawfulBEqNames : LawfulBEq ByteArray where
  eq_of_beq {name other} h := ByteArray.ext (LawfulBEq.eq_of_beq (show name.data == other.data from h))
  rfl {name} := show (name.data == name.data) = true from beq_self_eq_true _

namespace Node

variable {node found : Node} {entries : Entries} {name : ByteArray} {names : List ByteArray}

theorem leadsTo_nil_iff : node.LeadsTo [] found ↔ found = node := by
  constructor
  · intro h
    cases h
    rfl
  · rintro rfl
    exact .here _

theorem leadsTo_cons_iff : node.LeadsTo (name :: names) found ↔
    ∃ entries next, node = .directory entries ∧ (name, next) ∈ entries ∧ next.LeadsTo names found := by
  constructor
  · intro h
    cases h with
    | enter entry rest => exact ⟨_, _, rfl, entry, rest⟩
  · rintro ⟨entries, next, rfl, entry, rest⟩
    exact .enter entry rest

theorem leadsTo_directory_iff : (Node.directory entries).LeadsTo (name :: names) found ↔
    ∃ next, (name, next) ∈ entries ∧ next.LeadsTo names found := by
  rw [leadsTo_cons_iff]
  constructor
  · rintro ⟨others, next, hsame, hnext⟩
    obtain rfl := Node.directory.inj hsame
    exact ⟨next, hnext⟩
  · rintro ⟨next, hnext⟩
    exact ⟨entries, next, rfl, hnext⟩

theorem not_leadsTo_file {content : ByteArray} :
    ¬ (Node.file content).LeadsTo (name :: names) found := by
  intro h
  cases h

/-- With distinct names an entry is what its name is looked up as. -/
theorem mem_of_lookup {next : Node} (h : entries.lookup name = some next) : (name, next) ∈ entries := by
  obtain ⟨before, behind, rfl, _⟩ := List.lookup_eq_some_iff.1 h
  exact List.mem_append_right _ List.mem_cons_self

theorem lookup_of_mem {next : Node} (hdistinct : (entries.map Prod.fst).Nodup)
    (h : (name, next) ∈ entries) : entries.lookup name = some next := by
  obtain ⟨before, behind, rfl⟩ := List.append_of_mem h
  refine List.lookup_eq_some_iff.2 ⟨before, behind, rfl, fun entry hentry => ?_⟩
  rw [List.map_append, List.nodup_append] at hdistinct
  have hne : entry.1 ≠ name :=
    hdistinct.2.2 _ (List.mem_map_of_mem hentry) _ (List.mem_map_of_mem List.mem_cons_self)
  simpa using hne.symm

namespace LeadsTo

variable {other : Node}

/-- In a proper tree some names lead to one node only. -/
theorem unique (h : node.LeadsTo names found) (hproper : node.Proper)
    (hother : node.LeadsTo names other) : found = other := by
  induction h with
  | here => exact (leadsTo_nil_iff.1 hother).symm
  | @enter entries name next found names entry rest ih =>
    cases hproper with
    | directory distinct plain below =>
      obtain ⟨step, hstep, hrest⟩ := leadsTo_directory_iff.1 hother
      have hsame : some next = some step := by
        rw [← lookup_of_mem distinct entry, ← lookup_of_mem distinct hstep]
      obtain rfl := Option.some.inj hsame
      exact ih (below _ entry) hrest

theorem plain (h : node.LeadsTo names found) (hproper : node.Proper) :
    ∀ name ∈ names, Path.slash ∉ name.data.toList := by
  induction h with
  | here => exact fun name hname => absurd hname List.not_mem_nil
  | enter entry _ ih =>
    cases hproper with
    | directory _ plain below =>
      intro name hname
      rcases List.mem_cons.1 hname with rfl | hname
      · exact plain _ entry
      · exact ih (below _ entry) name hname

end LeadsTo

/-! ## What is listed below a node -/

theorem leadsTo_entries_cons_iff {next : Node} :
    names ≠ [] ∧ (Node.directory ((name, next) :: entries)).LeadsTo names found ↔
      (∃ rest, names = name :: rest ∧ next.LeadsTo rest found) ∨
        names ≠ [] ∧ (Node.directory entries).LeadsTo names found := by
  cases names with
  | nil => simp
  | cons first rest =>
    simp only [leadsTo_directory_iff, List.cons.injEq]
    constructor
    · rintro ⟨_, step, hentry, hrest⟩
      rcases List.mem_cons.1 hentry with hfirst | hentry
      · obtain ⟨rfl, rfl⟩ := Prod.mk.inj hfirst
        exact .inl ⟨rest, ⟨rfl, rfl⟩, hrest⟩
      · exact .inr ⟨List.cons_ne_nil _ _, step, hentry, hrest⟩
    · rintro (⟨_, ⟨rfl, rfl⟩, hrest⟩ | ⟨_, step, hentry, hrest⟩)
      · exact ⟨List.cons_ne_nil _ _, next, List.mem_cons_self, hrest⟩
      · exact ⟨List.cons_ne_nil _ _, step, List.mem_cons_of_mem _ hentry, hrest⟩

end Node

mutual

theorem Entries.mem_descendants_iff {names : List ByteArray} {found : Node} :
    ∀ {entries : Entries}, (names, found) ∈ Entries.descendants entries ↔
      names ≠ [] ∧ (Node.directory entries).LeadsTo names found
  | [] => by
    simp only [Entries.descendants, List.not_mem_nil, false_iff]
    rintro ⟨hnonempty, hleads⟩
    cases hleads with
    | here => exact hnonempty rfl
    | enter entry => exact List.not_mem_nil entry
  | (name, node) :: entries => by
    rw [Node.leadsTo_entries_cons_iff, Entries.descendants, List.mem_append,
      Entries.mem_descendants_iff]
    refine or_congr_left ?_
    simp only [List.mem_map, List.mem_cons, Prod.exists, Prod.mk.injEq]
    constructor
    · rintro ⟨rest, next, ⟨rfl, rfl⟩ | hbelow, rfl, rfl⟩
      · exact ⟨[], rfl, .here _⟩
      · exact ⟨rest, rfl, (Node.mem_descendants_iff.1 hbelow).2⟩
    · rintro ⟨rest, rfl, hleads⟩
      refine ⟨rest, found, ?_, rfl, rfl⟩
      cases rest with
      | nil => exact .inl ⟨rfl, Node.leadsTo_nil_iff.1 hleads⟩
      | cons => exact .inr (Node.mem_descendants_iff.2 ⟨List.cons_ne_nil _ _, hleads⟩)

/-- What is listed below a node is all that stands there. -/
theorem Node.mem_descendants_iff {names : List ByteArray} {found : Node} :
    ∀ {node : Node}, (names, found) ∈ node.descendants ↔ names ≠ [] ∧ node.LeadsTo names found
  | .file content => by
    cases names with
    | nil => simp [Node.descendants]
    | cons => simp [Node.descendants, Node.not_leadsTo_file]
  | .directory entries => by
    rw [Node.descendants]
    exact Entries.mem_descendants_iff

end

end ScreenFlow
