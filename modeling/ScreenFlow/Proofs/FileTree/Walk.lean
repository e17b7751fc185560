import ScreenFlow.Proofs.Checks
import ScreenFlow.Proofs.FileTree.Below
import ScreenFlow.Proofs.FileTree.Joining

/-!
# Walking along a path

A walk along a path takes its last component last (`Node.walk_concat`); empty components and single
dots lead from a directory to itself. So a name below a root leads to the entry of that name
(`Disk.ofTree_join_iff`), and without what adds nothing to its end a path leads to the same directory
(`Disk.ofTree_trimmed`).
-/

namespace ScreenFlow

namespace Node

/-- A component leads from a directory to the directory itself. -/
def IsIdle (component : String) : Prop := component = "" ∨ component = "."

instance (component : String) : Decidable (IsIdle component) :=
  inferInstanceAs (Decidable (_ ∨ _))

/-- A component is a name of an entry. -/
structure IsEntryName (component : String) : Prop where
  nonempty : component ≠ ""
  not_here : component ≠ "."
  not_above : component ≠ ".."
  short : ¬ Path.isLongName component
  plain : '/' ∉ component.toList

variable {above : List Node} {node found : Node} {components : List String} {component : String}

theorem walk_cons (above : List Node) (node : Node) (component : String) (components : List String) :
    walk above node (component :: components) = (do
      let entries ← node.entries
      if component = "" ∨ component = "." then walk above node components
      else if component = ".." then walk above.tail (above.head?.getD node) components
      else if Path.isLongName component then throw .nameTooLong
      else
        match entries.lookup component.toUTF8 with
        | some next => walk (node :: above) next components
        | none => throw .missing) := by
  rw [walk.eq_def]
  cases above <;> rfl

/-- The last component of a path is taken last; what it does must not depend on the directories around. -/
theorem walk_concat {step : Node → Except DiskFault Node}
    (hstep : ∀ above node, walk above node [component] = step node) :
    walk above node (components ++ [component]) = walk above node components >>= step := by
  induction components generalizing above node with
  | nil => exact hstep above node
  | cons first components ih =>
    rw [List.cons_append, walk_cons, walk_cons]
    cases node.entries with
    | error => rfl
    | ok entries =>
      simp only [bind, Except.bind] at ih ⊢
      by_cases hidle : first = "" ∨ first = "."
      · rw [if_pos hidle, if_pos hidle]
        exact ih
      · rw [if_neg hidle, if_neg hidle]
        by_cases habove : first = ".."
        · rw [if_pos habove, if_pos habove]
          exact ih
        · rw [if_neg habove, if_neg habove]
          by_cases hlong : Path.isLongName first = true
          · rw [if_pos hlong, if_pos hlong]
            rfl
          · rw [if_neg hlong, if_neg hlong]
            cases entries.lookup first.toUTF8 with
            | none => rfl
            | some next => exact ih

theorem walk_concat_idle_iff (h : IsIdle component) :
    walk above node (components ++ [component]) = .ok found ↔
      walk above node components = .ok found ∧ ∃ entries, found = .directory entries := by
  have hstep : ∀ above node, walk above node [component] =
      node.entries >>= fun _ => (.ok node : Except DiskFault Node) := by
    intro above node
    rw [walk_cons]
    cases node.entries with
    | error => rfl
    | ok entries => exact if_pos h
  rw [walk_concat hstep, bind_eq_ok_iff]
  constructor
  · rintro ⟨node, hnode, hfound⟩
    obtain ⟨entries, hentries, hsame⟩ := bind_eq_ok_iff.1 hfound
    obtain rfl := Except.ok.inj hsame
    cases node with
    | file content => cases hentries
    | directory own => exact ⟨hnode, own, rfl⟩
  · rintro ⟨hnode, entries, rfl⟩
    exact ⟨_, hnode, rfl⟩

theorem walk_concat_name_iff (h : IsEntryName component) :
    walk above node (components ++ [component]) = .ok found ↔
      ∃ entries, walk above node components = .ok (.directory entries) ∧
        entries.lookup component.toUTF8 = some found := by
  have hstep : ∀ above node, walk above node [component] =
      node.entries >>= fun entries =>
        match entries.lookup component.toUTF8 with
        | some next => (.ok next : Except DiskFault Node)
        | none => .error .missing := by
    intro above node
    rw [walk_cons]
    cases node.entries with
    | error => rfl
    | ok entries =>
      simp only [bind, Except.bind, h.nonempty, h.not_here, h.not_above, h.short, or_self, if_false]
      cases entries.lookup component.toUTF8 <;> rfl
  rw [walk_concat hstep, bind_eq_ok_iff]
  constructor
  · rintro ⟨node, hnode, hfound⟩
    obtain ⟨entries, hentries, hnext⟩ := bind_eq_ok_iff.1 hfound
    cases node with
    | file content => cases hentries
    | directory own =>
      obtain rfl := Except.ok.inj hentries
      refine ⟨own, hnode, ?_⟩
      cases hlookup : List.lookup component.toUTF8 own with
      | none =>
        rw [hlookup] at hnext
        cases hnext
      | some next =>
        rw [hlookup] at hnext
        exact congrArg some (Except.ok.inj hnext)
  · rintro ⟨entries, hnode, hlookup⟩
    refine ⟨_, hnode, ?_⟩
    show (match entries.lookup component.toUTF8 with
      | some next => (.ok next : Except DiskFault Node)
      | none => .error .missing) = _
    rw [hlookup]

/-- Idle components lead from a directory to itself. -/
theorem walk_of_idle {entries : Entries} (h : ∀ component ∈ components, IsIdle component) :
    walk above (.directory entries) components = .ok (.directory entries) := by
  induction components with
  | nil => rfl
  | cons first components ih =>
    rw [walk_cons]
    refine (if_pos (h first List.mem_cons_self)).trans ?_
    exact ih fun component hcomponent => h component (List.mem_cons_of_mem _ hcomponent)

/-- A walk stays in proper trees. -/
theorem walk_proper (hnode : node.Proper) (habove : ∀ other ∈ above, other.Proper)
    (h : walk above node components = .ok found) : found.Proper := by
  induction components generalizing above node with
  | nil =>
    obtain rfl := Except.ok.inj h
    exact hnode
  | cons first components ih =>
    rw [walk_cons] at h
    obtain ⟨entries, hentries, h⟩ := bind_eq_ok_iff.1 h
    split at h
    · exact ih hnode habove h
    · split at h
      · refine ih ?_ (fun other hother => habove other (List.mem_of_mem_tail hother)) h
        cases above with
        | nil => exact hnode
        | cons parent above => exact habove parent List.mem_cons_self
      · split at h
        · cases h
        · split at h
          · next next hnext =>
            refine ih ?_ (fun other hother => ?_) h
            · cases hnode with
              | file => cases hentries
              | directory _ _ below =>
                obtain rfl := Except.ok.inj hentries
                exact below _ (mem_of_lookup hnext)
            · rcases List.mem_cons.1 hother with rfl | hother
              · exact hnode
              · exact habove other hother
          · cases h

end Node

/-! ## Paths on a disk -/

namespace Node

/-- What the components of some characters lead to. -/
def Stands (top : Node) (chars : List Char) (found : Node) : Prop :=
  top.walk [] ((Path.componentChars chars).map String.ofList) = .ok found

variable {top found other : Node} {chars : List Char} {entries : Entries}

theorem Stands.unique (h : top.Stands chars found) (hother : top.Stands chars other) :
    found = other := Except.ok.inj (h.symm.trans hother)

/-- A slash at the end of the path of a directory, alone or with a dot behind it, leads nowhere else. -/
theorem stands_idle_iff {last : List Char} (h : last = [] ∨ last = ['.']) :
    top.Stands (chars ++ '/' :: last) (.directory entries) ↔ top.Stands chars (.directory entries) := by
  have hidle : IsIdle (String.ofList last) := by
    rcases h with rfl | rfl
    · exact .inl rfl
    · exact .inr rfl
  have hplain : '/' ∉ last := by
    rcases h with rfl | rfl <;> decide
  unfold Stands
  rw [Path.componentChars_append, Path.componentChars_of_plain hplain, List.map_append,
    List.map_singleton, walk_concat_idle_iff hidle]
  exact and_iff_left ⟨entries, rfl⟩

theorem stands_name_iff {name : String} (hname : IsEntryName name) :
    top.Stands (chars ++ '/' :: name.toList) found ↔
      ∃ entries, top.Stands chars (.directory entries) ∧ entries.lookup name.toUTF8 = some found := by
  unfold Stands
  rw [Path.componentChars_append, Path.componentChars_of_plain hname.plain, List.map_append,
    List.map_singleton, String.ofList_toList, walk_concat_name_iff hname]

/-- The directory at a path is also at the path without what adds nothing to its end. -/
theorem Stands.dropIdle {front : List Char} (h : top.Stands (front ++ chars.reverse) (.directory entries)) :
    top.Stands (front ++ (Path.dropIdle chars).reverse) (.directory entries) := by
  fun_induction Path.dropIdle chars with
  | case1 => exact h
  | case2 chars hchars ih =>
    rw [List.reverse_cons, ← List.append_assoc] at h
    exact ih ((stands_idle_iff (.inl rfl)).1 h)
  | case3 chars ih =>
    rw [List.reverse_cons, List.reverse_cons, List.append_assoc, ← List.append_assoc] at h
    refine ih ?_
    rw [List.reverse_cons, ← List.append_assoc]
    exact (stands_idle_iff (.inl rfl)).2 ((stands_idle_iff (.inr rfl)).1 h)
  | case4 => exact h

end Node

namespace Disk

variable {top found : Node} {here root name : String} {entries : Entries}

theorem ofTree_eq_ok_iff {path : String} : ofTree top here path = .ok found ↔
    path ≠ "" ∧ ¬ Path.isLong path ∧
      top.Stands ((Path.front here path).toList ++ path.toList) found := by
  have hpath : path.isEmpty = true ↔ path = "" := String.isEmpty_iff
  unfold ofTree Node.Stands
  rw [← String.toList_append, ← Path.join_eq_front]
  by_cases hempty : path = ""
  · simp [hempty]
  · by_cases hlong : Path.isLong path = true
    · simp [hempty, hlong]
    · simp [hempty, hlong, Path.components]

/-- A path of idle components leads from the top of a tree to the top. -/
theorem ofTree_of_idle {path : String} (hnonempty : path ≠ "") (hshort : ¬ Path.isLong path)
    (h : ∀ component ∈ Path.components (Path.join here path), Node.IsIdle component) :
    ofTree (.directory entries) here path = .ok (.directory entries) := by
  have hempty : ¬ path.isEmpty = true := by rwa [String.isEmpty_iff]
  unfold ofTree
  rw [if_neg hempty, if_neg hshort]
  exact Node.walk_of_idle h

/-- What is at the path of a name below a directory is the entry of that name. -/
theorem ofTree_join_iff (hname : Node.IsEntryName name)
    (hroot : ofTree top here root = .ok (.directory entries)) :
    ofTree top here (Path.join root name) = .ok found ↔
      ¬ Path.isLong (Path.join root name) ∧ entries.lookup name.toUTF8 = some found := by
  rw [ofTree_eq_ok_iff] at hroot ⊢
  obtain ⟨hnonempty, _, hstands⟩ := hroot
  obtain ⟨stem, hjoin, hstem⟩ := Path.exists_join_eq hnonempty hname.plain
  have hstemStands : top.Stands ((Path.front here root).toList ++ stem) (.directory entries) := by
    rcases hstem with hstem | hstem
    · rwa [hstem] at hstands
    · rw [hstem, ← List.append_assoc] at hstands
      exact (Node.stands_idle_iff (.inl rfl)).1 hstands
  have hjoined : Path.join root name ≠ "" := fun h => by simp [h] at hjoin
  rw [Path.front_join here hnonempty hname.plain, hjoin, ← List.append_assoc,
    Node.stands_name_iff hname]
  constructor
  · rintro ⟨_, hshort, others, hothers, hlookup⟩
    obtain rfl := Node.directory.inj (hstemStands.unique hothers)
    exact ⟨hshort, hlookup⟩
  · rintro ⟨hshort, hlookup⟩
    exact ⟨hjoined, hshort, entries, hstemStands, hlookup⟩

/-- A directory is also at its path without what adds nothing to the end. -/
theorem ofTree_trimmed (h : ofTree top here root = .ok (.directory entries)) :
    ofTree top here (Path.trimmed root) = .ok (.directory entries) := by
  rw [ofTree_eq_ok_iff] at h ⊢
  obtain ⟨hnonempty, hshort, hstands⟩ := h
  have htrimmed := Path.trimmed_ne_empty hnonempty
  obtain ⟨dropped, hdropped⟩ := Path.exists_trimmed_append root
  have hfront : Path.front here root = Path.front here (Path.trimmed root) := by
    conv_lhs => rw [hdropped]
    exact Path.front_append here htrimmed dropped
  refine ⟨htrimmed, ?_, ?_⟩
  · have hsize := Path.size_trimmed_le root
    unfold Path.isLong at hshort ⊢
    rw [decide_eq_true_eq] at hshort ⊢
    omega
  · rw [← hfront]
    rw [← List.reverse_reverse root.toList] at hstands
    rw [Path.trimmed, String.toList_ofList]
    exact hstands.dropIdle

end Disk

end ScreenFlow
