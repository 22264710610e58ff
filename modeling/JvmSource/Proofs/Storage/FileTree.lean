import JvmSource.Storage.FileTree

/-!
# What changes in a file tree

Making directories adds directories where nothing was and leaves the rest of the tree as it is.
Giving a file a content changes no directory, so every path leads where it led before.
-/

namespace JvmSource

namespace FileTree

variable {tree next after : FileTree} {location other here : List Text} {path name : Text}
  {names : List Text} {content : List UInt8}

/-! ## Nodes -/

/-- Removing the entries of a key leaves what is found for every other key. -/
theorem lookup_filter_of_ne {α β : Type} [BEq α] [LawfulBEq α] {key removed : α}
    (h : key ≠ removed) (entries : List (α × β)) :
    (entries.filter (·.1 != removed)).lookup key = entries.lookup key := by
  induction entries with
  | nil => rfl
  | cons entry entries ih =>
    obtain ⟨found, value⟩ := entry
    by_cases hfound : found = removed
    · have hkey : (key == found) = false := beq_false_of_ne (hfound ▸ h)
      simp [hfound, List.lookup_cons, ih, hfound ▸ hkey]
    · simp [hfound, List.lookup_cons, ih]

/-- What is put at a location changes nothing elsewhere. -/
theorem node?_put_of_ne (h : other ≠ location) (node : Node) :
    (tree.put location node).node? other = tree.node? other := by
  have hkey : (other == location) = false := beq_false_of_ne h
  simp only [node?, put, List.lookup_cons, hkey, lookup_filter_of_ne h]

/-- What is put where no directory lies is found there. -/
theorem node?_put_self (h : tree.node? location ≠ some .directory) (node : Node) :
    (tree.put location node).node? location = some node := by
  unfold node? at h ⊢
  split at h
  · exact absurd rfl h
  · rename_i hname
    simp [hname, put]

/-- The content at a location is that of the node there. -/
theorem content?_congr (h : after.node? location = tree.node? location) :
    after.content? location = tree.content? location := by
  rw [content?, content?, h]

/-- A location has a content exactly when a file lies there. -/
theorem content?_eq_some_iff :
    tree.content? location = some content ↔ tree.node? location = some (.file content) := by
  unfold content?
  split <;> simp_all

/-- A path leads to the location of its last name in the directory of the names before, if that is a
directory and the path is admitted. -/
theorem locate?_eq_some_iff :
    tree.locate? path = some location ↔ ∃ name directory,
      OutputPath.fileName? path = some name ∧ (Text.split '/' path).getLast? = some name ∧
      admits path = true ∧
      tree.descend? (start path) (OutputPath.components path).dropLast = some directory ∧
      directory ++ [name] = location := by
  simp only [locate?, Option.bind_eq_bind, Option.bind_eq_some_iff, Option.ite_none_right_eq_some,
    Bool.and_eq_true, beq_iff_eq]
  constructor
  · rintro ⟨name, hname, last, hlast, ⟨hadmits, rfl⟩, directory, hdirectory, hlocation⟩
    exact ⟨last, directory, hname, hlast, hadmits, hdirectory, Option.some.inj hlocation⟩
  · rintro ⟨name, directory, hname, hlast, hadmits, hdirectory, rfl⟩
    exact ⟨name, hname, name, hlast, ⟨hadmits, rfl⟩, directory, hdirectory, rfl⟩

/-! ## Making directories -/

/-- The second tree is the first one with directories where nothing was. -/
def AddsDirectories (tree after : FileTree) : Prop :=
  ∀ location, after.node? location = tree.node? location ∨
    tree.node? location = none ∧ after.node? location = some .directory

namespace AddsDirectories

theorem refl (tree : FileTree) : tree.AddsDirectories tree := fun _ => .inl rfl

/-- What directories are added to may have more added to it. -/
theorem trans (h : tree.AddsDirectories next) (hnext : next.AddsDirectories after) :
    tree.AddsDirectories after := by
  intro location
  rcases hnext location with hsame | ⟨hnone, hdirectory⟩
  · rw [hsame]
    exact h location
  · rcases h location with hsame | ⟨-, hmade⟩
    · exact .inr ⟨hsame ▸ hnone, hdirectory⟩
    · exact absurd (hnone.symm.trans hmade) (by simp)

/-- Putting a directory where nothing lies adds it. -/
theorem put (h : tree.node? location = none) :
    tree.AddsDirectories (tree.put location .directory) := by
  intro other
  by_cases hother : other = location
  · subst hother
    exact .inr ⟨h, node?_put_self (by simp [h]) .directory⟩
  · exact .inl (node?_put_of_ne hother .directory)

/-- No file appears, disappears or changes. -/
theorem content?_eq (h : tree.AddsDirectories after) (location : List Text) :
    after.content? location = tree.content? location := by
  rcases h location with hsame | ⟨hnone, hdirectory⟩
  · exact content?_congr hsame
  · simp [content?, hnone, hdirectory]

/-- Directories stay where they are. -/
theorem node?_eq_directory (h : tree.AddsDirectories after)
    (hlocation : tree.node? location = some .directory) :
    after.node? location = some .directory := by
  rcases h location with hsame | ⟨-, hdirectory⟩
  · exact hsame.trans hlocation
  · exact hdirectory

/-- Names lead where they led before. -/
theorem descend?_eq (h : tree.AddsDirectories after) :
    tree.descend? here names = some location → after.descend? here names = some location := by
  induction names generalizing here with
  | nil => exact id
  | cons name names ih =>
    intro hdescend
    unfold descend? at hdescend ⊢
    split at hdescend
    · rename_i hstep
      simpa [h.node?_eq_directory hstep] using ih hdescend
    · simp at hdescend

/-- A path leads where it led before. -/
theorem locate?_eq (h : tree.AddsDirectories after) (hlocate : tree.locate? path = some location) :
    after.locate? path = some location := by
  obtain ⟨name, directory, hname, hlast, hadmits, hdirectory, rfl⟩ :=
    locate?_eq_some_iff.mp hlocate
  exact locate?_eq_some_iff.mpr
    ⟨name, directory, hname, hlast, hadmits, h.descend?_eq hdirectory, rfl⟩

end AddsDirectories

/-- Making directories one below the other adds directories and does nothing else. -/
theorem addsDirectories_makeFrom (tree : FileTree) (here names : List Text) :
    tree.AddsDirectories (tree.makeFrom here names).2 := by
  induction names generalizing tree here with
  | nil => exact .refl tree
  | cons name names ih =>
    simp only [makeFrom]
    split
    · exact ih tree _
    · exact .refl tree
    · rename_i hnone
      split
      -- the rest is made in the tree that has this directory already
      · exact (AddsDirectories.put hnone).trans (ih _ _)
      · exact .refl tree

/-- Making the directories of a path adds directories and does nothing else. -/
theorem addsDirectories_makeDirectories (tree : FileTree) (path : Text) :
    tree.AddsDirectories (tree.makeDirectories path).2 := by
  unfold makeDirectories
  split
  · exact addsDirectories_makeFrom tree _ _
  · exact .refl tree

/-! ## Giving a file a content -/

/-- Writing a file makes and removes no directory. -/
theorem node?_put_file_eq_directory_iff (h : tree.node? location ≠ some .directory) :
    (tree.put location (.file content)).node? other = some .directory ↔
      tree.node? other = some .directory := by
  by_cases hother : other = location
  · subst hother
    simp [node?_put_self h, h]
  · rw [node?_put_of_ne hother]

/-- Names lead to the same directory in trees with the same directories. -/
theorem descend?_congr
    (h : ∀ location, after.node? location = some .directory ↔
      tree.node? location = some .directory) (here names : List Text) :
    after.descend? here names = tree.descend? here names := by
  induction names generalizing here with
  | nil => rfl
  | cons name names ih =>
    simp only [descend?]
    split
    · rename_i hafter
      simp [(h _).mp hafter, ih]
    · rename_i hafter
      split
      · rename_i htree
        exact absurd ((h _).mpr htree) hafter
      · rfl

/-- A file lies on the way of no path. -/
theorem locate?_put_file (h : tree.node? location ≠ some .directory) (path : Text) :
    (tree.put location (.file content)).locate? path = tree.locate? path := by
  unfold locate?
  simp only [descend?_congr fun _ => node?_put_file_eq_directory_iff h]

/-- A file that has been written has the content that was written. -/
theorem content?_put_file_self (h : tree.node? location ≠ some .directory) :
    (tree.put location (.file content)).content? location = some content :=
  content?_eq_some_iff.mpr (node?_put_self h _)

/-- Writing a file changes no other one. -/
theorem content?_put_file_of_ne (h : other ≠ location) :
    (tree.put location (.file content)).content? other = tree.content? other :=
  content?_congr (node?_put_of_ne h _)

/-- What is overwritten is no directory, and lies where the path leads. -/
theorem exists_put_of_overwrite? (h : tree.overwrite? path content = some after) :
    ∃ location, tree.locate? path = some location ∧ tree.node? location ≠ some .directory ∧
      after = tree.put location (.file content) := by
  unfold overwrite? at h
  obtain ⟨location, hlocate, hput⟩ := Option.bind_eq_some_iff.mp h
  refine ⟨location, hlocate, ?_⟩
  split at hput
  · simp at hput
  · rename_i hnode
    simp_all
  · rename_i hnode
    split at hput <;> simp_all

/-! ## Trees without loose ends -/

/-- Everything lies in a directory. -/
def Closed (tree : FileTree) : Prop :=
  ∀ location name, tree.node? (location ++ [name]) ≠ none → tree.node? location = some .directory

/-- Nothing lies below what is no directory. -/
theorem Closed.node?_append_eq_none (hclosed : tree.Closed)
    (hlocation : tree.node? location ≠ some .directory) (hnames : names ≠ []) :
    tree.node? (location ++ names) = none := by
  induction names generalizing location with
  | nil => exact absurd rfl hnames
  | cons name names ih =>
    have hname : tree.node? (location ++ [name]) = none := by
      refine Option.eq_none_iff_forall_ne_some.mpr fun node hnode => hlocation ?_
      exact hclosed location name (by simp [hnode])
    cases names with
    | nil => exact hname
    | cons next names =>
      have hbelow : tree.node? (location ++ [name] ++ next :: names) = none :=
        ih (by simp [hname]) (by simp)
      simpa using hbelow

/-- A name other than that of the directory above leads down. -/
theorem step_of_ne_up (h : name ≠ up) : step here name = here ++ [name] := if_pos h

/-- Names without steps upwards lead straight down, through directories that are there. -/
theorem Closed.descend?_eq_none (hclosed : tree.Closed) (hup : up ∉ names)
    (h : tree.descend? here names = none) (last : Text) :
    tree.node? (here ++ names ++ [last]) = none := by
  induction names generalizing here with
  | nil => simp [descend?] at h
  | cons name names ih =>
    obtain ⟨hname, hnames⟩ := List.ne_and_not_mem_of_not_mem_cons hup
    unfold descend? at h
    rw [step_of_ne_up hname.symm] at h
    split at h
    · simpa using ih hnames h
    · rename_i hnode
      -- the way ends here, and all that the other names could lead to would lie below
      have hbelow : tree.node? (here ++ [name] ++ (names ++ [last])) = none :=
        hclosed.node?_append_eq_none hnode (by simp)
      simpa using hbelow

/-- Names that lead down only are appended to where they start. -/
theorem descend?_eq_append (hup : up ∉ names) (h : tree.descend? here names = some location) :
    location = here ++ names := by
  induction names generalizing here with
  | nil => simpa [descend?, eq_comm] using h
  | cons name names ih =>
    obtain ⟨hname, hnames⟩ := List.ne_and_not_mem_of_not_mem_cons hup
    unfold descend? at h
    rw [step_of_ne_up hname.symm] at h
    split at h
    · simpa using ih hnames h
    · simp at h

/-- Where a path without steps upwards leads only once directories are made, nothing was. -/
theorem Closed.node?_eq_none_of_locate? (hclosed : tree.Closed)
    (hup : up ∉ OutputPath.components path) (hbefore : tree.locate? path = none)
    (hafter : after.locate? path = some location) : tree.node? location = none := by
  obtain ⟨name, directory, hname, hlast, hadmits, hdirectory, rfl⟩ :=
    locate?_eq_some_iff.mp hafter
  have hup' : up ∉ (OutputPath.components path).dropLast :=
    fun hmem => hup (List.dropLast_subset _ hmem)
  rw [descend?_eq_append hup' hdirectory]
  apply hclosed.descend?_eq_none hup'
  refine Option.eq_none_iff_forall_ne_some.mpr fun found hfound => ?_
  have hlocate := locate?_eq_some_iff.mpr ⟨name, found, hname, hlast, hadmits, hfound, rfl⟩
  simp [hbefore] at hlocate

end FileTree

/-! ## Storage that keeps a tree -/

/-- Storage whose files are those of a tree. It may refuse to make a directory, also after it has
made some that this one lies in, and it may refuse to write a file, which then leaves no trace. -/
structure Storage.KeepsTree (storage : Storage (StateM FileTree)) : Prop where
  run_read : ∀ (path : Text) (tree : FileTree),
    (storage.read path).run tree = (tree.read? path, tree)
  addsDirectories : ∀ (path : Text) (tree : FileTree),
    tree.AddsDirectories ((storage.makeDirectories path).run tree).2
  run_overwrite : ∀ (path : Text) (content : List UInt8) (tree : FileTree),
    (storage.overwrite path content).run tree = (false, tree) ∨
    ∃ location, tree.locate? path = some location ∧ tree.node? location ≠ some .directory ∧
      (storage.overwrite path content).run tree = (true, tree.put location (.file content))

/-- The storage of a file tree keeps to what saving relies on. -/
theorem FileTree.keepsTree_storage : FileTree.storage.KeepsTree where
  run_read _ _ := rfl
  addsDirectories path tree := tree.addsDirectories_makeDirectories path
  run_overwrite path content tree := by
    cases hoverwrite : tree.overwrite? path content with
    | none =>
      left
      simp [storage, StateT.run, hoverwrite]
    | some after =>
      obtain ⟨location, hlocate, hnode, rfl⟩ := exists_put_of_overwrite? hoverwrite
      right
      refine ⟨location, hlocate, hnode, ?_⟩
      simp [storage, StateT.run, hoverwrite]

end JvmSource
