import Capsrv.AlbumFilePath
import Capsrv.AlbumListing

/-! # Directory trees

A tree that a file system can hold, and the readers that answer from it: a path
is opened when it leads to a directory, and what is delivered is in that
directory.
-/

namespace Capsrv

/-! ## Paths below a root -/

namespace Fs

variable {name : Text} (nonempty : name ≠ []) (clean : 0x2f ∉ name)

include nonempty clean

theorem splitPath_name : splitPath name = [name] := by
  rw [splitPath, List.splitOn_eq_singleton clean]
  exact List.filter_cons_of_pos (by simpa using nonempty)

theorem splitPath_name_append (rest : Text) :
    splitPath (name ++ (ascii "/" ++ rest)) = name :: splitPath rest := by
  change splitPath (name ++ 0x2f :: rest) = name :: splitPath rest
  rw [splitPath, List.splitOn_append_cons_self_of_not_mem clean]
  exact List.filter_cons_of_pos (by simpa using nonempty)

theorem splitPath_name_separator : splitPath (name ++ ascii "/") = [name] :=
  splitPath_name_append nonempty clean []

end Fs

/-! ## Trees -/

/-- What can be the name of an entry. -/
structure IsEntryName (name : Text) : Prop where
  nonempty : name ≠ []
  separator : 0x2f ∉ name
  terminator : 0 ∉ name
  length : name.length ≤ Fs.entryNameLengthMax

/-- What is left of a name that has been cut is one name. -/
theorem IsEntryName.splitPath_take {name : Text} (named : IsEntryName name) {length : Nat}
    (positive : 0 < length) : Fs.splitPath (name.take length) = [name.take length] := by
  apply Fs.splitPath_name
  · intro empty
    rcases List.take_eq_nil_iff.mp empty with none | none
    · omega
    · exact named.nonempty none
  · exact fun member => named.separator (List.mem_of_mem_take member)

/-- The directories hold entries with names of their own. -/
structure Node.WellNamed (node : Node) : Prop where
  names : ∀ path children, node.find path = some (.directory children) →
    ∀ child ∈ children, IsEntryName child.1
  distinct : ∀ path children, node.find path = some (.directory children) →
    (children.map (·.1)).Nodup

structure DirectoryTree where
  children : List (Text × Node)
  wellNamed : (Node.directory children).WellNamed

namespace DirectoryTree

def root (tree : DirectoryTree) : Node :=
  .directory tree.children

def IsDirectory (tree : DirectoryTree) (names : List Text) : Prop :=
  ∃ children, tree.root.find names = some (.directory children)

/-- What is in the directory at a path, if there is one. -/
def childrenAt (tree : DirectoryTree) (rootPath path : Text) : Option (List (Text × Node)) :=
  if rootPath <+: path then
    match tree.root.find (Fs.splitPath (path.drop rootPath.length)) with
    | some (.directory children) => some children
    | _ => none
  else none

end DirectoryTree

/-- The reader opens the directories of the tree, in either mode and nothing
else. What it delivers is there, each entry once; a failing `ReadDirectory` can
keep the rest back. -/
structure DirectoryReader.Reads (reader : DirectoryReader) (rootPath : Text)
    (tree : DirectoryTree) : Prop where
  opens : ∀ path mode, (∃ entries, reader.openDirectory path mode = .ok entries) ↔
    ∃ children, tree.childrenAt rootPath path = some children
  delivers : ∀ path mode entries children, reader.openDirectory path mode = .ok entries →
    tree.childrenAt rootPath path = some children →
    (delivered entries).Subperm (Node.entries mode children)

/-! ## Entries and directories -/

namespace Node

theorem find_append_singleton (node : Node) (names : List Text) (name : Text) :
    node.find (names ++ [name]) = (node.find names).bind (·.child name) := by
  rw [find, List.foldlM_append]
  change ((node.find names).bind fun node => (node.child name).bind some) = _
  simp only [Option.bind_fun_some]

theorem mem_entries_directory {children : List (Text × Node)} {entry : DirectoryEntry} :
    entry ∈ entries .directory children ↔
      ∃ below, (entry.name, directory below) ∈ children ∧ entry = ⟨entry.name, 0⟩ := by
  rw [entries, List.mem_filterMap]
  constructor
  · intro found
    rcases found with ⟨⟨name, node⟩, member, delivered⟩
    cases node with
    | file content => cases delivered
    | directory below =>
        cases delivered
        exact ⟨below, member, rfl⟩
  · intro found
    rcases found with ⟨below, member, named⟩
    refine ⟨(entry.name, directory below), member, ?_⟩
    rw [named]

variable {node : Node} {path : List Text} {children : List (Text × Node)} {name : Text}

theorem WellNamed.child_of_mem (wellNamed : node.WellNamed)
    (found : node.find path = some (.directory children)) {below : Node}
    (member : (name, below) ∈ children) : (directory children).child name = some below := by
  rw [child]
  cases first : children.find? (·.1 = name) with
  | none =>
      have different := List.find?_eq_none.mp first (name, below) member
      exact absurd (decide_eq_true rfl) different
  | some other =>
      have same : other.1 = name := by simpa using List.find?_some first
      have equal : other = (name, below) :=
        List.inj_on_of_nodup_map (wellNamed.distinct path children found)
          (List.mem_of_find?_eq_some first) member same
      rw [equal, Option.map_some]

theorem mem_of_child {below : Node} (found : (directory children).child name = some below) :
    (name, below) ∈ children := by
  rw [child] at found
  rcases Option.map_eq_some_iff.mp found with ⟨⟨other, node⟩, first, same⟩
  have named : other = name := by simpa using List.find?_some first
  rw [← named, ← same]
  exact List.mem_of_find?_eq_some first

end Node

namespace Node

theorem wellNamed_empty : (directory []).WellNamed := by
  have nothing : ∀ path children, (directory []).find path = some (.directory children) →
      children = [] := by
    intro path children found
    cases path with
    | nil =>
        cases found
        rfl
    | cons name path => cases found
  constructor
  · intro path children found child member
    rw [nothing path children found] at member
    cases member
  · intro path children found
    rw [nothing path children found]
    exact List.nodup_nil

theorem wellNamed_singleton {name : Text} {below : Node} (named : IsEntryName name)
    (wellNamed : below.WellNamed) : (directory [(name, below)]).WellNamed := by
  have either : ∀ path children, (directory [(name, below)]).find path =
      some (.directory children) →
      children = [(name, below)] ∨ ∃ rest, below.find rest = some (.directory children) := by
    intro path children found
    cases path with
    | nil =>
        cases found
        exact .inl rfl
    | cons first rest =>
        rw [find_cons] at found
        rcases Option.bind_eq_some_iff.mp found with ⟨child, inside, foundBelow⟩
        have same := List.mem_singleton.mp (mem_of_child inside)
        cases same
        exact .inr ⟨rest, foundBelow⟩
  constructor
  · intro path children found child member
    rcases either path children found with isHere | isBelow
    · rw [isHere] at member
      rw [List.mem_singleton.mp member]
      exact named
    · rcases isBelow with ⟨rest, foundBelow⟩
      exact wellNamed.names rest children foundBelow child member
  · intro path children found
    rcases either path children found with isHere | isBelow
    · rw [isHere]
      exact List.nodup_singleton _
    · rcases isBelow with ⟨rest, foundBelow⟩
      exact wellNamed.distinct rest children foundBelow

end Node

namespace DirectoryTree

variable {tree : DirectoryTree} {names : List Text} {name rootPath : Text}

theorem isDirectory_append_singleton :
    tree.IsDirectory (names ++ [name]) ↔
      ∃ children below, tree.root.find names = some (.directory children) ∧
        (name, Node.directory below) ∈ children := by
  constructor
  · intro isDirectory
    rcases isDirectory with ⟨below, found⟩
    rw [Node.find_append_singleton] at found
    rcases Option.bind_eq_some_iff.mp found with ⟨parent, foundParent, child⟩
    cases parent with
    | file content => cases child
    | directory children => exact ⟨children, below, foundParent, Node.mem_of_child child⟩
  · intro member
    rcases member with ⟨children, below, found, member⟩
    have child := tree.wellNamed.child_of_mem found member
    refine ⟨below, ?_⟩
    rw [Node.find_append_singleton, found]
    exact child

theorem IsDirectory.parent (isDirectory : tree.IsDirectory (names ++ [name])) :
    tree.IsDirectory names := by
  rcases isDirectory_append_singleton.mp isDirectory with ⟨children, below, found, member⟩
  exact ⟨children, found⟩

theorem IsDirectory.isEntryName (isDirectory : tree.IsDirectory (names ++ [name])) :
    IsEntryName name := by
  rcases isDirectory_append_singleton.mp isDirectory with ⟨children, below, found, member⟩
  exact tree.wellNamed.names names children found (name, .directory below) member

theorem childrenAt_append (below : Text) (children : List (Text × Node)) :
    tree.childrenAt rootPath (rootPath ++ below) = some children ↔
      tree.root.find (Fs.splitPath below) = some (.directory children) := by
  rw [childrenAt, if_pos (List.prefix_append rootPath below), List.drop_left]
  split
  · rename_i found
    rw [found, Option.some.injEq, Option.some.injEq, Node.directory.injEq]
  · rename_i notDirectory
    constructor
    · intro impossible
      cases impossible
    · exact fun found => absurd found (notDirectory children)

end DirectoryTree

/-- What is delivered for a directory is a directory in it. -/
theorem DirectoryReader.Reads.isDirectory {reader : DirectoryReader} {rootPath below : Text}
    {tree : DirectoryTree} (reads : reader.Reads rootPath tree)
    {entries : List (Except Result DirectoryEntry)}
    (opened : reader.openDirectory (rootPath ++ below) .directory = .ok entries)
    {entry : DirectoryEntry} (member : entry ∈ delivered entries) :
    tree.IsDirectory (Fs.splitPath below ++ [entry.name]) := by
  rcases (reads.opens _ _).mp ⟨entries, opened⟩ with ⟨children, found⟩
  have inDirectory := (reads.delivers _ _ _ _ opened found).subset member
  rcases Node.mem_entries_directory.mp inDirectory with ⟨inside, child, -⟩
  exact DirectoryTree.isDirectory_append_singleton.mpr
    ⟨children, inside, (DirectoryTree.childrenAt_append below children).mp found, child⟩

/-! ## A reader with a preference

An entry of each directory can be chosen that is delivered first.
-/

def inFront (name : Text) (entries : List DirectoryEntry) : List DirectoryEntry :=
  entries.filter (·.name = name) ++ entries.filter fun entry => !decide (entry.name = name)

theorem inFront_perm (name : Text) (entries : List DirectoryEntry) :
    (inFront name entries).Perm entries :=
  List.filter_append_perm _ entries

theorem exists_inFront {name : Text} {entries : List DirectoryEntry} {entry : DirectoryEntry}
    (member : entry ∈ entries) (named : entry.name = name) :
    ∃ first rest, inFront name entries = first :: rest ∧ first.name = name := by
  have matching : entry ∈ entries.filter (·.name = name) :=
    List.mem_filter.mpr ⟨member, decide_eq_true named⟩
  rw [inFront]
  cases filtered : entries.filter (·.name = name) with
  | nil =>
      rw [filtered] at matching
      cases matching
  | cons first rest =>
      have isMatch : first ∈ entries.filter (·.name = name) := by
        rw [filtered]
        exact List.mem_cons_self
      exact ⟨first, _, rfl, of_decide_eq_true (List.mem_filter.mp isMatch).2⟩

theorem delivered_map_ok (entries : List DirectoryEntry) :
    delivered (entries.map .ok) = entries := by
  induction entries with
  | nil => rfl
  | cons entry entries induction => rw [List.map_cons, delivered, induction]

namespace DirectoryTree

variable (tree : DirectoryTree) (rootPath : Text) (preferred : List Text → Text)

/-- Everything is delivered, the preferred entry of each directory first. -/
def reader : DirectoryReader where
  openDirectory path mode :=
    match tree.childrenAt rootPath path with
    | none => .error Fs.pathNotFound.result
    | some children =>
        .ok ((inFront (preferred (Fs.splitPath (path.drop rootPath.length)))
          (Node.entries mode children)).map .ok)

theorem reads_reader : (tree.reader rootPath preferred).Reads rootPath tree := by
  constructor
  · intro path mode
    simp only [reader]
    cases tree.childrenAt rootPath path with
    | none =>
        apply iff_of_false
        · intro opened
          rcases opened with ⟨entries, impossible⟩
          cases impossible
        · intro found
          rcases found with ⟨children, impossible⟩
          cases impossible
    | some children => exact iff_of_true ⟨_, rfl⟩ ⟨children, rfl⟩
  · intro path mode entries children opened found
    rw [reader] at opened
    simp only [found] at opened
    cases opened
    rw [delivered_map_ok]
    exact (inFront_perm _ _).subperm

variable {tree rootPath preferred}

theorem openDirectory_reader {below name : Text}
    (prefers : preferred (Fs.splitPath below) = name)
    (isDirectory : tree.IsDirectory (Fs.splitPath below ++ [name])) :
    ∃ fileSize later, (tree.reader rootPath preferred).openDirectory (rootPath ++ below)
        .directory =
      .ok ((⟨name, fileSize⟩ :: later : List DirectoryEntry).map .ok) := by
  rcases isDirectory_append_singleton.mp isDirectory with ⟨children, inside, found, member⟩
  have inDirectory : ⟨name, 0⟩ ∈ Node.entries .directory children :=
    Node.mem_entries_directory.mpr ⟨inside, member, rfl⟩
  rcases exists_inFront inDirectory rfl with ⟨⟨first, fileSize⟩, later, front, named⟩
  refine ⟨fileSize, later, ?_⟩
  rw [reader]
  simp only [(childrenAt_append below children).mpr found, List.drop_left, prefers, front]
  rw [show first = name from named]

end DirectoryTree

end Capsrv
