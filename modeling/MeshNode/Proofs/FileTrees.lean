import Mathlib
import MeshNode.FileTree
import MeshNode.Proofs.Outcomes

/-!
# What a tree of files holds after a write

A file that was emptied and written to is read back as what was written, over the path that was
used for all three. Following a path asks only which places are directories and which are there, so
putting a file in the place of another or in an empty place leads no path astray.

`FileSystem.Posix` says what is asked of a file system whose operations may fail at any time: one
that succeeds does to the tree of files, and answers, what the same operation on trees does. What a
failed write leaves behind is open.
-/

namespace MeshNode

namespace FileTree

variable {tree : FileTree} {target place : FilePlace} {path : FilePath}

/-! ## Places -/

theorem lookup_filter_ne (nodes : List (FilePlace × FileNode)) (other : place ≠ target) :
    (nodes.filter (·.1 ≠ target)).lookup place = nodes.lookup place := by
  induction nodes with
  | nil => rfl
  | cons entry rest inductionHypothesis =>
    obtain ⟨here, node⟩ := entry
    by_cases same : here = target
    · subst same
      have unequal : (place == here) = false := by simpa using other
      simpa [List.lookup, unequal] using inductionHypothesis
    · rw [List.filter_cons_of_pos (by simpa using same), List.lookup, List.lookup,
        inductionHypothesis]

theorem node?_put_self (node : FileNode) (below : target ≠ []) :
    (tree.put target node).node? target = some node := by
  simp [node?, put, below]

theorem node?_put_other (node : FileNode) (other : place ≠ target) :
    (tree.put target node).node? place = tree.node? place := by
  have unequal : (place == target) = false := by simpa using other
  simp only [node?, put, List.lookup, unequal, lookup_filter_ne tree.nodes other]

/-- A place that is taken stays taken. -/
theorem isNone_put (node : FileNode) (below : target ≠ [])
    (taken : ¬ (tree.node? place).isNone) : ¬ ((tree.put target node).node? place).isNone := by
  by_cases same : place = target
  · subst same
    simp [node?_put_self node below]
  · rwa [node?_put_other node same]

/-! ## Paths -/

theorem follow_append (start : FilePlace) (front back : List String) :
    tree.follow start (front ++ back) =
      (tree.follow start front).bind fun reached => tree.follow reached back := by
  induction front generalizing start with
  | nil => rfl
  | cons name rest inductionHypothesis =>
    simp only [List.cons_append, follow]
    split
    · simp only [inductionHypothesis]
      split
      · rfl
      · split
        · rfl
        · split <;> rfl
    · rfl
    · rfl

/-- The names of a path lead where they led once a file stands where no directory was. -/
theorem follow_put (node : FileNode) (below : target ≠ [])
    (noDirectory : tree.node? target ≠ some .directory) (start : FilePlace) (names : List String)
    (reached : FilePlace) (led : tree.follow start names = .ok reached) :
    (tree.put target node).follow start names = .ok reached := by
  induction names generalizing start with
  | nil => exact led
  | cons name rest inductionHypothesis =>
    simp only [follow] at led ⊢
    split at led
    case h_2 | h_3 => cases led
    case h_1 passed =>
      have other : start ≠ target := by
        rintro rfl
        exact noDirectory passed
      simp only [node?_put_other node other, passed]
      split at led
      case isTrue upward =>
        rw [if_pos upward]
        exact inductionHypothesis _ led
      case isFalse downward =>
        rw [if_neg downward]
        split at led
        case isTrue => cases led
        case isFalse short =>
          rw [if_neg short]
          split at led
          case isTrue => cases led
          case isFalse taken =>
            rw [if_neg (isNone_put node below taken)]
            exact inductionHypothesis _ led

/-- A file of a tree: the place that a path leads to and what stands there. -/
theorem lookup_eq_file_iff (content : Bytes) (mode : Nat) :
    tree.lookup path = .ok (place, .file content mode) ↔
      check path = .ok () ∧ tree.follow [] path.names = .ok place ∧
        tree.node? place = some (.file content mode) ∧ path.ending = .name := by
  simp only [lookup, Outcome.bind_eq_ok_iff]
  constructor
  · rintro ⟨⟨⟩, checked, reached, led, given⟩
    split at given
    · rename_i standing
      split at given
      · rename_i named
        cases given
        exact ⟨checked, led, standing, named⟩
      · cases given
    · cases given
  · rintro ⟨checked, led, standing, named⟩
    refine ⟨(), checked, place, led, ?_⟩
    simp only [standing, if_pos named]
    rfl

/-- No place but the root's is empty, and the root is a directory. -/
theorem ne_nil_of_file (content : Bytes) (mode : Nat)
    (standing : tree.node? target = some (.file content mode)) : target ≠ [] := by
  rintro rfl
  cases standing

/-- A file is found where it was after its content was replaced. -/
theorem lookup_put (content replaced : Bytes) (mode kept : Nat)
    (found : tree.lookup path = .ok (place, .file content mode)) :
    (tree.put place (.file replaced kept)).lookup path = .ok (place, .file replaced kept) := by
  rw [lookup_eq_file_iff] at found ⊢
  obtain ⟨checked, led, standing, named⟩ := found
  have below := ne_nil_of_file content mode standing
  refine ⟨checked, follow_put _ below (by simp [standing]) _ _ _ led, ?_, named⟩
  exact node?_put_self _ below

/-! ## Reads and writes -/

theorem read_eq_ok_iff (content : Bytes) :
    tree.read path = .ok content ↔
      ∃ place mode, tree.lookup path = .ok (place, .file content mode) := by
  simp only [read, Outcome.bind_eq_ok_iff]
  constructor
  · rintro ⟨⟨place, node⟩, found, given⟩
    cases node with
    | file stored mode =>
      cases given
      exact ⟨place, mode, found⟩
    | directory => cases given
  · rintro ⟨place, mode, found⟩
    exact ⟨_, found, rfl⟩

/-- What can be read is there. -/
theorem exists?_of_read (content : Bytes) (readable : tree.read path = .ok content) :
    tree.exists? path = .ok true := by
  obtain ⟨place, mode, found⟩ := (read_eq_ok_iff content).mp readable
  rw [exists?, found]

theorem directory_eq_ok_iff (names : List String) :
    tree.directory names = .ok place ↔
      tree.follow [] names = .ok place ∧ tree.node? place = some .directory := by
  simp only [directory, Outcome.bind_eq_ok_iff]
  constructor
  · rintro ⟨reached, led, given⟩
    split at given
    · rename_i standing
      cases given
      exact ⟨led, standing⟩
    · cases given
  · rintro ⟨led, standing⟩
    refine ⟨place, led, ?_⟩
    simp only [standing]
    rfl

/-- The name that a path ends in is its last one; it does not lead up, and no dot is behind it. -/
theorem lastName?_eq_some (name : String) (given : path.lastName? = some name) :
    path.names = path.names.dropLast ++ [name] ∧ name ≠ FilePath.up ∧ path.ending ≠ .dot := by
  unfold FilePath.lastName? at given
  split at given
  · cases given
  · rename_i plain
    obtain ⟨last, notUp⟩ := Option.filter_eq_some_iff.mp given
    exact ⟨(List.dropLast_append_getLast? name last).symm, by simpa using notUp, plain⟩

/-- A spot for a new node is a name in a directory. -/
theorem spot_eq_some (above : FilePlace) (name : String)
    (given : tree.spot path = .ok (some (above, name))) :
    check path = .ok () ∧ path.lastName? = some name ∧
      tree.follow [] path.names.dropLast = .ok above ∧ tree.node? above = some .directory := by
  simp only [spot, Outcome.bind_eq_ok_iff] at given
  obtain ⟨⟨⟩, checked, given⟩ := given
  split at given
  · rename_i last named
    obtain ⟨reached, led, same⟩ := (Outcome.bind_eq_ok_iff _ _ _).mp given
    cases same
    exact ⟨checked, named, (directory_eq_ok_iff _).mp led⟩
  · obtain ⟨reached, -, same⟩ := (Outcome.bind_eq_ok_iff _ _ _).mp given
    cases same

/-- A file put below a directory, under the last name of a path, stands where the path leads. -/
theorem lookup_put_spot (above : FilePlace) (name : String)
    (given : tree.spot path = .ok (some (above, name))) (notSlash : path.ending ≠ .slash)
    (short : ¬ FilePath.maxName < name.utf8ByteSize)
    (noDirectory : tree.node? (above ++ [name]) ≠ some .directory) (content : Bytes) (mode : Nat) :
    (tree.put (above ++ [name]) (.file content mode)).lookup path =
      .ok (above ++ [name], .file content mode) := by
  obtain ⟨checked, last, led, isDirectory⟩ := spot_eq_some above name given
  obtain ⟨names, notUp, notDot⟩ := lastName?_eq_some name last
  have below : above ++ [name] ≠ [] := by simp
  have apart : above ≠ above ++ [name] := by simp
  have named : path.ending = .name := by
    cases ending : path.ending with
    | name => rfl
    | slash => exact absurd ending notSlash
    | dot => exact absurd ending notDot
  refine (lookup_eq_file_iff content mode).mpr ⟨checked, ?_, node?_put_self _ below, named⟩
  rw [names, follow_append, follow_put _ below noDirectory _ _ _ led]
  simp only [Except.bind, follow, node?_put_other _ apart, isDirectory, if_neg notUp,
    if_neg short, node?_put_self _ below, Option.isNone_some, Bool.false_eq_true, if_false]

/-- A file that was emptied or created stands, empty, where its path leads. -/
theorem lookup_of_truncate (mode : Nat) (emptied : FileTree)
    (done : tree.truncate mode path = .ok emptied) :
    ∃ place kept, emptied.lookup path = .ok (place, .file [] kept) := by
  simp only [truncate, Outcome.bind_eq_ok_iff] at done
  obtain ⟨found, given, done⟩ := done
  match found with
  | none => cases done
  | some (above, name) =>
    dsimp only at done
    split at done
    · cases done
    rename_i notSlash
    split at done
    · cases done
    rename_i short
    have stands := lookup_put_spot above name given notSlash short
    split at done
    · rename_i _ kept standing
      cases done
      exact ⟨above ++ [name], kept, stands (by simp [standing]) [] kept⟩
    · cases done
    · rename_i free
      cases done
      exact ⟨above ++ [name], mode, stands (by simp [free]) [] mode⟩

/-- Bytes appended to an emptied file are what is read from it. -/
theorem read_of_append (content bytes : Bytes) (mode : Nat) (written : FileTree)
    (found : tree.lookup path = .ok (place, .file content mode))
    (done : tree.append path bytes = .ok written) :
    written.read path = .ok (content ++ bytes) := by
  rw [append, found] at done
  obtain rfl := Except.ok.inj done
  exact (read_eq_ok_iff _).mpr ⟨place, mode, lookup_put content _ mode mode found⟩

/-- A file that was emptied and written to is read back as what was written, whatever it held. -/
theorem read_of_truncate_append (mode : Nat) (bytes : Bytes) (emptied written : FileTree)
    (truncated : tree.truncate mode path = .ok emptied)
    (appended : emptied.append path bytes = .ok written) :
    written.read path = .ok bytes := by
  obtain ⟨place, kept, found⟩ := lookup_of_truncate mode emptied truncated
  exact read_of_append [] bytes kept written found appended

end FileTree

/-! ## File systems that may fail -/

/-- The operations of a file system succeed with the effect and the answer that they have on the
tree of files, or they fail. A failed check or read leaves the tree as it is; a failed write may
leave anything. -/
structure FileSystem.Posix {World : Type} (files : FileSystem World) (tree : World → FileTree) :
    Prop where
  checked : ∀ path world, tree (files.exists? path world).2 = tree world
  checkedOk : ∀ path world answer, (files.exists? path world).1 = .ok answer →
    (tree world).exists? path = .ok answer
  looked : ∀ path world, tree (files.read path world).2 = tree world
  lookedOk : ∀ path world content, (files.read path world).1 = .ok content →
    (tree world).read path = .ok content
  madeOk : ∀ path world, (files.createDirectories path world).1 = .ok () →
    (tree world).createDirectories path = (.ok (), tree (files.createDirectories path world).2)
  emptiedOk : ∀ mode path world, (files.truncate mode path world).1 = .ok () →
    (tree world).truncate mode path = .ok (tree (files.truncate mode path world).2)
  appendedOk : ∀ path bytes world, (files.append path bytes world).1 = .ok () →
    (tree world).append path bytes = .ok (tree (files.append path bytes world).2)

/-- Checks and reads fail only where the tree makes them fail. -/
def FileSystem.Reliable {World : Type} (files : FileSystem World) (tree : World → FileTree) :
    Prop :=
  ∀ path world, (files.exists? path world).1 = (tree world).exists? path ∧
    (files.read path world).1 = (tree world).read path

/-- A change of the tree that succeeds has happened. -/
theorem FileTree.changing_ok (operation : FileTree → Except FileError FileTree) (tree : FileTree)
    (done : (FileTree.changing operation tree).1 = .ok ()) :
    operation tree = .ok (FileTree.changing operation tree).2 := by
  unfold FileTree.changing at done ⊢
  split at done
  · rename_i changed happened
    simp only [happened]
  · cases done

/-- Trees as a file system do what they do. -/
theorem FileTree.fileSystem_posix : FileTree.fileSystem.Posix id where
  checked _ _ := rfl
  checkedOk _ _ _ answered := answered
  looked _ _ := rfl
  lookedOk _ _ _ answered := answered
  madeOk _ _ done := Prod.ext done rfl
  emptiedOk _ _ world := FileTree.changing_ok _ world
  appendedOk _ _ world := FileTree.changing_ok _ world

theorem FileTree.fileSystem_reliable : FileTree.fileSystem.Reliable id := fun _ _ => ⟨rfl, rfl⟩

end MeshNode
