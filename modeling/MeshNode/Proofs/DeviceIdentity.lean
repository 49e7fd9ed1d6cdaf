import Mathlib.Data.List.TakeWhile
import MeshNode.KeyFile
import MeshNode.Proofs.FileTrees
import MeshNode.Proofs.KeyTexts

/-!
# The identity of a device

A device is known by its key, so the key file is written once: a call that finds it leaves it as it
is and returns the key that it writes, or an error. What a successful call left in the file is what
every later call reads, and a saved key is the one that is loaded, whatever stood in the file
before.

The file system may fail at any operation, and what a failed write leaves is open. After a success
only a check or a read can fail a call, and the next call goes on as if nothing had happened.
-/

namespace MeshNode

/-! ## What a key file writes -/

namespace Text

/-- Blanks behind a text without any are dropped. -/
theorem trim_append_blanks (cs blanks : List Char) (visible : ∀ c ∈ cs, isBlank c = false)
    (blank : ∀ c ∈ blanks, isBlank c = true) : trim (cs ++ blanks) = cs := by
  have gone : ∀ c ∈ blanks.reverse, isBlank c = true :=
    fun c member => blank c (List.mem_reverse.mp member)
  cases cs with
  | nil =>
    have front : trimLeft blanks = [] := List.dropWhile_eq_nil_iff.mpr blank
    rw [List.nil_append, trim, front]
    rfl
  | cons c rest =>
    have first : isBlank c = false := visible c List.mem_cons_self
    have reversed : ∀ d ∈ (c :: rest).reverse, isBlank d = false :=
      fun d member => visible d (List.mem_reverse.mp member)
    have front : trimLeft (c :: rest ++ blanks) = c :: rest ++ blanks := by
      simp [trimLeft, first]
    rw [trim, front, trimRight, List.reverse_append, trimLeft,
      List.dropWhile_append_of_pos gone]
    exact (congrArg List.reverse (trimLeft_of_visible _ reversed)).trans (List.reverse_reverse _)

end Text

namespace Bytes

/-- The text that bytes encode is the one that is encoded so. -/
theorem toText?_eq_some_iff (bytes : Bytes) (text : String) :
    toText? bytes = some text ↔ bytes = ofText text := by
  unfold toText? String.fromUTF8?
  rw [ofText_eq]
  constructor
  · intro read
    split at read
    · cases read
      simp [String.fromUTF8]
    · cases read
  · rintro rfl
    have same : (⟨text.toByteArray.data.toList.toArray⟩ : ByteArray) = text.toByteArray := rfl
    rw [dif_pos (same ▸ text.isValidUTF8)]
    rfl

end Bytes

namespace KeyFile

/-- Bytes write a key: they are a text that is, without the blanks around it, the Base64 of the key
with the padding or without it. -/
def Writes (content : Bytes) (key : PrivateKey) : Prop :=
  ∃ text, content = Bytes.ofText text ∧
    (Text.trimmed text = key.toBase64 ∨ Text.trimmed text ++ "=" = key.toBase64)

/-- Private keys are read from their two spellings. -/
theorem ofBase64_eq_ok_iff (text : String) (key : PrivateKey) :
    PrivateKey.ofBase64 text = .ok key ↔
      Text.trimmed text = key.toBase64 ∨ Text.trimmed text ++ "=" = key.toBase64 := by
  have reads := KeyBytes.readsSpellings_of PrivateKey.mk PrivateKey.material fun _ _ =>
    ⟨fun same => congrArg PrivateKey.material same, fun same => congrArg PrivateKey.mk same⟩
  exact reads.accepts text key

/-- The key that is read from a file is the one that its content writes. -/
theorem decode_eq_ok_iff (content : Bytes) (key : PrivateKey) :
    decode content = .ok key ↔ Writes content key := by
  constructor
  · intro read
    unfold decode at read
    split at read
    · cases read
    · rename_i text shown
      split at read
      · rename_i spelled
        cases read
        exact ⟨text, (Bytes.toText?_eq_some_iff _ _).mp shown, (ofBase64_eq_ok_iff _ _).mp spelled⟩
      · cases read
  · rintro ⟨text, rfl, spelled⟩
    have shown := (Bytes.toText?_eq_some_iff _ text).mpr rfl
    simp only [decode, shown, (ofBase64_eq_ok_iff text key).mpr spelled]

/-- A saved key is written in its file. -/
theorem writes_encode (key : PrivateKey) : Writes (encode key) key := by
  refine ⟨key.toBase64 ++ "\n", rfl, Or.inl ?_⟩
  have visible : ∀ c ∈ key.toBase64.toList, Text.isBlank c = false := by
    intro c member
    rw [PrivateKey.toBase64, KeyBytes.toBase64, Base64.encode, String.toList_ofList] at member
    exact (Base64.stands_encodeChars _ c member).2
  have blank : ∀ c ∈ ['\n'], Text.isBlank c = true := by
    intro c member
    rw [List.mem_singleton.mp member]
    rfl
  rw [Text.trimmed, String.toList_append]
  exact (congrArg String.ofList (Text.trim_append_blanks _ _ visible blank)).trans
    String.ofList_toList

/-! ## One call -/

/-- The check or the read of a path fails in a call. -/
def Denied {World : Type} (files : FileSystem World) (path : FilePath) (world : World)
    (error : FileError) : Prop :=
  (files.exists? path world).1 = .error error ∨
    (files.read path (files.exists? path world).2).1 = .error error

section Calls

variable {World : Type} {files : FileSystem World} {tree : World → FileTree}
  (posix : files.Posix tree)

include posix

/-- Loading reads a key from the content of the file, and fails only if the reading does. -/
theorem load_cases (path : FilePath) (world : World) :
    tree (load files path world).2 = tree world ∧
      ((∃ content, (tree world).read path = .ok content ∧
          (load files path world).1 = decode content) ∨
        ∃ error, (files.read path world).1 = .error error ∧
          (load files path world).1 = .error (.access error)) := by
  have same := posix.looked path world
  have answered := posix.lookedOk path world
  unfold load
  split
  · rename_i error after failed
    rw [failed] at same ⊢
    exact ⟨same, Or.inr ⟨error, rfl, rfl⟩⟩
  · rename_i content after read
    rw [read] at same answered
    exact ⟨same, Or.inl ⟨content, answered content rfl, rfl⟩⟩

/-- A file that a key was saved to holds its line and nothing else. -/
theorem read_of_save (key : PrivateKey) (path : FilePath) (world : World)
    (saved : (save files key path world).1 = .ok ()) :
    (tree (save files key path world).2).read path = .ok (encode key) := by
  unfold save at saved ⊢
  split at saved
  · cases saved
  rename_i made making
  split at saved
  · cases saved
  rename_i emptied emptying
  split at saved
  · cases saved
  rename_i written writing
  have truncated := posix.emptiedOk mode path made
  have appended := posix.appendedOk path (encode key) emptied
  rw [emptying] at truncated
  rw [writing] at appended
  exact FileTree.read_of_truncate_append mode (encode key) _ _ (truncated rfl) (appended rfl)

/-- A call that finds something in the place of the key file changes nothing and loads it, unless
the check fails. -/
theorem getOrCreate_of_found (fresh : PrivateKey) (directory : FilePath) (world : World)
    (found : (tree world).exists? (directory.child name) ≠ .ok false) :
    tree (getOrCreate files fresh directory world).2 = tree world ∧
      ((∃ content, (tree world).read (directory.child name) = .ok content ∧
          (getOrCreate files fresh directory world).1 = decode content) ∨
        ∃ error, Denied files (directory.child name) world error ∧
          (getOrCreate files fresh directory world).1 = .error (.access error)) := by
  have same := posix.checked (directory.child name) world
  have answered := posix.checkedOk (directory.child name) world
  unfold getOrCreate
  dsimp only
  split
  · rename_i error after failed
    rw [failed] at same
    exact ⟨same, Or.inr ⟨error, Or.inl (by rw [failed]), rfl⟩⟩
  · rename_i after there
    rw [there] at same answered
    obtain ⟨unchanged, outcome⟩ := load_cases posix (directory.child name) after
    refine ⟨unchanged.trans same, ?_⟩
    rcases outcome with ⟨content, read, loaded⟩ | ⟨error, failed, loaded⟩
    · exact Or.inl ⟨content, same ▸ read, loaded⟩
    · exact Or.inr ⟨error, Or.inr (by rw [there]; exact failed), loaded⟩
  · rename_i after missing
    rw [missing] at answered
    exact absurd (answered false rfl) found

/-- After a call that gave a key the file writes it. -/
theorem read_of_getOrCreate (fresh key : PrivateKey) (directory : FilePath) (world : World)
    (given : (getOrCreate files fresh directory world).1 = .ok key) :
    ∃ content, Writes content key ∧
      (tree (getOrCreate files fresh directory world).2).read (directory.child name) =
        .ok content := by
  by_cases found : (tree world).exists? (directory.child name) = .ok false
  case neg =>
    obtain ⟨unchanged, ⟨content, read, loaded⟩ | ⟨error, -, failed⟩⟩ :=
      getOrCreate_of_found posix fresh directory world found
    · exact ⟨content, (decode_eq_ok_iff content key).mp (loaded ▸ given), unchanged ▸ read⟩
    · rw [failed] at given
      cases given
  case pos =>
    have answered := posix.checkedOk (directory.child name) world
    unfold getOrCreate at given ⊢
    dsimp only at given ⊢
    split at given
    · cases given
    · rename_i there
      rw [there] at answered
      rw [answered true rfl] at found
      cases found
    · rename_i after missing
      split at given
      · cases given
      · rename_i written saving
        cases given
        have saved := read_of_save posix fresh (directory.child name) after
        rw [saving] at saved
        exact ⟨encode fresh, writes_encode fresh, saved rfl⟩

end Calls

/-! ## Runs -/

section Runs

variable {World : Type} (files : FileSystem World) (tree : World → FileTree) (directory : FilePath)

/-- The state after a device asked for its key again and again, each time with a fresh key for the
case that there is none. -/
def worldAfter (freshKeys : List PrivateKey) (world : World) : World :=
  freshKeys.foldl (fun world fresh => (getOrCreate files fresh directory world).2) world

/-- A key file that is there and can be read is left alone by every run of calls. -/
theorem read_worldAfter (posix : files.Posix tree) (content : Bytes)
    (freshKeys : List PrivateKey) (world : World)
    (stored : (tree world).read (directory.child name) = .ok content) :
    (tree (worldAfter files directory freshKeys world)).read (directory.child name) =
      .ok content := by
  induction freshKeys generalizing world with
  | nil => exact stored
  | cons fresh rest inductionHypothesis =>
    have found : (tree world).exists? (directory.child name) ≠ .ok false := by
      rw [FileTree.exists?_of_read content stored]
      decide
    have unchanged := (getOrCreate_of_found posix fresh directory world found).1
    exact inductionHypothesis _ (unchanged ▸ stored)

/-- The calls for the key of a device have one outcome for ever: what is in the file. -/
structure StableIdentity : Prop where
  /-- A call that finds a key file, whatever is in it and even if it cannot be read, changes nothing
  and returns the key that the file writes, or an error. -/
  untouched : ∀ fresh world, (tree world).exists? (directory.child name) ≠ .ok false →
    tree (getOrCreate files fresh directory world).2 = tree world ∧
      ∀ key, (getOrCreate files fresh directory world).1 = .ok key →
        ∃ content, (tree world).read (directory.child name) = .ok content ∧ Writes content key
  /-- Once a call has returned a key, the file keeps its content, and every later call returns the
  key, or the failure of its check or its read. -/
  constant : ∀ fresh key world, (getOrCreate files fresh directory world).1 = .ok key →
    ∃ content, Writes content key ∧ ∀ others later,
      later = worldAfter files directory others (getOrCreate files fresh directory world).2 →
        (tree later).read (directory.child name) = .ok content ∧
          ∀ other, (getOrCreate files other directory later).1 = .ok key ∨
            ∃ error, Denied files (directory.child name) later error ∧
              (getOrCreate files other directory later).1 = .error (.access error)
  /-- A key that was saved is the one that is loaded, whatever was in the file, unless the read
  fails. -/
  saved : ∀ key path world after, save files key path world = (.ok (), after) →
    (tree after).read path = .ok (encode key) ∧
      ((load files path after).1 = .ok key ∨
        ∃ error, (files.read path after).1 = .error error ∧
          (load files path after).1 = .error (.access error))

/-- The same without failures: every later call returns the key, and every saved key is loaded. -/
structure CertainIdentity : Prop where
  constant : ∀ fresh key world, (getOrCreate files fresh directory world).1 = .ok key →
    ∀ others other, (getOrCreate files other directory
      (worldAfter files directory others (getOrCreate files fresh directory world).2)).1 = .ok key
  saved : ∀ key path world after, save files key path world = (.ok (), after) →
    (load files path after).1 = .ok key

variable {files tree}

theorem stableIdentity (posix : files.Posix tree) : StableIdentity files tree directory where
  untouched fresh world found := by
    obtain ⟨unchanged, outcome⟩ := getOrCreate_of_found posix fresh directory world found
    refine ⟨unchanged, fun key given => ?_⟩
    rcases outcome with ⟨content, read, loaded⟩ | ⟨error, -, failed⟩
    · exact ⟨content, read, (decode_eq_ok_iff content key).mp (loaded ▸ given)⟩
    · rw [failed] at given
      cases given
  constant fresh key world given := by
    obtain ⟨content, writes, stored⟩ := read_of_getOrCreate posix fresh key directory world given
    refine ⟨content, writes, ?_⟩
    rintro others later rfl
    have still := read_worldAfter files tree directory posix content others _ stored
    refine ⟨still, fun other => ?_⟩
    have found := FileTree.exists?_of_read content still
    obtain ⟨-, ⟨again, read, loaded⟩ | failed⟩ :=
      getOrCreate_of_found posix other directory _ (by rw [found]; decide)
    · obtain rfl : content = again := Except.ok.inj (still.symm.trans read)
      exact Or.inl (loaded.trans ((decode_eq_ok_iff content key).mpr writes))
    · exact Or.inr failed
  saved key path world after done := by
    have stored := read_of_save posix key path world (by rw [done])
    rw [done] at stored
    refine ⟨stored, ?_⟩
    obtain ⟨-, ⟨again, read, loaded⟩ | failed⟩ := load_cases posix path after
    · obtain rfl : encode key = again := Except.ok.inj (stored.symm.trans read)
      exact Or.inl (loaded.trans ((decode_eq_ok_iff _ key).mpr (writes_encode key)))
    · exact Or.inr failed

/-- Where checks and reads answer as the tree does, a file that is there is not denied. -/
theorem not_denied (posix : files.Posix tree) (reliable : files.Reliable tree) (path : FilePath)
    (world : World) (content : Bytes) (stored : (tree world).read path = .ok content)
    (error : FileError) : ¬ Denied files path world error := by
  rintro (failed | failed)
  · rw [(reliable path world).1, FileTree.exists?_of_read content stored] at failed
    cases failed
  · rw [(reliable path _).2, posix.checked, stored] at failed
    cases failed

theorem certainIdentity (posix : files.Posix tree) (reliable : files.Reliable tree) :
    CertainIdentity files directory where
  constant fresh key world given others other := by
    have stable := stableIdentity directory posix
    obtain ⟨content, -, afterwards⟩ := stable.constant fresh key world given
    obtain ⟨still, later⟩ := afterwards others _ rfl
    rcases later other with same | ⟨error, denied, -⟩
    · exact same
    · exact absurd denied (not_denied posix reliable _ _ content still error)
  saved key path world after done := by
    obtain ⟨stored, same | ⟨error, failed, -⟩⟩ :=
      (stableIdentity directory posix).saved key path world after done
    · exact same
    · rw [(reliable path after).2, stored] at failed
      cases failed

/-- On every file system whose operations take effect or fail, the identity of a device is stable:
a key file is never replaced, and after the first success there is one key for ever. -/
theorem device_identity_stable (posix : files.Posix tree) :
    StableIdentity files tree directory ∧
      (files.Reliable tree → CertainIdentity files directory) :=
  ⟨stableIdentity directory posix, certainIdentity directory posix⟩

end Runs

/-! ## A file system that fails now and then -/

namespace Unsteady

/-- An operation that fails where a plan says so. A failed one may break the tree. -/
def unsteady {α : Type} (operation : FileTree → Except FileError α × FileTree)
    (broken : FileTree → FileTree) :
    List Bool × FileTree → Except FileError α × (List Bool × FileTree)
  | (true :: plan, tree) => (.error (.other "Input/output error (os error 5)"), plan, broken tree)
  | (plan, tree) => ((operation tree).1, plan.tail, (operation tree).2)

/-- Trees whose operations fail as planned. Half of the bytes get to the file before a write
fails. -/
def files : FileSystem (List Bool × FileTree) where
  exists? path := unsteady (FileTree.fileSystem.exists? path) id
  read path := unsteady (FileTree.fileSystem.read path) id
  createDirectories path := unsteady (FileTree.fileSystem.createDirectories path) id
  truncate mode path := unsteady (FileTree.fileSystem.truncate mode path) id
  append path bytes := unsteady (FileTree.fileSystem.append path bytes) fun tree =>
    (FileTree.fileSystem.append path (bytes.take (bytes.length / 2)) tree).2

section Operations

variable {α : Type} (operation : FileTree → Except FileError α × FileTree)
  (broken : FileTree → FileTree) (world : List Bool × FileTree)

/-- What does not fail does what it does on trees. -/
theorem unsteady_ok (answer : α) (done : (unsteady operation broken world).1 = .ok answer) :
    operation world.2 = (.ok answer, (unsteady operation broken world).2.2) := by
  unfold unsteady at done ⊢
  split at done
  · cases done
  · exact Prod.ext done rfl

/-- What breaks nothing and changes nothing leaves the tree alone. -/
theorem unsteady_still (still : ∀ tree, (operation tree).2 = tree) :
    (unsteady operation id world).2.2 = world.2 := by
  unfold unsteady
  split
  · rfl
  · exact still _

end Operations

theorem files_posix : files.Posix Prod.snd where
  checked path world := unsteady_still _ world fun _ => rfl
  checkedOk path world answer done := congrArg Prod.fst (unsteady_ok _ _ world answer done)
  looked path world := unsteady_still _ world fun _ => rfl
  lookedOk path world content done := congrArg Prod.fst (unsteady_ok _ _ world content done)
  madeOk path world done := unsteady_ok _ _ world () done
  emptiedOk mode path world done := by
    have same := unsteady_ok _ _ world () done
    rw [FileTree.changing_ok _ world.2 (congrArg Prod.fst same)]
    exact congrArg (fun outcome => Except.ok outcome.2) same
  appendedOk path bytes world done := by
    have same := unsteady_ok _ _ world () done
    rw [FileTree.changing_ok _ world.2 (congrArg Prod.fst same)]
    exact congrArg (fun outcome => Except.ok outcome.2) same

def directory : FilePath := .ofText "state"

def first : PrivateKey := ⟨List.replicate 32 21, by decide⟩

def second : PrivateKey := ⟨List.replicate 32 22, by decide⟩

/-- Two starts: the fifth operation is the check of the second one. -/
def start : List Bool × FileTree := ([false, false, false, false, true], {})

/-- The same, but the first write of the key breaks off. -/
def brokenStart : List Bool × FileTree := ([false, false, false, true], {})

end Unsteady

open Unsteady in
/-- The key of the first start survives a failed check, and a broken key file is not replaced. -/
theorem device_identity_stable_unsteady :
    files.Posix Prod.snd ∧ StableIdentity files Prod.snd directory ∧
      CertainIdentity FileTree.fileSystem directory ∧
      (getOrCreate files first directory start).1 = .ok first ∧
      (getOrCreate files second directory (worldAfter files directory [first] start)).1 =
        .error (.access (.other "Input/output error (os error 5)")) ∧
      (getOrCreate files second directory (worldAfter files directory [first, second] start)).1 =
        .ok first ∧
      (getOrCreate files second directory (worldAfter files directory [first] brokenStart)).1 =
        .error (.invalidFormat (.invalidBase64 (.invalidLastSymbol 82 21))) :=
  ⟨files_posix, (device_identity_stable directory files_posix).1,
    (device_identity_stable directory FileTree.fileSystem_posix).2 FileTree.fileSystem_reliable,
    by decide +kernel, by decide +kernel, by decide +kernel, by decide +kernel⟩

end KeyFile

end MeshNode
