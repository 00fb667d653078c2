import Mathlib.Data.List.Infix
import Mathlib.Data.List.Sort
import Mathlib.Data.String.Basic

/-
This file gives the identity of a source tree and shows which trees it determines.
-/

namespace KSlide
open List
namespace SourceTree

@[ext] structure SourceFile where
  relative : String
  symlink : Bool
  content : List UInt8
deriving DecidableEq

def encode (text : String) : List UInt8 := text.toList.flatMap String.utf8EncodeChar

/-- A zero byte stands between the name and the content, and nothing ends the content. -/
def frame (file : SourceFile) : List UInt8 := encode file.relative ++ 0 :: file.content

def pathParts (relative : String) : List String :=
  (relative.toList.splitOn '/').map String.ofList

def selectable (file : SourceFile) : Bool :=
  !(file.symlink || (pathParts file.relative).elem ".git")

def sourceTreeStream (selected : List SourceFile) : List UInt8 :=
  ((selected.insertionSort fun first second => first.relative ≤ second.relative).filter
    selectable).flatMap frame

def sourceTreeSha256 (sha256 : List UInt8 → String) (selected : List SourceFile) : String :=
  sha256 (sourceTreeStream selected)

theorem encode_injective {first second : String} (same : encode first = encode second) :
    first = second := by
  have bytes (text : String) : text.toByteArray = (encode text).toByteArray := by
    rw [← String.utf8Encode_toList]
    rfl
  rw [← String.toByteArray_inj, bytes, bytes, same]

theorem zero_not_mem_encodeChar {letter : Char} (filled : letter.toNat ≠ 0) :
    0 ∉ String.utf8EncodeChar letter := by
  have nonzero {value : Nat} (large : 0 < value % 256) : UInt8.ofNat value ≠ 0 := by
    intro same
    have cut : value % 256 = 0 := by
      rw [← UInt8.toNat_ofNat', same]
      rfl
    omega
  have known : 0 < letter.val.toNat := Nat.pos_of_ne_zero filled
  rw [String.utf8EncodeChar]
  intro listed
  split at listed
  · exact nonzero (by omega) (mem_singleton.mp listed).symm
  · split at listed
    · simp only [mem_cons, not_mem_nil, or_false] at listed
      rcases listed with same | same
      · exact nonzero (by omega) same.symm
      · exact nonzero (by omega) same.symm
    · split at listed
      · simp only [mem_cons, not_mem_nil, or_false] at listed
        rcases listed with same | same | same
        · exact nonzero (by omega) same.symm
        · exact nonzero (by omega) same.symm
        · exact nonzero (by omega) same.symm
      · simp only [mem_cons, not_mem_nil, or_false] at listed
        rcases listed with same | same | same | same
        · exact nonzero (by omega) same.symm
        · exact nonzero (by omega) same.symm
        · exact nonzero (by omega) same.symm
        · exact nonzero (by omega) same.symm

theorem zero_not_mem_encode {text : String}
    (filled : ∀ letter ∈ text.toList, letter.toNat ≠ 0) : 0 ∉ encode text := by
  intro listed
  obtain ⟨letter, known, inside⟩ := mem_flatMap.mp listed
  exact zero_not_mem_encodeChar (filled letter known) inside

theorem split_first {A : Type} {mark : A} {first second left right : List A}
    (one : mark ∉ first) (other : mark ∉ second)
    (same : first ++ mark :: left = second ++ mark :: right) : first = second ∧ left = right := by
  induction first generalizing second with
  | nil =>
    cases second with
    | nil => exact ⟨rfl, (List.cons.inj same).2⟩
    | cons head tail => exact absurd ((List.cons.inj same).1 ▸ mem_cons_self) other
  | cons head first ih =>
    cases second with
    | nil => exact absurd ((List.cons.inj same).1 ▸ mem_cons_self) one
    | cons next second =>
      obtain ⟨heads, tails⟩ := List.cons.inj same
      obtain ⟨firsts, lefts⟩ := ih (fun listed => one (mem_cons_of_mem _ listed))
        (fun listed => other (mem_cons_of_mem _ listed)) tails
      exact ⟨by rw [heads, firsts], lefts⟩

/-- The path of a regular file below the root has no zero letter and no `.git` component. -/
structure RegularPath (relative : String) : Prop where
  parts : ∀ part ∈ pathParts relative, part ∉ ["", ".", "..", ".git"]
  filled : ∀ letter ∈ relative.toList, letter.toNat ≠ 0

/-- No file is a folder of another one. -/
def Apart (first second : String) : Prop :=
  ¬ first.toList ++ ['/'] <+: second.toList ∧ ¬ second.toList ++ ['/'] <+: first.toList

/-- A tree holds regular files, which the walk meets in any order. -/
structure Tree where
  files : List SourceFile
  regular : ∀ file ∈ files, file.symlink = false ∧ RegularPath file.relative
  distinct : (files.map SourceFile.relative).Nodup
  apart : ∀ first ∈ files, ∀ second ∈ files, Apart first.relative second.relative

/-- The map from the paths to the contents. -/
def Tree.contentAt (tree : Tree) (relative : String) : Option (List UInt8) :=
  (tree.files.find? fun file => file.relative == relative).map SourceFile.content

def Tree.sorted (tree : Tree) : List SourceFile :=
  tree.files.insertionSort fun first second => first.relative ≤ second.relative

/-- The content of a file holds the name of another file before a zero byte. -/
def Imitates (file : SourceFile) : Prop :=
  ∃ before name after, file.content = before ++ encode name ++ 0 :: after ∧ RegularPath name ∧
    file.relative < name ∧ Apart file.relative name

/-- The tree has no file, or one file whose content is not read as a second one. -/
def Tree.Unframed (tree : Tree) : Prop :=
  tree.files = [] ∨ ∃ only, tree.files = [only] ∧ ¬ Imitates only

theorem selectable_regular {file : SourceFile} (plain : file.symlink = false)
    (regular : RegularPath file.relative) : selectable file = true := by
  have absent : ".git" ∉ pathParts file.relative :=
    fun listed => regular.parts _ listed (by decide)
  simp [selectable, plain, absent]

theorem frame_inj {first second : SourceFile} (one : RegularPath first.relative)
    (other : RegularPath second.relative) {left right : List UInt8}
    (same : frame first ++ left = frame second ++ right) :
    first.relative = second.relative ∧ first.content ++ left = second.content ++ right := by
  rw [frame, frame, append_assoc, append_assoc] at same
  obtain ⟨names, contents⟩ := split_first (zero_not_mem_encode one.filled)
    (zero_not_mem_encode other.filled) same
  exact ⟨encode_injective names, contents⟩

namespace Tree
variable (tree : Tree)

theorem mem_sorted {file : SourceFile} : file ∈ tree.sorted ↔ file ∈ tree.files :=
  mem_insertionSort _

theorem stream_sorted : sourceTreeStream tree.files = tree.sorted.flatMap frame := by
  have kept : tree.sorted.filter selectable = tree.sorted := by
    rw [filter_eq_self]
    intro file listed
    obtain ⟨plain, regular⟩ := tree.regular file ((tree.mem_sorted).mp listed)
    exact selectable_regular plain regular
  rw [sourceTreeStream]
  exact congrArg (List.flatMap frame) kept

theorem sorted_lt :
    tree.sorted.Pairwise fun first second => first.relative < second.relative := by
  have total : Std.Total fun first second : SourceFile => first.relative ≤ second.relative :=
    ⟨fun first second => le_total first.relative second.relative⟩
  have trans : IsTrans SourceFile fun first second => first.relative ≤ second.relative :=
    ⟨fun _ _ _ => le_trans⟩
  have ordered := pairwise_insertionSort
    (fun first second : SourceFile => first.relative ≤ second.relative) tree.files
  have names : (tree.sorted.map SourceFile.relative).Nodup :=
    ((perm_insertionSort _ tree.files).map SourceFile.relative).nodup_iff.mpr tree.distinct
  have differ : tree.sorted.Pairwise fun first second => first.relative ≠ second.relative :=
    pairwise_map.mp names
  have both := pairwise_and_iff.mpr ⟨ordered, differ⟩
  exact both.imp fun pair => lt_of_le_of_ne pair.1 pair.2

theorem contentAt_eq_some {relative : String} {content : List UInt8} :
    tree.contentAt relative = some content ↔
      ∃ file ∈ tree.files, file.relative = relative ∧ file.content = content := by
  rw [contentAt, Option.map_eq_some_iff]
  constructor
  · rintro ⟨file, found, same⟩
    have named := find?_some found
    exact ⟨file, mem_of_find?_eq_some found, beq_iff_eq.mp named, same⟩
  · rintro ⟨file, listed, named, same⟩
    cases found : tree.files.find? fun other => other.relative == relative with
    | none =>
      have missed := find?_eq_none.mp found file listed
      exact absurd (beq_iff_eq.mpr named) missed
    | some other =>
      have reads := find?_some found
      have others : other.relative = relative := beq_iff_eq.mp reads
      have equal : other = file := inj_on_of_nodup_map tree.distinct
        (mem_of_find?_eq_some found) listed (others.trans named.symm)
      exact ⟨other, rfl, by rw [equal, same]⟩

theorem contentAt_eq_none {relative : String} :
    tree.contentAt relative = none ↔ ∀ file ∈ tree.files, file.relative ≠ relative := by
  simp [contentAt, find?_eq_none]

theorem contentAt_congr {first second : Tree} (same : first.sorted = second.sorted) :
    first.contentAt = second.contentAt := by
  funext relative
  apply Option.ext
  intro content
  rw [contentAt_eq_some, contentAt_eq_some]
  simp only [← mem_sorted, same]

end Tree

section

/-- The tree is the only one with its stream. -/
def Determined (sha256 : List UInt8 → String) (tree : Tree) : Prop :=
  ∀ other : Tree, sourceTreeSha256 sha256 other.files = sourceTreeSha256 sha256 tree.files →
    other.contentAt = tree.contentAt

variable {sha256 : List UInt8 → String} {tree : Tree}

theorem regularPath_sorted {file : SourceFile} {files : List SourceFile}
    (sorted : tree.sorted = file :: files) : RegularPath file.relative := by
  have listed : file ∈ tree.sorted := sorted ▸ mem_cons_self
  exact (tree.regular file (tree.mem_sorted.mp listed)).2

theorem imitates_of_stream {tree other : Tree} {only first second : SourceFile}
    {files : List SourceFile} (single : tree.sorted = [only])
    (sorted : other.sorted = first :: second :: files)
    (same : other.sorted.flatMap frame = tree.sorted.flatMap frame) : Imitates only := by
  rw [single, sorted, flatMap_cons, flatMap_cons, flatMap_singleton,
    ← append_nil (frame only)] at same
  obtain ⟨names, contents⟩ := frame_inj (regularPath_sorted sorted)
    (regularPath_sorted single) same
  have before : first.relative < second.relative := by
    have ordered := other.sorted_lt
    rw [sorted] at ordered
    exact rel_of_pairwise_cons ordered mem_cons_self
  have known : second ∈ other.files := by
    rw [← other.mem_sorted, sorted]
    exact mem_cons_of_mem _ mem_cons_self
  have start : first ∈ other.files := by
    rw [← other.mem_sorted, sorted]
    exact mem_cons_self
  use first.content, second.relative, second.content ++ files.flatMap frame
  rw [append_nil] at contents
  rw [← names]
  refine ⟨?_, (other.regular second known).2, before, other.apart first start second known⟩
  rw [← contents, frame]
  simp

/-- A tree without files is determined by its empty stream. -/
theorem sorted_of_stream_nil (empty : tree.sorted.flatMap frame = []) : tree.sorted = [] := by
  cases sorted : tree.sorted with
  | nil => rfl
  | cons file files =>
    rw [sorted, flatMap_cons, frame] at empty
    simp at empty

theorem determined_of_unframed
    (injective : Function.Injective sha256) {tree : Tree} (unframed : tree.Unframed) :
    Determined sha256 tree := by
  intro other digests
  have same : other.sorted.flatMap frame = tree.sorted.flatMap frame := by
    rw [← other.stream_sorted, ← tree.stream_sorted]
    exact injective digests
  apply Tree.contentAt_congr
  rcases unframed with empty | ⟨only, files, honest⟩
  · have none : tree.sorted = [] := by rw [Tree.sorted, empty, insertionSort_nil]
    rw [none] at same ⊢
    exact sorted_of_stream_nil same
  · have single : tree.sorted = [only] := by rw [Tree.sorted, files]; rfl
    cases sorted : other.sorted with
    | nil =>
      rw [sorted, flatMap_nil] at same
      rw [sorted_of_stream_nil same.symm] at single
      cases single
    | cons first files =>
      cases files with
      | cons second files => exact absurd (imitates_of_stream single sorted same) honest
      | nil =>
        have frames : frame first ++ [] = frame only ++ [] := by
          rw [single, sorted, flatMap_singleton, flatMap_singleton] at same
          rw [same]
        obtain ⟨names, contents⟩ := frame_inj (regularPath_sorted sorted)
          (regularPath_sorted single) frames
        rw [append_nil, append_nil] at contents
        have plain (trees : Tree) {file : SourceFile} (one : trees.sorted = [file]) :
            file.symlink = false := by
          have listed : file ∈ trees.sorted := one ▸ mem_cons_self
          exact (trees.regular file (trees.mem_sorted.mp listed)).1
        have links : first.symlink = only.symlink :=
          (plain other sorted).trans (plain tree single).symm
        rw [single, SourceFile.ext names links contents]

theorem apart_self (relative : String) : Apart relative relative := by
  have longer : ¬ relative.toList ++ ['/'] <+: relative.toList := by
    intro start
    have length := start.length_le
    rw [length_append, length_singleton] at length
    omega
  exact ⟨longer, longer⟩

/-- One file is a tree. -/
def Tree.single (file : SourceFile) (plain : file.symlink = false)
    (regular : RegularPath file.relative) : Tree where
  files := [file]
  regular := by
    intro other listed
    rw [mem_singleton.mp listed]
    exact ⟨plain, regular⟩
  distinct := nodup_singleton _
  apart := by
    intro first one second other
    rw [mem_singleton.mp one, mem_singleton.mp other]
    exact apart_self _

/-- Two files are a tree where no one is a folder of the other. -/
def Tree.pair (first second : SourceFile) (plain : first.symlink = false ∧ second.symlink = false)
    (regular : RegularPath first.relative ∧ RegularPath second.relative)
    (before : first.relative < second.relative) (apart : Apart first.relative second.relative) :
    Tree where
  files := [first, second]
  regular := by
    intro file listed
    rcases mem_cons.mp listed with same | other
    · rw [same]
      exact ⟨plain.1, regular.1⟩
    · rw [mem_singleton.mp other]
      exact ⟨plain.2, regular.2⟩
  distinct := by simp [before.ne]
  apart := by
    intro one listed other known
    rcases mem_cons.mp listed with same | later <;>
      rcases mem_cons.mp known with equal | last
    · rw [same, equal]
      exact apart_self _
    · rw [same, mem_singleton.mp last]
      exact apart
    · rw [equal, mem_singleton.mp later]
      exact ⟨apart.2, apart.1⟩
    · rw [mem_singleton.mp later, mem_singleton.mp last]
      exact apart_self _

/-- The bytes behind the first name may be the content of one file. -/
def merged (first : SourceFile) (files : List SourceFile) : SourceFile :=
  { first with content := first.content ++ files.flatMap frame }

theorem not_determined_of_two {first second : SourceFile} {files : List SourceFile}
    (sorted : tree.sorted = first :: second :: files) : ¬ Determined sha256 tree := by
  intro determined
  have start : first ∈ tree.sorted := sorted ▸ mem_cons_self
  have next : second ∈ tree.sorted := sorted ▸ mem_cons_of_mem _ mem_cons_self
  have known := tree.regular first (tree.mem_sorted.mp start)
  let other := Tree.single (merged first (second :: files)) known.1 known.2
  have stream : sourceTreeStream other.files = sourceTreeStream tree.files := by
    rw [other.stream_sorted, tree.stream_sorted, sorted, flatMap_cons]
    show [merged first (second :: files)].flatMap frame = _
    rw [flatMap_singleton, frame, merged, frame]
    simp
  have contents := determined other (congrArg sha256 stream)
  have present : tree.contentAt second.relative = some second.content :=
    tree.contentAt_eq_some.mpr ⟨second, tree.mem_sorted.mp next, rfl, rfl⟩
  have absent : other.contentAt second.relative = none := by
    rw [other.contentAt_eq_none]
    intro file listed
    rw [mem_singleton.mp listed]
    have ordered := tree.sorted_lt
    rw [sorted] at ordered
    exact (rel_of_pairwise_cons ordered mem_cons_self).ne
  rw [contents, present] at absent
  cases absent

/-- A content that imitates a file gives the stream of a tree with two files. -/
theorem not_determined_of_imitates
    {only : SourceFile} (single : tree.files = [only]) (imitates : Imitates only) :
    ¬ Determined sha256 tree := by
  intro determined
  obtain ⟨before, name, after, split, regular, later, apart⟩ := imitates
  have known := tree.regular only (single ▸ mem_cons_self)
  let second : SourceFile := ⟨name, false, after⟩
  let first : SourceFile := { only with content := before }
  let other := Tree.pair first second ⟨known.1, rfl⟩ ⟨known.2, regular⟩ later apart
  have ordered : other.sorted = [first, second] := by
    have sorted : [first, second].Pairwise
        fun first second => first.relative ≤ second.relative := by
      simp [later.le, first, second]
    exact sorted.insertionSort_eq
  have sorted : tree.sorted = [only] := by
    rw [Tree.sorted, single]
    rfl
  have stream : sourceTreeStream other.files = sourceTreeStream tree.files := by
    rw [other.stream_sorted, tree.stream_sorted, sorted, ordered, flatMap_cons,
      flatMap_singleton, flatMap_singleton]
    simp only [frame, split, first, second, append_assoc, cons_append]
  have contents := determined other (congrArg sha256 stream)
  have present : other.contentAt name = some after :=
    other.contentAt_eq_some.mpr ⟨second, mem_cons_of_mem _ mem_cons_self, rfl, rfl⟩
  have absent : tree.contentAt name = none := by
    rw [tree.contentAt_eq_none, single]
    intro file listed
    rw [mem_singleton.mp listed]
    exact later.ne
  rw [← contents, present] at absent
  cases absent

/-- The identity determines exactly the trees whose stream is read in one way. -/
theorem treeDetermined_iff {sha256 : List UInt8 → String} (injective : Function.Injective sha256)
    (tree : Tree) : Determined sha256 tree ↔ tree.Unframed := by
  constructor
  · intro determined
    cases files : tree.files with
    | nil => exact Or.inl files
    | cons first rest =>
      cases rest with
      | nil => exact Or.inr ⟨first, files, fun imitates =>
        not_determined_of_imitates files imitates determined⟩
      | cons second rest =>
        have length : tree.sorted.length = rest.length + 2 := by
          rw [Tree.sorted, length_insertionSort, files]
          rfl
        cases sorted : tree.sorted with
        | nil => simp [sorted] at length
        | cons one others =>
          cases others with
          | nil => simp [sorted] at length
          | cons two others => exact absurd determined (not_determined_of_two sorted)
  · exact determined_of_unframed injective

end

/-- This stand-in digest writes each byte as a letter. -/
def plainDigest (bytes : List UInt8) : String :=
  String.ofList (bytes.map fun byte => Char.ofNat byte.toNat)

theorem plainDigest_injective : Function.Injective plainDigest := by
  intro first second same
  have letters := String.ofList_injective same
  apply map_injective_iff.mpr _ letters
  intro one other equal
  have small (byte : UInt8) : (Char.ofNat byte.toNat).toNat = byte.toNat := by
    have bound := byte.toNat_lt
    have valid : byte.toNat.isValidChar := Or.inl (by omega)
    rw [Char.ofNat, dif_pos valid]
    rfl
  have points : (Char.ofNat one.toNat).toNat = (Char.ofNat other.toNat).toNat :=
    congrArg Char.toNat equal
  rw [small, small] at points
  exact UInt8.toNat_inj.mp points

theorem regularPath_module (name : String)
    (parts : pathParts name = [name] ∧ name ∉ ["", ".", "..", ".git"])
    (filled : name.toList.all (·.toNat ≠ 0) = true) : RegularPath name where
  parts := by
    rw [parts.1]
    intro part listed
    rw [mem_singleton.mp listed]
    exact parts.2
  filled := by simpa using filled

def reviewed : Tree := Tree.pair ⟨"a.py", false, [1]⟩ ⟨"b.py", false, [2]⟩ ⟨rfl, rfl⟩
  ⟨regularPath_module _ (by decide) (by decide), regularPath_module _ (by decide) (by decide)⟩
  (by decide) ⟨by decide, by decide⟩

/-- The content of the only file goes on with the second file of the reviewed tree. -/
def altered : Tree := Tree.single ⟨"a.py", false, [1, 98, 46, 112, 121, 0, 2]⟩ rfl
  (regularPath_module _ (by decide) (by decide))

theorem altered_accepted :
    sourceTreeSha256 plainDigest altered.files = sourceTreeSha256 plainDigest reviewed.files ∧
      altered.contentAt ≠ reviewed.contentAt := by
  constructor
  · decide +kernel
  · intro same
    have read := congrFun same "b.py"
    revert read
    decide +kernel

theorem single_unframed : (Tree.single ⟨"a.py", false, [1]⟩ rfl
    (regularPath_module _ (by decide) (by decide))).Unframed := by
  refine Or.inr ⟨_, rfl, ?_⟩
  rintro ⟨before, name, after, split, -⟩
  have listed : (0 : UInt8) ∈ [1] := by
    rw [show ([1] : List UInt8) = before ++ encode name ++ 0 :: after from split]
    simp
  exact absurd listed (by decide)

theorem single_determined : Determined plainDigest (Tree.single ⟨"a.py", false, [1]⟩ rfl
    (regularPath_module _ (by decide) (by decide))) :=
  (treeDetermined_iff plainDigest_injective _).mpr single_unframed

end SourceTree
end KSlide
