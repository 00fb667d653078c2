import KSlide.Archive.Inspection
import KSlide.Readings
import Mathlib.Algebra.BigOperators.Group.List.Basic
import Mathlib.Algebra.Ring.Int.Defs
import Mathlib.Algebra.Ring.Nat
import Mathlib.Data.List.Nodup

/-
This file proves what an accepted Office archive promises.
-/

namespace KSlide
open List
namespace Inspection

section
variable [Unicode] {archive : Archive} {budget next : ArchiveBudget} {members : List ArchiveMember}
  {infos : List ZipInfo} {key : List Char}

/-- The members of an archive are its entries under their normalized names. -/
def Members (archive : Archive) (members : List ArchiveMember) : Prop :=
  List.Forall₂ (fun info member => archiveMemberName info = .ok member.name ∧ member.info = info)
    archive.infolist members

/-- No two members have one case-folded name. -/
def Distinct (members : List ArchiveMember) : Prop :=
  (members.map fun member => casefold member.name).Nodup

/-- The resources that are used so far are within the limits. -/
def Within (budget : ArchiveBudget) : Prop :=
  budget.memberCount ≤ maxArchiveEntries ∧ budget.expandedBytes ≤ maxArchiveBytes

def entryCount (archive : Archive) : Nat := archive.infolist.length

def entryBytes (archive : Archive) : Int := (archive.infolist.map (·.fileSize)).sum

omit [Unicode] in
theorem Members.unique {others : List ArchiveMember} (one : Members archive members)
    (other : Members archive others) : members = others := by
  unfold Members at one other
  generalize archive.infolist = infos at one other
  induction one generalizing others with
  | nil =>
    cases other
    rfl
  | @cons info member infos members first later ih =>
    cases other with
    | @cons _ member' _ others' first' later' =>
      obtain ⟨named, same⟩ := first
      obtain ⟨named', same'⟩ := first'
      have name : member.name = member'.name := by
        rw [named, Except.ok.injEq] at named'
        exact named'
      have alike : member = member' := by
        cases member
        cases member'
        rw [ArchiveMember.mk.injEq]
        exact ⟨name, same.trans same'.symm⟩
      rw [ih later', alike]

theorem lookupMember_none : (lookupMember members key).isNone = true ↔
    key ∉ members.map fun member => casefold member.name := by
  unfold lookupMember
  rw [Option.isNone_iff_eq_none, find?_eq_none]
  simp

theorem consume_ok {info : ZipInfo} {name : List Char}
    (spent : consume budget info name = .ok next) :
    next.memberCount = budget.memberCount + 1 ∧
      next.expandedBytes = budget.expandedBytes + info.fileSize ∧ Within next := by
  unfold consume at spent
  simp only [bind_ok, require_ok, pure_ok, decide_eq_true_eq] at spent
  obtain ⟨_, few, _, -, _, -, _, -, _, small, same⟩ := spent
  rw [← same]
  exact ⟨rfl, rfl, few, small⟩

theorem addMembers_ok {start : List ArchiveMember} (distinct : Distinct start)
    (added : infos.foldlM addMember (start, budget) = .ok (members, next)) :
    ∃ found, members = start ++ found ∧ Distinct members ∧
      List.Forall₂ (fun info member => archiveMemberName info = .ok member.name ∧
        member.info = info) infos found ∧
      next.memberCount = budget.memberCount + infos.length ∧
      next.expandedBytes = budget.expandedBytes + (infos.map (·.fileSize)).sum ∧
      (Within budget → Within next) := by
  induction infos generalizing start budget with
  | nil =>
    rw [foldlM_nil, pure_ok, Prod.mk.injEq] at added
    obtain ⟨same, same'⟩ := added
    rw [← same, ← same']
    exact ⟨[], (append_nil _).symm, distinct, List.Forall₂.nil, rfl, (add_zero _).symm, id⟩
  | cons info infos ih =>
    rw [foldlM_cons, bind_ok] at added
    obtain ⟨state, first, later⟩ := added
    unfold addMember at first
    simp only [bind_ok, require_ok, pure_ok] at first
    obtain ⟨name, named, _, fresh, _, -, spent, consumed, same⟩ := first
    rw [← same] at later
    have longer : Distinct (start ++ [⟨name, info⟩]) := by
      unfold Distinct
      rw [map_append, map_singleton, nodup_append_comm]
      exact nodup_cons.mpr ⟨lookupMember_none.mp fresh, distinct⟩
    obtain ⟨found, whole, apart, related, count, bytes, within⟩ := ih longer later
    obtain ⟨one, size, small⟩ := consume_ok consumed
    refine ⟨⟨name, info⟩ :: found, ?_, apart, List.Forall₂.cons ⟨named, rfl⟩ related, ?_, ?_,
      fun _ => within small⟩
    · rw [whole, append_assoc, singleton_append]
    · rw [count, one, length_cons]
      omega
    · rw [bytes, size, map_cons, sum_cons, add_assoc]

theorem archiveMembers_ok (read : archiveMembers archive budget = .ok (members, next)) :
    Members archive members ∧ Distinct members ∧
      next.memberCount = budget.memberCount + entryCount archive ∧
      next.expandedBytes = budget.expandedBytes + entryBytes archive ∧
      (Within budget → Within next) := by
  unfold archiveMembers at read
  simp only [bind_ok, require_ok] at read
  obtain ⟨_, -, added⟩ := read
  have empty : Distinct [] := nodup_nil
  obtain ⟨found, whole, distinct, related, count, bytes, within⟩ := addMembers_ok empty added
  rw [whole, nil_append] at distinct ⊢
  exact ⟨related, distinct, count, bytes, within⟩

end

section
variable [Unicode] {members : List ArchiveMember} {records : List RelationshipRecord}
  {record : RelationshipRecord} {relationshipName key name : List Char} {allowed : Bool}
  {workbooks next : List (List Char)} {source parts resolved : List (List Char)}

/-- A walk leaves no folder that it did not enter. -/
def Inside (source parts : List (List Char)) : Prop :=
  ∀ walked, walked <+: parts →
    2 * walked.count ['.', '.'] ≤ source.length + walked.length

omit [Unicode] in
theorem resolvePart_ok {part : List Char} {next : List (List Char)}
    (walked : resolvePart source part = .ok next) :
    next.length + 2 * [part].count ['.', '.'] = source.length + 1 := by
  unfold resolvePart at walked
  split at walked
  · cases walked
  · split at walked
    · rename_i leaves
      split at walked
      · cases walked
      · rename_i occupied
        cases walked
        have positive := length_pos_of_ne_nil occupied
        rw [leaves, count_singleton_self, length_dropLast]
        omega
    · rename_i enters
      cases walked
      rw [count_singleton, if_neg (by simpa using enters), length_append]
      rfl

omit [Unicode] in
theorem resolveParts_inside (walked : parts.foldlM resolvePart source = .ok resolved) :
    Inside source parts := by
  induction parts generalizing source with
  | nil =>
    intro walk start
    rw [prefix_nil.mp start]
    exact Nat.zero_le _
  | cons part parts ih =>
    rw [foldlM_cons, bind_ok] at walked
    obtain ⟨middle, first, later⟩ := walked
    have size := resolvePart_ok first
    intro walk start
    cases walk with
    | nil => exact Nat.zero_le _
    | cons head rest =>
      obtain ⟨same, inner⟩ := cons_prefix_cons.mp start
      have known := ih later rest inner
      have split : (part :: rest).count ['.', '.'] =
          [part].count ['.', '.'] + rest.count ['.', '.'] := by
        rw [← count_append]
        rfl
      rw [same, split, length_cons]
      omega

theorem resolveRelationshipTarget_inside {target path : List Char}
    (found : resolveRelationshipTarget relationshipName target = .ok path) :
    ∃ source, relationshipSourcePath relationshipName = .ok source ∧
      Inside source ((Text.strip target).splitOn '/') := by
  unfold resolveRelationshipTarget at found
  simp only [bind_ok, require_ok, pure_ok] at found
  obtain ⟨_, -, source, start, resolved, walked, -⟩ := found
  exact ⟨source, start, resolveParts_inside walked⟩

end
section
variable [Unicode] {members : List ArchiveMember} {records : List RelationshipRecord}
  {record : RelationshipRecord} {relationshipName key name : List Char} {allowed : Bool}
  {workbooks next : List (List Char)} {member : ArchiveMember}

/-- The key that a relationship names in its package. -/
def targetKey (relationshipName : List Char) (record : RelationshipRecord) :
    Option (List Char) :=
  (resolveRelationshipTarget relationshipName record.target).toOption.map casefold

def isPackage (record : RelationshipRecord) : Bool :=
  relationshipType record == "package".toList

/-- The keys that the package relationships of a part name. -/
def packageKeys (relationshipName : List Char) (records : List RelationshipRecord) :
    List (List Char) :=
  (records.filter isPackage).filterMap (targetKey relationshipName)

/-- A safe relationship is neither external nor active and names a member of its package. -/
structure Safe (members : List ArchiveMember) (relationshipName : List Char)
    (record : RelationshipRecord) : Prop where
  internal : isExternal record = false
  passive : isActive record = false
  resolved : ∃ path source, ∃ member ∈ members,
    resolveRelationshipTarget relationshipName record.target = .ok path ∧
    relationshipSourcePath relationshipName = .ok source ∧
    Inside source ((Text.strip record.target).splitOn '/') ∧
    casefold member.name = casefold path

theorem lookupMember_some (found : lookupMember members key = some member) :
    member ∈ members ∧ casefold member.name = key := by
  unfold lookupMember at found
  exact ⟨mem_of_find?_eq_some found, by simpa using find?_some found⟩

/-- Distinct members are known by their case-folded names. -/
theorem Distinct.same (distinct : Distinct members) {first second : ArchiveMember}
    (one : first ∈ members) (other : second ∈ members)
    (same : casefold first.name = casefold second.name) : first = second :=
  inj_on_of_nodup_map distinct one other same

theorem resolveMember_ok {path : List Char} : resolveMember members path = .ok member ↔
    lookupMember members (casefold path) = some member := by
  unfold resolveMember
  cases lookupMember members (casefold path) with
  | none => simp
  | some other => simp

/-- A package relationship names an embedded workbook that the keys do not hold yet. -/
theorem addWorkbook_ok
    (added : addWorkbook allowed record key member workbooks = .ok next) :
    (isPackage record = true → allowed = true ∧ isEmbeddedKey key = true ∧ key ∉ workbooks ∧
      next = if member.name ∈ workbooks then workbooks else workbooks ++ [member.name]) ∧
    (isPackage record = false → next = workbooks) := by
  unfold addWorkbook at added
  unfold isPackage
  split at added
  · rename_i package
    simp only [bind_ok, require_ok, pure_ok, Bool.and_eq_true, Bool.not_eq_true',
      elem_eq_mem, decide_eq_true_eq, decide_eq_false_iff_not] at added
    obtain ⟨_, ⟨permitted, embedded⟩, _, fresh, same⟩ := added
    rw [package]
    exact ⟨fun _ => ⟨permitted, embedded, fresh, same.symm⟩, fun other => by simp at other⟩
  · rename_i other
    simp only [bind_ok, require_ok, pure_ok] at added
    obtain ⟨_, -, same⟩ := added
    exact ⟨fun package => absurd (by simpa using package) other, fun _ => same.symm⟩

theorem inspectRelationship_ok
    (inspected : inspectRelationship relationshipName members allowed workbooks record = .ok next) :
    Safe members relationshipName record ∧ ∃ key, ∃ member ∈ members,
      targetKey relationshipName record = some key ∧ casefold member.name = key ∧
      addWorkbook allowed record key member workbooks = .ok next := by
  unfold inspectRelationship at inspected
  simp only [bind_ok, require_ok, Bool.not_eq_true', resolveMember_ok] at inspected
  obtain ⟨_, internal, _, passive, path, resolved, member, found, added⟩ := inspected
  obtain ⟨listed, same⟩ := lookupMember_some found
  obtain ⟨source, start, inside⟩ := resolveRelationshipTarget_inside resolved
  refine ⟨⟨internal, passive, path, source, member, listed, resolved, start, inside, same⟩,
    casefold path, member, listed, ?_, same, added⟩
  unfold targetKey
  rw [resolved]
  rfl

/-- What the inspection of relationships promises for the workbooks that were known before. -/
structure Inspected (members : List ArchiveMember) (relationshipName : List Char) (allowed : Bool)
    (records : List RelationshipRecord) (before after : List (List Char)) : Prop where
  safe : ∀ record ∈ records, Safe members relationshipName record
  targets : ∀ key ∈ packageKeys relationshipName records, allowed = true ∧
    isEmbeddedKey key = true ∧ ∃ member ∈ members, casefold member.name = key
  found : ∀ member ∈ members, member.name ∈ after ↔
    member.name ∈ before ∨ casefold member.name ∈ packageKeys relationshipName records
  distinct : before.Nodup → after.Nodup
  folded : before.Nodup → ∀ member ∈ members, casefold member.name = member.name →
    before.count member.name + (packageKeys relationshipName records).count member.name ≤ 1

theorem packageKeys_append (first second : List RelationshipRecord) :
    packageKeys relationshipName (first ++ second) =
      packageKeys relationshipName first ++ packageKeys relationshipName second := by
  unfold packageKeys
  rw [filter_append, filterMap_append]

theorem packageKeys_singleton (resolved : targetKey relationshipName record = some key) :
    packageKeys relationshipName [record] = if isPackage record then [key] else [] := by
  unfold packageKeys
  rw [filter_singleton]
  cases isPackage record with
  | false => rfl
  | true =>
    change [record].filterMap (targetKey relationshipName) = [key]
    rw [filterMap_cons_some resolved, filterMap_nil]

theorem Inspected.nil : Inspected members relationshipName allowed [] workbooks workbooks := by
  have empty : ∀ word : List Char, word ∉ packageKeys relationshipName [] := fun _ listed =>
    not_mem_nil listed
  refine ⟨fun _ listed => absurd listed not_mem_nil, fun key listed =>
    absurd listed (empty key), fun member _ => ?_, id, fun unique member _ _ => ?_⟩
  · exact ⟨.inl, fun known => known.resolve_right (empty _)⟩
  · have none : packageKeys relationshipName [] = [] := rfl
    rw [none, count_nil]
    exact nodup_iff_count_le_one.mp unique _

/-- A workbook that the later relationships name is not among the earlier ones. -/
theorem Inspected.append {first second : List RelationshipRecord}
    {before middle after : List (List Char)}
    (one : Inspected members relationshipName allowed first before middle)
    (two : Inspected members relationshipName allowed second middle after) :
    Inspected members relationshipName allowed (first ++ second) before after := by
  have keys := @packageKeys_append _ relationshipName first second
  constructor
  case safe =>
    intro record listed
    rcases mem_append.mp listed with early | late
    · exact one.safe record early
    · exact two.safe record late
  case targets =>
    intro key listed
    rw [keys] at listed
    rcases mem_append.mp listed with early | late
    · exact one.targets key early
    · exact two.targets key late
  case found =>
    intro member listed
    rw [two.found member listed, one.found member listed, keys, mem_append, or_assoc]
  case distinct => exact fun unique => two.distinct (one.distinct unique)
  case folded =>
    intro unique member listed plain
    have early := one.folded unique member listed plain
    have late := two.folded (one.distinct unique) member listed plain
    rw [keys, count_append]
    by_cases known : member.name ∈ middle
    · have positive := count_pos_iff.mpr known
      omega
    · have absent := mt (one.found member listed).mpr known
      rw [plain, not_or] at absent
      rw [count_eq_zero_of_not_mem absent.1, count_eq_zero_of_not_mem absent.2]
      omega

theorem inspectRelationship_step (distinct : Distinct members)
    (inspected : inspectRelationship relationshipName members allowed workbooks record = .ok next) :
    Inspected members relationshipName allowed [record] workbooks next := by
  obtain ⟨safe, key, target, listed, resolved, folded, added⟩ := inspectRelationship_ok inspected
  obtain ⟨package, other⟩ := addWorkbook_ok added
  have keys := packageKeys_singleton resolved
  have itself : ∀ member ∈ members, casefold member.name = key → member.name = target.name := by
    intro member known same
    rw [distinct.same known listed (same.trans folded.symm)]
  cases kind : isPackage record with
  | false =>
    have none : packageKeys relationshipName [record] =
        packageKeys relationshipName [] := by
      rw [keys, kind]
      rfl
    rw [other kind]
    have start : Inspected members relationshipName allowed [] workbooks workbooks := .nil
    exact ⟨fun item known => mem_singleton.mp known ▸ safe, none ▸ start.targets,
      none ▸ start.found, id, none ▸ start.folded⟩
  | true =>
    rw [kind] at keys
    obtain ⟨permitted, embedded, fresh, same⟩ := package kind
    have single : packageKeys relationshipName [record] = [key] := keys
    have grown : ∀ word, word ∈ next ↔ word ∈ workbooks ∨ word = target.name := by
      intro word
      rw [same]
      split
      · rename_i known
        exact ⟨.inl, fun either => either.elim id fun again => again ▸ known⟩
      · rw [mem_append, mem_singleton]
    refine ⟨fun item known => mem_singleton.mp known ▸ safe, ?_, ?_, ?_, ?_⟩
    · intro word known
      rw [single, mem_singleton] at known
      rw [known]
      exact ⟨permitted, embedded, target, listed, folded⟩
    · intro member known
      rw [grown, single, mem_singleton]
      constructor
      · exact Or.imp_right fun equal => by rw [equal, folded]
      · exact Or.imp_right fun equal => itself member known equal
    · intro unique
      rw [same]
      split
      · exact unique
      · rename_i new
        rw [nodup_append_comm]
        exact nodup_cons.mpr ⟨new, unique⟩
    · intro unique member known plain
      rw [single, count_singleton]
      split
      · rename_i equal
        have equal' : key = member.name := by simpa using equal
        rw [← equal', count_eq_zero_of_not_mem fresh]
      · exact nodup_iff_count_le_one.mp unique _

theorem inspectRelationships_run (distinct : Distinct members)
    (run : records.foldlM (inspectRelationship relationshipName members allowed) workbooks =
      .ok next) : Inspected members relationshipName allowed records workbooks next := by
  induction records generalizing workbooks with
  | nil =>
    rw [foldlM_nil, pure_ok] at run
    rw [← run]
    exact .nil
  | cons record records ih =>
    rw [foldlM_cons, bind_ok] at run
    obtain ⟨middle, first, later⟩ := run
    exact (inspectRelationship_step distinct first).append (ih later)

end
section
variable [Unicode] [PackageReader] {archive : Archive} {budget next : ArchiveBudget}
  {members parts : List ArchiveMember} {part : ArchiveMember} {names final : List (List Char)}
  {founds : List (List (List Char))} {found : List (List Char)} {allowed : Bool} {data : Bytes}

def partRecords (archive : Archive) (part : ArchiveMember) :
    Except Raised (List RelationshipRecord) :=
  archive.read part.info >>= relationshipRecords

/-- The keys that the package relationships of a relationship part name. -/
def partTargets (archive : Archive) (part : ArchiveMember) : List (List Char) :=
  packageKeys part.name ((partRecords archive part).toOption.getD [])

/-- The keys that the package relationships of a whole package name. -/
def packageTargets (archive : Archive) (members : List ArchiveMember) : List (List Char) :=
  (relationshipFiles members).flatMap (partTargets archive)

/-- A safe package has distinct members and safe relationships only. -/
structure PackageSafe (archive : Archive) (members : List ArchiveMember) : Prop where
  listed : Members archive members
  distinct : Distinct members
  safe : ∀ part ∈ relationshipFiles members, ∃ records, partRecords archive part = .ok records ∧
    ∀ record ∈ records, Safe members part.name record

/-- An embedded workbook is the target of exactly one package relationship, and a package
relationship has no other targets. -/
structure OneToOne (archive : Archive) (members : List ArchiveMember) : Prop where
  once : ∀ name ∈ actualWorkbooks members,
    (packageTargets archive members).count (casefold name) = 1
  only : ∀ key ∈ packageTargets archive members, ∃ name ∈ actualWorkbooks members,
    casefold name = key

/-- The workbook that a member of a package holds. -/
def Embeds (archive : Archive) (members : List ArchiveMember) (name : List Char)
    (workbook : Archive) : Prop :=
  ∃ member ∈ members, member.name = name ∧ ∃ data, archive.read member.info = .ok data ∧
    PackageReader.openArchive data = .ok workbook

/-- A sound archive and its workbooks are safe packages that share the limits. -/
def Sound (archive : Archive) : Prop :=
  ∃ members workbooks, PackageSafe archive members ∧ OneToOne archive members ∧
    List.Forall₂ (Embeds archive members) (actualWorkbooks members) workbooks ∧
    (∀ workbook ∈ workbooks, ∃ inner, PackageSafe workbook inner ∧ OneToOne workbook inner) ∧
    entryCount archive + (workbooks.map entryCount).sum ≤ maxArchiveEntries ∧
    entryBytes archive + (workbooks.map entryBytes).sum ≤ maxArchiveBytes

/-- In each relationship part at most one package relationship names an embedded workbook that
does not have its own case-folded name. -/
def Unshared (archive : Archive) : Prop :=
  ∀ members, Members archive members → ∀ part ∈ relationshipFiles members,
    ∀ name ∈ actualWorkbooks members, casefold name ≠ name →
      (partTargets archive part).count (casefold name) ≤ 1

def PartInspected (archive : Archive) (members : List ArchiveMember) (allowed : Bool)
    (part : ArchiveMember) (found : List (List Char)) : Prop :=
  ∃ records, partRecords archive part = .ok records ∧
    Inspected members part.name allowed records [] found

theorem PartInspected.targets
    (inspected : PartInspected archive members allowed part found) :
    ∃ records, partRecords archive part = .ok records ∧
      partTargets archive part = packageKeys part.name records ∧
      Inspected members part.name allowed records [] found := by
  obtain ⟨records, read, all⟩ := inspected
  refine ⟨records, read, ?_, all⟩
  unfold partTargets
  rw [read]
  rfl

theorem inspectRelationships_ok (distinct : Distinct members)
    (read : archive.read part.info = .ok data)
    (inspected : inspectRelationships data part.name members allowed = .ok found) :
    PartInspected archive members allowed part found := by
  unfold inspectRelationships at inspected
  rw [bind_ok] at inspected
  obtain ⟨records, parsed, run⟩ := inspected
  refine ⟨records, ?_, inspectRelationships_run distinct run⟩
  unfold partRecords
  rw [read]
  exact parsed

/-- The workbooks of every part are known, and no part shares one with an earlier part. -/
theorem addRelationshipParts_ok (distinct : Distinct members)
    (run : parts.foldlM (addRelationshipPart archive members) names = .ok final) :
    ∃ founds, List.Forall₂ (PartInspected archive members true) parts founds ∧
      final = names ++ founds.flatten ∧ (names.Nodup → final.Nodup) := by
  induction parts generalizing names with
  | nil =>
    rw [foldlM_nil, pure_ok] at run
    exact ⟨[], List.Forall₂.nil, by rw [flatten_nil, append_nil, run], run ▸ id⟩
  | cons part parts ih =>
    rw [foldlM_cons, bind_ok] at run
    obtain ⟨middle, first, later⟩ := run
    unfold addRelationshipPart at first
    simp only [bind_ok, require_ok, pure_ok, Bool.not_eq_true', any_eq_false,
      elem_eq_mem, decide_eq_true_eq] at first
    obtain ⟨data, read, found, inspected, _, apart, same⟩ := first
    rw [← same] at later
    have known := inspectRelationships_ok distinct read inspected
    obtain ⟨founds, all, whole, unique⟩ := ih later
    refine ⟨found :: founds, List.Forall₂.cons known all, ?_, fun before => unique ?_⟩
    · rw [whole, flatten_cons, append_assoc]
    · obtain ⟨records, -, every⟩ := known
      exact before.append (every.distinct nodup_nil) fun _ early late =>
        apart _ early late

/-- A part names a workbook as often as it finds it, when it does not name it twice. -/
theorem PartInspected.count (inspected : PartInspected archive members allowed part found)
    {member : ArchiveMember} (listed : member ∈ members)
    (single : (partTargets archive part).count (casefold member.name) ≤ 1) :
    found.count member.name = (partTargets archive part).count (casefold member.name) := by
  obtain ⟨records, read, same, every⟩ := inspected.targets
  have once := nodup_iff_count_le_one.mp (every.distinct nodup_nil) member.name
  have known := every.found member listed
  rw [← same] at known
  by_cases present : member.name ∈ found
  · have named := (known.mp present).resolve_left not_mem_nil
    have one := count_pos_iff.mpr present
    have other := count_pos_iff.mpr named
    omega
  · have absent := mt known.mpr present
    rw [not_or] at absent
    rw [count_eq_zero_of_not_mem present, count_eq_zero_of_not_mem absent.2]

theorem partsInspected_count
    (all : List.Forall₂ (PartInspected archive members allowed) parts founds)
    {member : ArchiveMember} (listed : member ∈ members)
    (single : ∀ part ∈ parts, (partTargets archive part).count (casefold member.name) ≤ 1) :
    founds.flatten.count member.name =
      (parts.flatMap (partTargets archive)).count (casefold member.name) := by
  induction all with
  | nil => rfl
  | @cons part found parts founds first later ih =>
    rw [flatten_cons, flatMap_cons, count_append, count_append,
      first.count listed (single part mem_cons_self),
      ih fun other known => single other (mem_cons_of_mem _ known)]

/-- A part does not name a workbook twice that has its own case-folded name. -/
theorem PartInspected.folded (inspected : PartInspected archive members allowed part found)
    {member : ArchiveMember} (listed : member ∈ members)
    (plain : casefold member.name = member.name) :
    (partTargets archive part).count (casefold member.name) ≤ 1 := by
  obtain ⟨records, read, same, every⟩ := inspected.targets
  have few := every.folded nodup_nil member listed plain
  rw [count_nil, zero_add] at few
  rw [same, plain]
  exact few

omit [PackageReader] in
theorem mem_actualWorkbooks {name : List Char} : name ∈ actualWorkbooks members ↔
    isEmbeddedKey (casefold name) = true ∧ ∃ member ∈ members, member.name = name := by
  unfold actualWorkbooks
  rw [mem_filter, mem_map, and_comm]

/-- A package relationship names an embedded workbook of its package. -/
theorem PartInspected.only (inspected : PartInspected archive members allowed part found)
    {key : List Char} (named : key ∈ partTargets archive part) :
    allowed = true ∧ ∃ name ∈ actualWorkbooks members, casefold name = key := by
  obtain ⟨records, read, same, every⟩ := inspected.targets
  rw [same] at named
  obtain ⟨permitted, embedded, member, listed, folded⟩ := every.targets key named
  refine ⟨permitted, member.name, mem_actualWorkbooks.mpr ⟨?_, member, listed, rfl⟩, folded⟩
  rw [folded]
  exact embedded

theorem PartInspected.safe (inspected : PartInspected archive members allowed part found) :
    ∃ records, partRecords archive part = .ok records ∧
      ∀ record ∈ records, Safe members part.name record := by
  obtain ⟨records, read, every⟩ := inspected
  exact ⟨records, read, every.safe⟩

end
section
variable [Unicode] [PackageReader] {archive workbook : Archive} {budget next : ArchiveBudget}
  {members : List ArchiveMember} {names : List (List Char)} {data : Bytes}

/-- A workbook that is not nested again is a safe package without workbooks. -/
def Plain (workbook : Archive) : Prop :=
  ∃ inner, PackageSafe workbook inner ∧ OneToOne workbook inner

omit [PackageReader] in
theorem inspectActiveMembers_nested (inspected : inspectActiveMembers members true = .ok ()) :
    actualWorkbooks members = [] := by
  unfold inspectActiveMembers at inspected
  rw [forM_eq_forM, forM_ok] at inspected
  unfold actualWorkbooks
  rw [filter_eq_nil_iff]
  intro name listed
  obtain ⟨member, known, same⟩ := mem_map.mp listed
  have checked := inspected member known
  unfold inspectActiveMember at checked
  simp only [bind_ok, require_ok, Bool.true_and, Bool.not_eq_true', Bool.or_eq_false_iff]
    at checked
  obtain ⟨_, -, _, -, _, -, _, -, -, plain⟩ := checked
  unfold isEmbeddedKey
  rw [← same, Bool.and_eq_true, not_and]
  intro _ embedded
  exact absurd (plain.symm.trans embedded) (by decide)

omit [Unicode] [PackageReader] in
theorem guardReading_ok {Value : Type} {convert : String → Raised} {result : Except Raised Value}
    {value : Value} (guarded : guardReading convert result = .ok value) : result = .ok value := by
  unfold guardReading at guarded
  split at guarded
  · cases guarded
  · exact guarded

theorem inspectWorkbookRelationships_ok (distinct : Distinct members)
    (inspected : inspectWorkbookRelationships workbook members = .ok ()) :
    ∀ part ∈ relationshipFiles members,
      ∃ found, PartInspected workbook members false part found := by
  unfold inspectWorkbookRelationships at inspected
  rw [forM_eq_forM, forM_ok] at inspected
  intro part listed
  have checked := inspected part listed
  simp only [bind_ok, pure_ok] at checked
  obtain ⟨data, read, found, related, -⟩ := checked
  exact ⟨found, inspectRelationships_ok distinct read related⟩

theorem inspectOpenedWorkbook_ok (inspected : inspectOpenedWorkbook workbook budget = .ok next) :
    Plain workbook ∧ next.memberCount = budget.memberCount + entryCount workbook ∧
      next.expandedBytes = budget.expandedBytes + entryBytes workbook ∧
      (Within budget → Within next) := by
  unfold inspectOpenedWorkbook at inspected
  simp only [bind_ok, require_ok, pure_ok] at inspected
  obtain ⟨⟨members, spent⟩, opened, _, -, _, active, _, -, _, -, _, -, _, related, _, -, same⟩ :=
    inspected
  rw [← same]
  obtain ⟨listed, distinct, count, bytes, within⟩ := archiveMembers_ok opened
  have parts := inspectWorkbookRelationships_ok distinct related
  have empty := inspectActiveMembers_nested active
  have safe : PackageSafe workbook members := by
    refine ⟨listed, distinct, fun part known => ?_⟩
    obtain ⟨found, inspected⟩ := parts part known
    exact inspected.safe
  refine ⟨⟨members, safe, ⟨?_, ?_⟩⟩, count, bytes, within⟩
  · intro name known
    rw [empty] at known
    exact absurd known not_mem_nil
  · intro key named
    obtain ⟨part, known, named'⟩ := mem_flatMap.mp named
    obtain ⟨found, inspected⟩ := parts part known
    exact absurd (inspected.only named').1 (by decide)

theorem inspectEmbedded_ok {name : List Char} (distinct : Distinct members)
    (known : ∃ member ∈ members, member.name = name)
    (inspected : inspectEmbedded archive members budget name = .ok next) :
    ∃ workbook, Embeds archive members name workbook ∧ Plain workbook ∧
      next.memberCount = budget.memberCount + entryCount workbook ∧
      next.expandedBytes = budget.expandedBytes + entryBytes workbook ∧
      (Within budget → Within next) := by
  unfold inspectEmbedded inspectNestedWorkbook at inspected
  simp only [bind_ok, require_ok, resolveMember_ok] at inspected
  obtain ⟨member, resolved, data, read, _, -, nested⟩ := inspected
  obtain ⟨workbook, opened, nested'⟩ := bind_ok.mp (guardReading_ok nested)
  obtain ⟨found, same⟩ := lookupMember_some resolved
  obtain ⟨other, listed, named⟩ := known
  have itself : member = other := distinct.same found listed (by rw [same, named])
  exact ⟨workbook, ⟨other, listed, named, data, itself ▸ read, opened⟩,
    inspectOpenedWorkbook_ok nested'⟩

theorem inspectEmbeddeds_ok (distinct : Distinct members)
    (known : ∀ name ∈ names, ∃ member ∈ members, member.name = name)
    (run : names.foldlM (inspectEmbedded archive members) budget = .ok next) :
    ∃ workbooks, List.Forall₂ (Embeds archive members) names workbooks ∧
      (∀ workbook ∈ workbooks, Plain workbook) ∧
      next.memberCount = budget.memberCount + (workbooks.map entryCount).sum ∧
      next.expandedBytes = budget.expandedBytes + (workbooks.map entryBytes).sum ∧
      (Within budget → Within next) := by
  induction names generalizing budget with
  | nil =>
    rw [foldlM_nil, pure_ok] at run
    rw [← run]
    exact ⟨[], List.Forall₂.nil, fun _ listed => absurd listed not_mem_nil, rfl,
      (add_zero _).symm, id⟩
  | cons name names ih =>
    rw [foldlM_cons, bind_ok] at run
    obtain ⟨middle, first, later⟩ := run
    obtain ⟨workbook, embeds, plain, count, bytes, within⟩ :=
      inspectEmbedded_ok distinct (known name mem_cons_self) first
    obtain ⟨workbooks, all, others, count', bytes', within'⟩ :=
      ih (fun other listed => known other (mem_cons_of_mem _ listed)) later
    refine ⟨workbook :: workbooks, List.Forall₂.cons embeds all, ?_, ?_, ?_,
      fun small => within' (within small)⟩
    · intro other listed
      rcases mem_cons.mp listed with same | listed'
      · exact same ▸ plain
      · exact others other listed'
    · rw [count', count, map_cons, sum_cons, add_assoc]
    · rw [bytes', bytes, map_cons, sum_cons, add_assoc]

omit [PackageReader] in
theorem actualWorkbooks_nodup (distinct : Distinct members) : (actualWorkbooks members).Nodup := by
  unfold Distinct at distinct
  have names : (members.map (·.name)).Nodup := by
    refine List.Nodup.of_map casefold ?_
    rw [map_map]
    exact distinct
  exact names.filter _

end
section
variable [Unicode] [PackageReader] {archive : Archive} {budget : ArchiveBudget}
  {members : List ArchiveMember} {founds : List (List (List Char))}

theorem inspectPresentation_ok (distinct : Distinct members)
    (inspected : inspectPresentation archive members budget = .ok ()) :
    ∃ founds, List.Forall₂ (PartInspected archive members true) (relationshipFiles members) founds ∧
      founds.flatten.Nodup ∧ (∀ name, name ∈ founds.flatten ↔ name ∈ actualWorkbooks members) ∧
      ∃ next, founds.flatten.foldlM (inspectEmbedded archive members) budget = .ok next := by
  unfold inspectPresentation at inspected
  simp only [bind_ok, require_ok, pure_ok, Bool.and_eq_true, all_eq_true, elem_eq_mem,
    decide_eq_true_eq] at inspected
  obtain ⟨_, -, _, -, _, -, _, -, _, -, embedded, parts, _, ⟨all, only⟩, next, run, -⟩ := inspected
  obtain ⟨founds, related, whole, unique⟩ := addRelationshipParts_ok distinct parts
  rw [nil_append] at whole
  rw [whole] at all only run unique
  exact ⟨founds, related, unique nodup_nil, fun name => ⟨only name, all name⟩, next, run⟩

theorem oneToOne_iff
    (related : List.Forall₂ (PartInspected archive members true) (relationshipFiles members) founds)
    (unique : founds.flatten.Nodup)
    (same : ∀ name, name ∈ founds.flatten ↔ name ∈ actualWorkbooks members) :
    OneToOne archive members ↔ ∀ part ∈ relationshipFiles members,
      ∀ name ∈ actualWorkbooks members, casefold name ≠ name →
        (partTargets archive part).count (casefold name) ≤ 1 := by
  have inspected : ∀ part ∈ relationshipFiles members,
      ∃ found, PartInspected archive members true part found := by
    intro part listed
    obtain ⟨found, -, known⟩ := related_item related.flip listed
    exact ⟨found, known⟩
  constructor
  · intro exact part listed name actual _
    have whole : (partTargets archive part).Sublist (packageTargets archive members) :=
      sublist_flatten_of_mem (mem_map_of_mem listed)
    calc (partTargets archive part).count (casefold name)
        ≤ (packageTargets archive members).count (casefold name) := whole.count_le _
      _ = 1 := exact.once name actual
      _ ≤ 1 := le_refl 1
  · intro apart
    constructor
    · intro name actual
      obtain ⟨embedded, member, listed, named⟩ := mem_actualWorkbooks.mp actual
      have single : ∀ part ∈ relationshipFiles members,
          (partTargets archive part).count (casefold member.name) ≤ 1 := by
        intro part known
        obtain ⟨found, checked⟩ := inspected part known
        by_cases plain : casefold member.name = member.name
        · exact checked.folded listed plain
        · exact apart part known member.name (named ▸ actual) plain
      have total := partsInspected_count related listed single
      have once := nodup_iff_count_le_one.mp unique member.name
      have present := count_pos_iff.mpr ((same member.name).mpr (named ▸ actual))
      unfold packageTargets
      rw [← named]
      omega
    · intro key named
      obtain ⟨part, known, named'⟩ := mem_flatMap.mp named
      obtain ⟨found, checked⟩ := inspected part known
      exact (checked.only named').2

theorem inspectZip_ok (accepted : inspectZip (.ok archive) ".pptx" = .ok ()) :
    ∃ members founds workbooks, PackageSafe archive members ∧
      List.Forall₂ (PartInspected archive members true) (relationshipFiles members) founds ∧
      founds.flatten.Nodup ∧ (∀ name, name ∈ founds.flatten ↔ name ∈ actualWorkbooks members) ∧
      List.Forall₂ (Embeds archive members) (actualWorkbooks members) workbooks ∧
      (∀ workbook ∈ workbooks, Plain workbook) ∧
      entryCount archive + (workbooks.map entryCount).sum ≤ maxArchiveEntries ∧
      entryBytes archive + (workbooks.map entryBytes).sum ≤ maxArchiveBytes := by
  unfold inspectZip at accepted
  obtain ⟨_, opened, inspected⟩ := bind_ok.mp (guardReading_ok accepted)
  cases opened
  unfold inspectArchive at inspected
  obtain ⟨⟨members, budget⟩, read, presented⟩ := bind_ok.mp inspected
  have presented' : inspectPresentation archive members budget = .ok () := by
    simpa only [if_true] using presented
  obtain ⟨listed, distinct, count, bytes, within⟩ := archiveMembers_ok read
  obtain ⟨founds, related, unique, same, next, run⟩ := inspectPresentation_ok distinct presented'
  have known : ∀ name ∈ founds.flatten, ∃ member ∈ members, member.name = name := fun name found =>
    (mem_actualWorkbooks.mp ((same name).mp found)).2
  obtain ⟨workbooks, embeds, plain, count', bytes', within'⟩ :=
    inspectEmbeddeds_ok distinct known run
  have order : (actualWorkbooks members).Perm founds.flatten :=
    (perm_ext_iff_of_nodup (actualWorkbooks_nodup distinct) unique).mpr fun name =>
      (same name).symm
  obtain ⟨again, embeds', permuted⟩ := perm_comp_forall₂ order embeds
  have small : Within next := within' (within ⟨Nat.zero_le _, by decide⟩)
  have counts := (permuted.map entryCount).sum_nat
  have sizes : (again.map entryBytes).sum = (workbooks.map entryBytes).sum :=
    (permuted.map entryBytes).sum_eq
  obtain ⟨few, light⟩ := small
  refine ⟨members, founds, again, ⟨listed, distinct, fun part listed => ?_⟩, related, unique, same,
    embeds', fun workbook held => plain workbook (permuted.mem_iff.mp held), ?_, ?_⟩
  · obtain ⟨found, -, checked⟩ := related_item related.flip listed
    exact PartInspected.safe checked
  · calc entryCount archive + (again.map entryCount).sum
        = next.memberCount := by rw [counts, count', count, Nat.zero_add]
      _ ≤ maxArchiveEntries := few
  · calc entryBytes archive + (again.map entryBytes).sum
        = next.expandedBytes := by rw [sizes, bytes', bytes, zero_add]
      _ ≤ maxArchiveBytes := light

/-- An accepted presentation is sound exactly when no relationship part names a workbook twice
whose name is not its own case-folded name. -/
theorem inspectZip_sound (accepted : inspectZip (.ok archive) ".pptx" = .ok ()) :
    Sound archive ↔ Unshared archive := by
  obtain ⟨members, founds, workbooks, safe, related, unique, same, embeds, plain, few, light⟩ :=
    inspectZip_ok accepted
  have exact := oneToOne_iff related unique same
  constructor
  · rintro ⟨members', -, safe', once, -⟩
    rw [Members.unique safe'.listed safe.listed] at once
    intro others listed
    rw [Members.unique listed safe.listed]
    exact exact.mp once
  · intro apart
    exact ⟨members, workbooks, safe, exact.mpr (apart members safe.listed), embeds, plain, few,
      light⟩

end
section

mutual
/-- The text of an element without a name space. -/
def elementText : Element → List Char
  | .node tag attributes children => '<' :: tag ++ attributes.flatMap (fun entry =>
    ' ' :: entry.1 ++ "=\"".toList ++ entry.2 ++ ['"']) ++ '>' :: elementTexts children ++
    "</".toList ++ tag ++ ['>']

def elementTexts : List Element → List Char
  | [] => []
  | element :: rest => elementText element ++ elementTexts rest
end

def documentBytes (element : Element) : Bytes :=
  (elementText element).map fun letter => UInt8.ofNat letter.toNat

def sampleElement (tag : String) (attributes : List (String × String)) (children : List Element) :
    Element :=
  .node tag.toList (attributes.map fun entry => (entry.1.toList, entry.2.toList)) children

def sampleRelationship (id type target : String) : Element :=
  sampleElement "Relationship" [("Id", id), ("Type", type), ("Target", target)] []

def sampleChart (ids : List String) : Element :=
  sampleElement "Relationships" []
    (ids.map fun id => sampleRelationship id "package" "../embeddings/Book.xlsx")

def sampleTypes : Element :=
  sampleElement "Types" []
    [sampleElement "Override" [("PartName", "/xl/workbook.xml"),
      ("ContentType", "application/spreadsheetml.sheet.main+xml")] [],
    sampleElement "Override" [("PartName", "/xl/worksheets/sheet1.xml"),
      ("ContentType", "application/spreadsheetml.worksheet+xml")] []]

/-- An archive holds its files without compression. -/
def storedArchive (files : List (String × Bytes)) : Archive where
  infolist := files.map fun file => ⟨file.1.toList, file.2.length, file.2.length, 0⟩
  read info := .ok (((files.find? fun file => file.1.toList == info.filename).map
    Prod.snd).getD [])

def sampleFiles : List (String × Element) :=
  [("[Content_Types].xml", sampleTypes),
    ("_rels/.rels", sampleElement "Relationships" []
      [sampleRelationship "rId1" "officeDocument" "xl/workbook.xml"]),
    ("xl/workbook.xml", sampleElement "workbook" []
      [sampleElement "sheets" [] [sampleElement "sheet" [("name", "Data"), ("id", "rId1")] []]]),
    ("xl/_rels/workbook.xml.rels", sampleElement "Relationships" []
      [sampleRelationship "rId1" "worksheet" "worksheets/sheet1.xml"]),
    ("xl/worksheets/sheet1.xml", sampleElement "worksheet" [] [])]

def sampleWorkbook : Archive :=
  storedArchive (sampleFiles.map fun file => (file.1, documentBytes file.2))

def samplePresentation (ids : List String) : Archive :=
  storedArchive
    [("[Content_Types].xml", documentBytes (sampleElement "Types" [] [])),
      ("ppt/presentation.xml", documentBytes (sampleElement "presentation" [] [])),
      ("ppt/charts/_rels/chart1.xml.rels", documentBytes (sampleChart ids)),
      ("ppt/embeddings/Book.xlsx", asciiBytes "PK")]

/-- The sample reader knows the documents of the samples and one embedded workbook. -/
@[reducible] def sampleReader : PackageReader where
  openArchive data := if data = asciiBytes "PK" then .ok sampleWorkbook
    else .error (.other "BadZipFile")
  fromstring data :=
    match (sampleFiles.map Prod.snd ++ [sampleElement "Types" [] [], sampleChart ["rId1"],
      sampleChart ["rId1", "rId2"]]).find? fun element => documentBytes element == data with
    | some element => .ok element
    | none => .error (.other "ParseError")

attribute [local instance] Unicode.basic sampleReader

/-- The members of an archive that needs no normalization. -/
def plainMembers (archive : Archive) : List ArchiveMember :=
  archive.infolist.map fun info => ⟨info.filename, info⟩

theorem plainMembers_listed {archive : Archive}
    (named : ∀ info ∈ archive.infolist, archiveMemberName info = .ok info.filename) :
    Members archive (plainMembers archive) := by
  unfold Members plainMembers
  rw [forall₂_map_right_iff, forall₂_same]
  exact fun info listed => ⟨named info listed, rfl⟩

theorem sample_unshared : Unshared (samplePresentation ["rId1"]) := by
  intro members listed
  have plain : Members (samplePresentation ["rId1"])
      (plainMembers (samplePresentation ["rId1"])) := plainMembers_listed (by decide +kernel)
  rw [listed.unique plain]
  decide +kernel

theorem sample_accepted :
    inspectZip (.ok (samplePresentation ["rId1"])) ".pptx" = .ok () := by decide +kernel

theorem sample_sound : inspectZip (.ok (samplePresentation ["rId1"])) ".pptx" = .ok () ∧
    Sound (samplePresentation ["rId1"]) :=
  ⟨sample_accepted, (inspectZip_sound sample_accepted).mpr sample_unshared⟩

def repeatedPresentation : Archive := samplePresentation ["rId1", "rId2"]

/-- Two relationships of a chart name the one workbook, since its name has a capital letter. -/
theorem workbook_repeated :
    inspectZip (.ok repeatedPresentation) ".pptx" = .ok () ∧ ¬ Sound repeatedPresentation := by
  refine ⟨by decide +kernel, ?_⟩
  rintro ⟨members, workbooks, safe, exact, -⟩
  have plain : Members repeatedPresentation (plainMembers repeatedPresentation) :=
    plainMembers_listed (by decide +kernel)
  have same := safe.listed.unique plain
  have once := exact.once "ppt/embeddings/Book.xlsx".toList (by rw [same]; decide +kernel)
  have twice : (packageTargets repeatedPresentation (plainMembers repeatedPresentation)).count
      (casefold "ppt/embeddings/Book.xlsx".toList) = 2 := by decide +kernel
  rw [same] at once
  omega

end
end Inspection
end KSlide
