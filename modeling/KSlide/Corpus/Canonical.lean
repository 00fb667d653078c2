import KSlide.Corpus.Records

/-
This file shows that a canonical manifest is read back as it is.
-/

namespace KSlide
open GovernanceError List

section
variable [Sha256] {role : CorpusRole} {earlier items : List CorpusItem} {item other : CorpusItem}

omit [Sha256] in
theorem optional_asDict {Value : Type} {parse : Json → Except GovernanceError Value}
    {asDict : Value → Json} (object : ∀ value, (asDict value).isObject = true)
    (read : ∀ value, parse (asDict value) = .ok value) (value : Option Value) :
    optional parse ((value.map asDict).getD .null) = .ok value := by
  cases value with
  | none => rfl
  | some value =>
    show optional parse (asDict value) = _
    rw [optional_present (object value), read value]
    rfl

namespace CorpusItem

theorem Compatible.symm (compatible : item.Compatible other) : other.Compatible item :=
  ⟨compatible.1.symm, fun same => (compatible.2.1 same.symm).symm, compatible.2.2.symm⟩

omit [Sha256] in
theorem field_replacementOf (item : CorpusItem) :
    item.asDict.field "replacement_of" = (item.replacementOf.map (·.asDict)).getD .null := by
  unfold asDict
  cases item.replacementOf <;> rfl

omit [Sha256] in
theorem asDict_shaped (item : CorpusItem) :
    item.asDict.keysBetween ["item_id", "source_sha256", "gold_sha256", "state"]
      ["item_id", "source_sha256", "gold_sha256", "state", "replacement_of"] = true := by
  unfold asDict
  cases item.replacementOf <;> rfl

end CorpusItem

theorem canonicalItem_ok {raw : Json} (read : canonicalItem role earlier raw = .ok item) :
    item.Fits role ∧ ∀ before ∈ earlier, before.Compatible item := by
  unfold canonicalItem at read
  simp only [bind_ok, check_ok, pure_ok, all_eq_true, bne_iff_ne, Bool.or_eq_true,
    beq_iff_eq, Option.isNone_iff_eq_none] at read
  obtain ⟨_, -, itemId, -, source, -, gold, -, _, distinct, state, -, _, held, _, consistent, _,
    fresh, replacement, -, _, lineage, rfl⟩ := read
  refine ⟨?_, ?_⟩
  · intro other
    exact ⟨held.resolve_right other, lineage.resolve_right other⟩
  · intro before listed
    refine ⟨distinct before listed, ?_, fresh before listed⟩
    intro same
    exact (consistent before listed).resolve_left (not_not_intro same)

/-- An item that fits is read back. -/
theorem canonicalItem_asDict (fits : item.Fits role)
    (compatible : ∀ before ∈ earlier, before.Compatible item) :
    canonicalItem role earlier item.asDict = .ok item := by
  have itemId : item.asDict.field "item_id" = .str item.itemId.val := by
    unfold CorpusItem.asDict
    cases item.replacementOf <;> rfl
  have source : item.asDict.field "source_sha256" = .str item.sourceSha256.val := by
    unfold CorpusItem.asDict
    cases item.replacementOf <;> rfl
  have gold : item.asDict.field "gold_sha256" = .str item.goldSha256.val := by
    unfold CorpusItem.asDict
    cases item.replacementOf <;> rfl
  have state : item.asDict.field "state" = .str (Text.Enumeration.value item.state) := by
    unfold CorpusItem.asDict
    cases item.replacementOf <;> rfl
  have replacement : optional ItemReference.parse (item.asDict.field "replacement_of") =
      .ok item.replacementOf := by
    rw [item.field_replacementOf]
    exact optional_asDict (fun _ => rfl) ItemReference.parse_asDict item.replacementOf
  unfold canonicalItem
  simp only [bind_ok, check_ok, pure_ok, all_eq_true, bne_iff_ne, Bool.or_eq_true,
    beq_iff_eq, Option.isNone_iff_eq_none, requireOpaque, requireHash, requireText_ok,
    requireMember_ok]
  refine ⟨(), item.asDict_shaped, item.itemId, itemId, item.sourceSha256, source, item.goldSha256,
    gold, (), fun before listed => (compatible before listed).1, item.state,
    ⟨state, Text.Enumeration.complete _⟩, (), ?_, (), ?_, (),
    fun before listed => (compatible before listed).2.2, item.replacementOf, replacement, (), ?_,
    rfl⟩
  · by_cases sealedRole : role = .sealedHeldOut
    · exact Or.inr sealedRole
    · exact Or.inl (fits sealedRole).1
  · intro before listed
    by_cases same : before.sourceSha256 = item.sourceSha256
    · exact Or.inr ((compatible before listed).2.1 same)
    · exact Or.inl same
  · by_cases sealedRole : role = .sealedHeldOut
    · exact Or.inr sealedRole
    · exact Or.inl (fits sealedRole).2

/-- The items of one set fit its role and each other. -/
structure Members (role : CorpusRole) (items : List CorpusItem) : Prop where
  fits : ∀ item ∈ items, item.Fits role
  compatible : items.Pairwise CorpusItem.Compatible

theorem canonicalMembers_ok {raws : List Json}
    (read : canonicalMembers role earlier raws = .ok items) :
    Members role items ∧ (∀ before ∈ earlier, ∀ item ∈ items, before.Compatible item) ∧
      items.length = raws.length := by
  induction raws generalizing earlier items with
  | nil =>
    cases read
    exact ⟨⟨by simp, List.Pairwise.nil⟩, by simp, rfl⟩
  | cons raw rest ih =>
    simp only [canonicalMembers, bind_ok, pure_ok] at read
    obtain ⟨item, first, others, later, rfl⟩ := read
    obtain ⟨fits, compatible⟩ := canonicalItem_ok first
    obtain ⟨members, apart, size⟩ := ih later
    refine ⟨⟨?_, ?_⟩, ?_, congrArg (· + 1) size⟩
    · exact forall_mem_cons.mpr ⟨fits, members.fits⟩
    · exact List.Pairwise.cons (apart item (by simp)) members.compatible
    · intro before listed
      refine forall_mem_cons.mpr ⟨compatible before listed, ?_⟩
      exact apart before (mem_append_left _ listed)

theorem canonicalMembers_asDict (members : Members role items)
    (apart : ∀ before ∈ earlier, ∀ item ∈ items, before.Compatible item) :
    canonicalMembers role earlier (items.map (·.asDict)) = .ok items := by
  induction items generalizing earlier with
  | nil => rfl
  | cons item items ih =>
    obtain ⟨first, later⟩ := pairwise_cons.mp members.compatible
    have rest : Members role items :=
      ⟨fun other listed => members.fits other (mem_cons_of_mem item listed), later⟩
    have read : canonicalItem role earlier item.asDict = .ok item := by
      apply canonicalItem_asDict (members.fits item mem_cons_self)
      intro before listed
      exact apart before listed item mem_cons_self
    have others : canonicalMembers role (earlier ++ [item]) (items.map (·.asDict)) =
        .ok items := by
      apply ih rest
      intro before listed other present
      rcases mem_append.mp listed with old | new
      · exact apart before old other (mem_cons_of_mem item present)
      · rw [mem_singleton.mp new]
        exact first other present
    simp only [map_cons, canonicalMembers, bind_ok, pure_ok]
    exact ⟨item, read, items, others, rfl⟩

/-- The items of a manifest are sorted by their identities. -/
def Sorted (items : List CorpusItem) : Prop :=
  items.Pairwise fun first second => first.itemId.val ≤ second.itemId.val

theorem canonicalItems_ok {value : Json} (read : canonicalItems role value = .ok items) :
    Members role items ∧ Sorted items ∧ items ≠ [] := by
  unfold canonicalItems at read
  split at read
  · rename_i raw rest
    simp only [bind_ok, pure_ok] at read
    obtain ⟨unsorted, parsed, rfl⟩ := read
    obtain ⟨members, -, size⟩ := canonicalMembers_ok parsed
    have same := mergeSort_perm unsorted
      (fun first second => decide (first.itemId.val ≤ second.itemId.val))
    refine ⟨⟨?_, ?_⟩, ?_, ?_⟩
    · intro item listed
      exact members.fits item (same.mem_iff.mp listed)
    · exact (same.pairwise_iff (fun compatible => compatible.symm)).mpr members.compatible
    · have ordered : (unsorted.mergeSort fun first second =>
          decide (first.itemId.val ≤ second.itemId.val)).Pairwise fun first second =>
            decide (first.itemId.val ≤ second.itemId.val) = true := by
        apply pairwise_mergeSort
        · intro first second third
          simpa using le_trans
        · intro first second
          simpa using le_total _ _
      exact ordered.imp (by simp)
    · intro empty
      have length := same.length_eq
      rw [empty, size] at length
      simp at length
  · cases read

theorem canonicalItems_asDict (members : Members role items) (sorted : Sorted items)
    (present : items ≠ []) : canonicalItems role (.arr (items.map (·.asDict))) = .ok items := by
  have read : canonicalMembers role [] (items.map (·.asDict)) = .ok items :=
    canonicalMembers_asDict members (by simp)
  have ordered : items.mergeSort (fun first second => decide (first.itemId.val ≤
      second.itemId.val)) = items :=
    mergeSort_of_pairwise (sorted.imp (by simp))
  cases items with
  | nil => exact (present rfl).elim
  | cons item items =>
    rw [map_cons] at read ⊢
    unfold canonicalItems
    simp only [bind_ok, pure_ok]
    exact ⟨_, read, ordered⟩

end

section
variable [Sha256] {manifest : CorpusManifest}

namespace CorpusManifest

/-- What the check of a manifest promises. -/
structure Canonical (manifest : CorpusManifest) : Prop where
  held : manifest.state ∈ manifest.role.states
  members : Members manifest.role manifest.items
  sorted : Sorted manifest.items
  present : manifest.items ≠ []
  retired : manifest.state = .retired → ∀ item ∈ manifest.items, item.state ≠ .active
  eligible : manifest.state = .active ∨ manifest.state = .frozen ∨ manifest.state = .sealed →
    ∃ item ∈ manifest.items, item.state = .active
  contaminated : manifest.role = .sealedHeldOut → manifest.state = .contaminated →
    ∃ item ∈ manifest.items, item.state = .contaminated

end CorpusManifest

theorem canonicalManifest_ok {value : Json} (read : canonicalManifest value = .ok manifest) :
    manifest.Canonical := by
  unfold canonicalManifest at read
  simp only [bind_ok, check_ok, pure_ok, requireMember_ok, Bool.not_eq_true', Bool.and_eq_false_iff,
    Bool.or_eq_false_iff, beq_eq_false_iff_ne, any_eq_false, Bool.not_eq_false', beq_iff_eq,
    any_eq_true] at read
  obtain ⟨_, -, _, -, _, -, role, -, state, ⟨-, held⟩, _, -, record, -, items, parsed, _, retired,
    _, eligible, _, contaminated, setId, -, version, -, predecessor, -, supplied, -, _, -, rfl⟩ :=
    read
  obtain ⟨members, sorted, present⟩ := canonicalItems_ok parsed
  refine ⟨held, members, sorted, present, ?_, ?_, ?_⟩
  · intro same
    exact retired.resolve_left (not_not_intro same)
  · intro same
    refine eligible.resolve_left ?_
    rintro ⟨⟨active, frozen⟩, sealedState⟩
    rcases same with same | same | same
    · exact active same
    · exact frozen same
    · exact sealedState same
  · intro sealedRole same
    rcases contaminated with (other | other) | found
    · exact (other sealedRole).elim
    · exact (other same).elim
    · exact found

namespace CorpusManifest

variable (manifest : CorpusManifest)

/-- Every field but the predecessor is stored in each manifest. -/
theorem asDict_shaped :
    manifest.asDict.keysBetween [] ["predecessor", "schema_version", "set_id", "role", "version",
      "state", "items", "provenance", "access_class", "manifest_fingerprint"] = true ∧
    (["schema_version", "set_id", "role", "version", "state", "items", "provenance",
      "access_class", "manifest_fingerprint"].all (· ∈ manifest.asDict.keys)) = true := by
  unfold asDict content predecessorFields
  cases manifest.predecessor <;> exact ⟨rfl, rfl⟩

theorem field_predecessor :
    manifest.asDict.field "predecessor" = (manifest.predecessor.map (·.asDict)).getD .null := by
  unfold asDict content predecessorFields
  cases manifest.predecessor <;> rfl

/-- The other fields stand in every manifest, with or without a predecessor. -/
theorem asDict_fields : manifest.asDict.field "schema_version" = .str "1.0" ∧
    manifest.asDict.field "role" = .str (Text.Enumeration.value manifest.role) ∧
    manifest.asDict.field "state" = .str (Text.Enumeration.value manifest.state) ∧
    manifest.asDict.field "access_class" = .str manifest.role.accessClass ∧
    manifest.asDict.field "provenance" = manifest.provenance ∧
    manifest.asDict.field "items" = .arr (manifest.items.map (·.asDict)) ∧
    manifest.asDict.field "set_id" = .str manifest.setId.val ∧
    manifest.asDict.field "version" = .str manifest.version.val ∧
    manifest.asDict.field "manifest_fingerprint" = .str manifest.manifestFingerprint.val := by
  unfold asDict content predecessorFields
  cases manifest.predecessor <;> exact ⟨rfl, rfl, rfl, rfl, rfl, rfl, rfl, rfl, rfl⟩

end CorpusManifest

omit [Sha256] in
theorem canonicalProvenance_provenance (manifest : CorpusManifest) :
    canonicalProvenance manifest.role manifest.provenance = .ok manifest.recordSha256 := by
  unfold canonicalProvenance
  simp only [bind_ok, check_ok, requireHash, requireText_ok, beq_iff_eq]
  exact ⟨(), by simp [CorpusManifest.provenance, Json.hasKeys], (), rfl, rfl⟩

/-- A canonical manifest is read back. -/
theorem canonicalManifest_asDict (canonical : manifest.Canonical) :
    canonicalManifest manifest.asDict = .ok manifest := by
  obtain ⟨shaped, complete⟩ := manifest.asDict_shaped
  obtain ⟨schema, role, state, access, provenance, items, setId, version, fingerprint⟩ :=
    manifest.asDict_fields
  have predecessor : optional ManifestReference.parse (manifest.asDict.field "predecessor") =
      .ok manifest.predecessor := by
    rw [manifest.field_predecessor]
    exact optional_asDict (fun _ => rfl) ManifestReference.parse_asDict manifest.predecessor
  unfold canonicalManifest
  rw [schema, role, state, access, provenance, items, setId, version, fingerprint, predecessor]
  simp only [bind_ok, check_ok, pure_ok, requireMember_ok, Bool.not_eq_true', Bool.and_eq_false_iff,
    Bool.or_eq_false_iff, beq_eq_false_iff_ne, any_eq_false, Bool.not_eq_false', beq_iff_eq,
    any_eq_true, requireOpaque, requireVersion, requireHash, requireText_ok]
  refine ⟨(), shaped, (), complete, (), trivial, manifest.role, ⟨rfl, Text.Enumeration.complete _⟩,
    manifest.state, ⟨rfl, canonical.held⟩, (), rfl, manifest.recordSha256,
    canonicalProvenance_provenance manifest, manifest.items,
    canonicalItems_asDict canonical.members canonical.sorted canonical.present, (), ?_, (), ?_,
    (), ?_, manifest.setId, rfl, manifest.version, rfl, manifest.predecessor, rfl,
    manifest.manifestFingerprint, rfl, (), rfl, rfl⟩
  · by_cases same : manifest.state = .retired
    · exact Or.inr (canonical.retired same)
    · exact Or.inl same
  · by_cases same : manifest.state = .active ∨ manifest.state = .frozen ∨ manifest.state = .sealed
    · exact Or.inr (canonical.eligible same)
    · push Not at same
      exact Or.inl ⟨⟨same.1, same.2.1⟩, same.2.2⟩
  · by_cases sealedRole : manifest.role = .sealedHeldOut
    · by_cases same : manifest.state = .contaminated
      · exact Or.inr (canonical.contaminated sealedRole same)
      · exact Or.inl (Or.inr same)
    · exact Or.inl (Or.inl sealedRole)

end
end KSlide
