import KSlide.Governance.Reviews
import KSlide.Text.Calendar

/-
This file proves what an accepted review step says about the reviews.
-/

namespace KSlide
open List

namespace Review

theorem before_total (first second : Review) : first.Before second ∨ second.Before first := by
  unfold Before
  omega

theorem Before.trans {first second third : Review} (one : first.Before second)
    (two : second.Before third) : first.Before third := by
  unfold Before at *
  omega

theorem Before.id_eq {first second : Review} (one : first.Before second)
    (two : second.Before first) : first.id = second.id := by
  unfold Before at *
  omega

instance : Std.Total Before := ⟨before_total⟩
instance : IsTrans Review Before := ⟨fun _ _ _ => Before.trans⟩

/-- Reviews with distinct identifiers have one order. -/
theorem sort_perm {first second : List Review} (same : first.Perm second)
    (distinct : (first.map (·.id)).Nodup) :
    first.insertionSort Before = second.insertionSort Before := by
  apply List.Perm.eq_of_pairwise _ (pairwise_insertionSort _ first)
    (pairwise_insertionSort _ second)
  · exact (perm_insertionSort _ _).trans (same.trans (perm_insertionSort _ _).symm)
  · intro one two here there before after
    rw [mem_insertionSort] at here there
    exact inj_on_of_nodup_map distinct here (same.mem_iff.mpr there) (before.id_eq after)

end Review

namespace Governance

section
variable [IsoFormat] [Unicode]

theorem readReview_seen {seen : List Int} {raw : Json} {row : Review} :
    readReview seen raw = .ok row ↔ readReview [] raw = .ok row ∧ row.id ∉ seen := by
  unfold readReview
  simp only [bind_ok]
  constructor
  · intro found
    obtain ⟨keys, known, id, one, user, two, login, three, state, four, rest⟩ := found
    cases read : reviewState state with
    | none =>
      rw [read] at rest
      cases rest
    | some found =>
      rw [read] at rest
      simp only [bind_ok, require_ok, decide_eq_true_eq, pure_ok] at rest
      obtain ⟨_, fresh, commit, five, time, six, same⟩ := rest
      constructor
      · use keys, known, id, one, user, two, login, three, state, four
        rw [read]
        simp only [bind_ok, require_ok, decide_eq_true_eq, pure_ok]
        exact ⟨(), not_mem_nil, commit, five, time, six, same⟩
      · rw [← same]
        exact fresh
  · intro found
    obtain ⟨⟨keys, known, id, one, user, two, login, three, state, four, rest⟩, fresh⟩ := found
    use keys, known, id, one, user, two, login, three, state, four
    cases read : reviewState state with
    | none =>
      rw [read] at rest
      cases rest
    | some found =>
      rw [read] at rest
      simp only [bind_ok, require_ok, decide_eq_true_eq, pure_ok] at rest ⊢
      obtain ⟨_, _, commit, five, time, six, same⟩ := rest
      rw [← same] at fresh
      exact ⟨(), fresh, commit, five, time, six, same⟩

/-- A run of the loop appends the readings of all reviews when no identifier is repeated. -/
theorem addReviews_ok {items : List Json} {start final : List Review}
    (distinct : (start.map (·.id)).Nodup) : items.foldlM addReview start = .ok final ↔
      ∃ rows, final = start ++ rows ∧ items.map (readReview []) = rows.map .ok ∧
        (final.map (·.id)).Nodup := by
  induction items generalizing start with
  | nil =>
    constructor
    · intro same
      use []
      rw [← Except.ok.inj same, append_nil]
      exact ⟨rfl, rfl, distinct⟩
    · intro found
      obtain ⟨rows, same, read, _⟩ := found
      rw [map_eq_nil_iff.mp read.symm, append_nil] at same
      rw [same]
      rfl
  | cons item items ih =>
    rw [foldlM_cons]
    have step (next : List Review) : addReview start item = .ok next ↔
        ∃ row, readReview [] item = .ok row ∧ row.id ∉ start.map (·.id) ∧
          start ++ [row] = next := by
      unfold addReview
      rw [bind_ok]
      constructor
      · intro found
        obtain ⟨row, read, same⟩ := found
        obtain ⟨known, fresh⟩ := readReview_seen.mp read
        exact ⟨row, known, fresh, pure_ok.mp same⟩
      · intro found
        obtain ⟨row, known, fresh, same⟩ := found
        exact ⟨row, readReview_seen.mpr ⟨known, fresh⟩, pure_ok.mpr same⟩
    have extended {row : Review} (fresh : row.id ∉ start.map (·.id)) :
        ((start ++ [row]).map (·.id)).Nodup := by
      rw [map_append, nodup_append]
      use distinct
      use nodup_singleton _
      intro one known two last same
      rw [map_singleton, mem_singleton] at last
      rw [same, last] at known
      exact fresh known
    simp only [bind_ok, step]
    constructor
    · intro found
      obtain ⟨next, ⟨row, read, fresh, same⟩, later⟩ := found
      rw [← same] at later
      obtain ⟨rows, whole, rest, nodup⟩ := (ih (extended fresh)).mp later
      use row :: rows
      rw [whole, append_assoc, map_cons, map_cons, read, rest] at *
      exact ⟨rfl, rfl, nodup⟩
    · intro found
      obtain ⟨rows, whole, read, nodup⟩ := found
      cases rows with
      | nil => cases read
      | cons row rows =>
        obtain ⟨head, tail⟩ := List.cons.inj read
        have fresh : row.id ∉ start.map (·.id) := by
          intro listed
          rw [whole, map_append, nodup_append] at nodup
          exact nodup.2.2 _ listed _ mem_cons_self rfl
        use start ++ [row]
        use ⟨row, head, fresh, rfl⟩
        rw [ih (extended fresh)]
        use rows
        rw [append_assoc]
        exact ⟨whole, tail, nodup⟩

theorem readReviews_ok {items : List Json} {rows : List Review} :
    readReviews (.arr items) = .ok rows ↔
      items.map (readReview []) = rows.map .ok ∧ (rows.map (·.id)).Nodup := by
  have nothing : (([] : List Review).map (·.id)).Nodup := nodup_nil
  rw [readReviews, addReviews_ok nothing]
  simp

/-- The reviews in another order give the same rows. -/
theorem readReviews_perm {items others : List Json} {rows : List Review}
    (found : readReviews (.arr items) = .ok rows) (same : items.Perm others) :
    ∃ next, readReviews (.arr others) = .ok next ∧ rows.Perm next := by
  obtain ⟨read, distinct⟩ := readReviews_ok.mp found
  have rowsRead : items.filterMap (fun item => (readReview [] item).toOption) = rows := by
    have mapped := congrArg (List.filterMap Except.toOption) read
    rw [filterMap_map, filterMap_map] at mapped
    exact mapped.trans filterMap_some
  have permuted := same.filterMap fun item => (readReview [] item).toOption
  rw [rowsRead] at permuted
  use others.filterMap fun item => (readReview [] item).toOption
  constructor
  · rw [readReviews_ok]
    constructor
    · have each : ∀ item ∈ others, ∃ row, readReview [] item = .ok row := by
        intro item listed
        have mapped : readReview [] item ∈ items.map (readReview []) :=
          mem_map_of_mem (same.mem_iff.mpr listed)
        rw [read] at mapped
        obtain ⟨row, _, equal⟩ := mem_map.mp mapped
        exact ⟨row, equal.symm⟩
      clear read found permuted rowsRead same
      induction others with
      | nil => rfl
      | cons item others ih =>
        obtain ⟨row, one⟩ := each item mem_cons_self
        rw [filterMap_cons, one, map_cons, one]
        show Except.ok row :: _ = Except.ok row :: _
        rw [ih fun other listed => each other (mem_cons_of_mem _ listed)]
    · exact (permuted.map (·.id)).nodup_iff.mp distinct
  · exact permuted

end

theorem latestByUser_before {rows : List Review} {row : Review} {user : Int}
    (sorted : rows.Pairwise Review.Before) (latest : latestByUser rows user = some row)
    {other : Review} (listed : other ∈ rows) (same : other.userId = user) :
    other = row ∨ other.Before row := by
  obtain ⟨earlier, split⟩ := getLast?_eq_some_iff.mp latest
  have kept : other ∈ rows.filter (·.userId == user) :=
    mem_filter.mpr ⟨listed, beq_iff_eq.mpr same⟩
  have ordered := sorted.sublist (filter_sublist (p := (·.userId == user)))
  rw [split] at kept ordered
  rcases mem_append.mp kept with before | last
  · right
    exact (pairwise_append.mp ordered).2.2 other before row mem_cons_self
  · left
    exact mem_singleton.mp last

theorem mem_ownerGroup {names : List (List Char)} {name : String}
    (listed : name ∈ ownerGroup names) : name.toList ∈ names := by
  unfold ownerGroup at listed
  rw [mem_insertionSort, mem_dedup] at listed
  obtain ⟨letters, known, same⟩ := mem_map.mp listed
  rw [← same, String.toList_ofList]
  exact known

/-- An approval that counts stands behind all that its user said and all change requests. -/
theorem counts_iff {rows : List Review} {authorId : Int} {headSha : String} {row : Review} :
    counts rows authorId headSha row = true ↔ row.state = .approved ∧ row.commitId = headSha ∧
      row.userId ≠ authorId ∧ latestByUser rows row.userId = some row ∧
        ∀ other ∈ rows, other.state = .changesRequested → other.time ≤ row.time := by
  simp [counts, and_assoc]

theorem mem_changedPaths {files changed : List String} (found : changedPaths files = .ok changed)
    {path : String} : path ∈ changed ↔ path ∈ files := by
  unfold changedPaths at found
  simp only [bind_ok, pure_ok] at found
  obtain ⟨_, _, _, _, same⟩ := found
  rw [← same, mem_insertionSort]

section
variable [Unicode]

theorem ownerGroups_ok {rules : List OwnerRule} {sensitive : List String}
    {groups : List (List String)} (found : ownerGroups rules sensitive = .ok groups)
    {path : String} (listed : path ∈ sensitive) :
    ownersForPath rules path ≠ [] ∧ ownerGroup (ownerNames (ownersForPath rules path)) ∈ groups := by
  unfold ownerGroups at found
  induction sensitive generalizing groups with
  | nil => cases listed
  | cons first sensitive ih =>
    rw [mapM_cons] at found
    simp only [bind_ok, require_ok, pure_ok] at found
    obtain ⟨group, ⟨_, owned, here⟩, rest, later, same⟩ := found
    rw [← same]
    rcases mem_cons.mp listed with head | tail
    · rw [head]
      constructor
      · intro none
        rw [none] at owned
        cases owned
      · rw [here]
        exact mem_cons_self
    · obtain ⟨some, member⟩ := ih later tail
      exact ⟨some, mem_cons_of_mem _ member⟩

/-- The accepted approvals are independent and current, and they cover the sensitive paths. -/
structure SoundReview (rows : List Review) (authorId : Int) (headSha : String)
    (rules : List OwnerRule) (files : List String) (approvals : List Review) : Prop where
  some : approvals ≠ []
  approved : ∀ row ∈ approvals, row ∈ rows ∧ row.state = .approved
  independent : ∀ row ∈ approvals, row.userId ≠ authorId
  current : ∀ row ∈ approvals, row.commitId = headSha
  latest : ∀ row ∈ approvals, ∀ other ∈ rows, other.userId = row.userId →
    other = row ∨ other.time < row.time
  unrefused : ∀ row ∈ approvals, ∀ other ∈ rows, other.state = .changesRequested →
    other.time ≤ row.time
  owned : ∀ path ∈ files, pathIsSensitive path = true → ∃ owner ∈ ownersForPath rules path,
    ∃ row ∈ approvals, row.userLogin = Unicode.casefold owner.tail

variable [IsoFormat] {items : List Json} {authorId : Int} {headSha : String}
  {rules : List OwnerRule} {files changed : List String} {enforced : Bool}
  {outcome : ReviewOutcome} {count : Nat}

theorem evaluateReviews_sound
    (accepted : evaluateReviews (.arr items) authorId headSha rules changed enforced = .ok outcome) :
    ∃ rows, readReviews (.arr items) = .ok rows ∧
      SoundReview rows authorId headSha rules changed outcome.approvals := by
  unfold evaluateReviews at accepted
  simp only [bind_ok, require_ok, pure_ok, decide_eq_true_eq] at accepted
  obtain ⟨rows, read, _, distinct, _, occupied, groups, grouped, _, _, _, covered, same⟩ := accepted
  use rows
  use read
  rw [← same]
  have sorted := pairwise_insertionSort Review.Before rows
  have known {row : Review} : row ∈ rows.insertionSort Review.Before ↔ row ∈ rows :=
    mem_insertionSort _
  constructor
  · intro none
    rw [show List.filter _ _ = [] from none] at occupied
    cases occupied
  · intro row listed
    obtain ⟨present, counted⟩ := mem_filter.mp listed
    exact ⟨known.mp present, (counts_iff.mp counted).1⟩
  · intro row listed
    exact (counts_iff.mp (mem_filter.mp listed).2).2.2.1
  · intro row listed
    exact (counts_iff.mp (mem_filter.mp listed).2).2.1
  · intro row listed other present user
    obtain ⟨here, counted⟩ := mem_filter.mp listed
    have latest := (counts_iff.mp counted).2.2.2.1
    have there := known.mpr present
    rcases latestByUser_before sorted latest there user with equal | before
    · left
      exact equal
    · by_cases time : other.time = row.time
      · left
        exact inj_on_of_nodup_map distinct there here (by rw [time, user])
      · right
        unfold Review.Before at before
        omega
  · intro row listed other present
    exact (counts_iff.mp (mem_filter.mp listed).2).2.2.2.2 other (known.mpr present)
  · intro path listed sensitive
    have kept : path ∈ changed.filter pathIsSensitive := mem_filter.mpr ⟨listed, sensitive⟩
    obtain ⟨_, member⟩ := ownerGroups_ok grouped kept
    obtain ⟨name, named, approving⟩ :=
      any_eq_true.mp (all_eq_true.mp covered _ (mem_dedup.mpr member))
    obtain ⟨owner, owns, spelled⟩ := mem_map.mp (mem_ownerGroup named)
    obtain ⟨row, counted, login⟩ := mem_map.mp (of_decide_eq_true approving)
    exact ⟨owner, owns, row, counted, login.trans spelled.symm⟩

theorem evaluateReviews_perm {others : List Json} {rows : List Review}
    (found : readReviews (.arr items) = .ok rows) (same : items.Perm others) :
    evaluateReviews (.arr others) authorId headSha rules changed enforced =
      evaluateReviews (.arr items) authorId headSha rules changed enforced := by
  obtain ⟨next, read, permuted⟩ := readReviews_perm found same
  have sorted := Review.sort_perm permuted (readReviews_ok.mp found).2
  unfold evaluateReviews
  rw [found, read]
  show Except.bind (.ok next) _ = Except.bind (.ok rows) _
  simp only [Except.bind, sorted]

/-- An accepted review step is sound, and it accepts the reviews in every order. -/
theorem reviewStep_sound
    (accepted : reviewStep (.arr items) authorId headSha rules files enforced =
      .ok (outcome, count)) :
    (∃ rows, readReviews (.arr items) = .ok rows ∧
      SoundReview rows authorId headSha rules files outcome.approvals) ∧
    ∀ others, items.Perm others →
      reviewStep (.arr others) authorId headSha rules files enforced = .ok (outcome, count) := by
  have parts := accepted
  unfold reviewStep at parts
  simp only [bind_ok, pure_ok] at parts
  obtain ⟨changed, paths, found, evaluated, _, _, _, _, equal⟩ := parts
  rw [(Prod.mk.inj equal).1] at evaluated
  obtain ⟨rows, read, sound⟩ := evaluateReviews_sound evaluated
  constructor
  · use rows
    use read
    exact { sound with
      owned := fun path listed => sound.owned path ((mem_changedPaths paths).mpr listed) }
  · intro others same
    rw [← accepted]
    unfold reviewStep
    simp only [evaluateReviews_perm read same]

end
end Governance

section
attribute [local instance] Unicode.basic

/-- This reader knows the times without an offset and serves the closed runs. -/
@[reducible] def sampleIsoFormat : IsoFormat where
  read text := (Text.fromIsoformat (String.ofList (text.toList.take 19 ++ ['Z']))).map fun time =>
    some (Int.ofNat time)

attribute [local instance] sampleIsoFormat

def sampleHead : String := "6b86b273ff34fce19d6b804eff5a3f5747ada4ea"

def sampleReview (id user : Int) (login state time : String) : Json := .obj [
  ("commit_id", .str sampleHead), ("id", .int id), ("state", .str state),
  ("submitted_at", .str time), ("user_id", .int user), ("user_login", .str login)]

/-- Another reviewer asks for changes before the owner approves. -/
def sampleReviews : List Json :=
  [sampleReview 1 30 "reader" "CHANGES_REQUESTED" "2026-01-01T00:00:00Z",
   sampleReview 2 20 "kimhw8084" "APPROVED" "2026-01-02T00:00:00Z"]

def sampleRules : List Governance.OwnerRule := [⟨['*'], ["@kimhw8084".toList]⟩]

def sampleReviewRow (id user : Int) (login time : String) (state : ReviewState) : Review :=
  ⟨id, user, login.toList, state, sampleHead, .str time,
    Int.ofNat ((Text.fromIsoformat time).getD 0)⟩

def sampleOutcome : Governance.ReviewOutcome where
  approvals := [sampleReviewRow 2 20 "kimhw8084" "2026-01-02T00:00:00Z" .approved]
  approvingLogins := ["kimhw8084".toList]
  groupCount := 1

theorem sampleReviews_accepted : Governance.reviewStep (.arr sampleReviews) 10 sampleHead sampleRules
    ["src/module.py"] true = .ok (sampleOutcome, 1) := by
  decide +kernel

theorem reviewStep_sound_sample :
    (∃ rows, Governance.readReviews (.arr sampleReviews) = .ok rows ∧
      Governance.SoundReview rows 10 sampleHead sampleRules ["src/module.py"]
        sampleOutcome.approvals) ∧
    Governance.reviewStep (.arr sampleReviews.reverse) 10 sampleHead sampleRules ["src/module.py"]
      true = .ok (sampleOutcome, 1) :=
  ⟨(Governance.reviewStep_sound sampleReviews_accepted).1,
    (Governance.reviewStep_sound sampleReviews_accepted).2 _ (reverse_perm _).symm⟩

theorem sampleReviews_read : Governance.readReviews (.arr sampleReviews) =
    .ok [sampleReviewRow 1 30 "reader" "2026-01-01T00:00:00Z" .changesRequested,
      sampleReviewRow 2 20 "kimhw8084" "2026-01-02T00:00:00Z" .approved] := by
  decide +kernel

/-- A release is accepted although the last word of a reviewer asks for changes. -/
theorem refusing_reviewer_passed : ¬ ∀ (items : List Json) (authorId : Int) (headSha : String)
    (rules : List Governance.OwnerRule) (files : List String) (enforced : Bool)
    (outcome : Governance.ReviewOutcome × Nat) (rows : List Review),
    Governance.reviewStep (.arr items) authorId headSha rules files enforced = .ok outcome →
      Governance.readReviews (.arr items) = .ok rows →
        ∀ row ∈ rows, row.state = .changesRequested → ∃ other ∈ rows,
          other.userId = row.userId ∧ other.state ≠ .commented ∧ row.time < other.time := by
  intro claimed
  obtain ⟨other, listed, user, _, later⟩ := claimed sampleReviews 10 sampleHead sampleRules
    ["src/module.py"] true _ _ sampleReviews_accepted sampleReviews_read _ mem_cons_self rfl
  rcases mem_cons.mp listed with first | rest
  · rw [first] at later
    exact absurd later (lt_irrefl _)
  · rw [mem_singleton.mp rest] at user
    exact absurd user (by decide)

end
end KSlide
