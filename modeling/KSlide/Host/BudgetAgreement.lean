import KSlide.Host.InputBudget

/-
This file proves when an admitted attachment budget is the engine's own budget.
-/

namespace KSlide.InputBudget
open List

theorem get_none {fields : List (String × Node)} {name : String} :
    get fields name = none ↔ name ∉ keys fields := by
  rw [keys, mem_dedup]
  induction fields with
  | nil => simp [get]
  | cons field rest ih =>
    obtain ⟨key, node⟩ := field
    rw [map_cons, mem_cons, not_or, ← ih, get]
    cases found : get rest name with
    | some other => simp
    | none =>
      dsimp only
      rw [eq_comm (a := name)]
      split_ifs with same
      · simp [same]
      · simp [same]

theorem sameSet_iff {first second : List String} :
    sameSet first second = true ↔ ∀ name, name ∈ first ↔ name ∈ second := by
  simp only [sameSet, Bool.and_eq_true, all_eq_true, elem_eq_mem, decide_eq_true_eq]
  exact ⟨fun both name => ⟨both.1 name, both.2 name⟩,
    fun same => ⟨fun name => (same name).mp, fun name => (same name).mpr⟩⟩

section

/-- Joined lines have a newline between each two of them. -/
theorem count_intercalate (first : List Char) (lines : List (List Char)) :
    (List.intercalate ['\n'] (first :: lines)).count '\n' =
      first.count '\n' + (lines.map fun line => line.count '\n' + 1).sum := by
  induction lines generalizing first with
  | nil => simp [List.intercalate]
  | cons next lines ih =>
    have split : List.intercalate ['\n'] (first :: next :: lines) =
        first ++ '\n' :: List.intercalate ['\n'] (next :: lines) := by
      simp [List.intercalate, List.intersperse]
    rw [split, count_append, count_cons_self, ih, map_cons, sum_cons]
    omega

variable {found names : List String}

/-- The sorted form does not depend on the order of the names. -/
theorem joined_perm (same : found.Perm names) : joined found = joined names := by
  have sorted : found.insertionSort (fun first second => first ≤ second) =
      names.insertionSort fun first second => first ≤ second := by
    apply List.Perm.eq_of_pairwise' (r := fun first second : String => first ≤ second)
    · exact pairwise_insertionSort _ _
    · exact pairwise_insertionSort _ _
    · exact ((perm_insertionSort _ found).trans same).trans
        (perm_insertionSort _ names).symm
  rw [joined, sorted, joined]

/-- The joined text has a newline between each two names and those of the names. -/
theorem count_joined (occupied : names ≠ []) : (joined names).count '\n' + 1 =
    (names.map fun name => name.toList.count '\n' + 1).sum := by
  have lines (others : List String) (present : others ≠ []) :
      (List.intercalate ['\n'] (others.map String.toList)).count '\n' + 1 =
        (others.map fun name => name.toList.count '\n' + 1).sum := by
    obtain ⟨first, later, rfl⟩ := exists_cons_of_ne_nil present
    rw [map_cons, count_intercalate, map_cons, sum_cons, map_map]
    show first.toList.count '\n' + _ + 1 = first.toList.count '\n' + 1 + _
    rw [Nat.add_right_comm]
    rfl
  have order := perm_insertionSort (fun first second : String => first ≤ second) names
  have present : names.insertionSort (fun first second => first ≤ second) ≠ [] := fun empty =>
    occupied (perm_nil.mp (empty ▸ order.symm))
  rw [joined, lines _ present]
  exact (order.map _).sum_eq

/-- Keys that hold every name are joined to the same text exactly when there is no other key. -/
theorem joined_eq (distinct : found.Nodup) (unique : names.Nodup) (occupied : names ≠ [])
    (plain : ∀ name ∈ names, name.toList.count '\n' = 0) (listed : ∀ name ∈ names, name ∈ found) :
    joined found = joined names ↔ ∀ name ∈ found, name ∈ names := by
  have within : names.Subperm found := unique.subperm listed
  constructor
  · intro same name kept
    have present : found ≠ [] := fun empty => by
      rw [empty] at within
      exact occupied (subperm_nil.mp within)
    have counted := count_joined present
    rw [same, count_joined occupied] at counted
    have exact_sum : (names.map fun name => name.toList.count '\n' + 1).sum = names.length := by
      rw [map_congr_left fun name kept => by rw [plain name kept], map_const',
        sum_replicate_nat, Nat.mul_one]
    have least : found.length ≤ (found.map fun name => name.toList.count '\n' + 1).sum := by
      have bound := length_le_sum_of_one_le (found.map fun name => name.toList.count '\n' + 1)
        (by simp)
      rwa [length_map] at bound
    have order := within.perm_of_length_le (by omega)
    exact order.mem_iff.mpr kept
  · intro known
    exact joined_perm ((perm_ext_iff_of_nodup distinct unique).mpr fun name =>
      ⟨known name, listed name⟩)

end

section

/-- The fields of a budget name its version, one of the environments and its limits. -/
structure Contract (fields limits : List (String × Node)) : Prop where
  names : ∀ name, name ∈ keys fields ↔ name ∈ persistedFields
  version : (get fields "schema_version").any (Node.isText "1.0") = true
  environment : ((get fields "environment").bind Node.spelled).any (budgetEnvironments.elem ·) = true
  holds : get fields "limits" = some (.obj limits)
  limitNames : ∀ name, name ∈ keys limits ↔ name ∈ budgetFields
  duration : (get limits durationField).any Node.isNull = true
  ranged : ∀ entry ∈ technicalCeilings, withinCeiling limits entry = true

/-- The environment is a text, and every limit is written without a point and an exponent. -/
structure Exact (fields limits : List (String × Node)) : Prop where
  environment : ∃ text, get fields "environment" = some (.str text)
  integers : ∀ entry ∈ technicalCeilings, ∃ literal : Literal,
    get limits entry.1 = some (.number literal) ∧ literal.isInteger = true

theorem fields_agree : resourceBudgetFields = budgetFields := rfl

theorem keys_nodup (fields : List (String × Node)) : (keys fields).Nodup := nodup_dedup _

variable {limits : List (String × Node)} {fields : List (String × Node)} {name : String}

/-- The joined keys are those of a contract exactly when the keys are, once each name is there. -/
theorem joined_contract {names : List String}
    (checked : names.all (fun name => name.toList.count '\n' == 0) = true) (unique : names.Nodup)
    (occupied : names ≠ []) (listed : ∀ name ∈ names, name ∈ keys fields) :
    joined (keys fields) = joined names ↔ ∀ name, name ∈ keys fields ↔ name ∈ names := by
  rw [joined_eq (keys_nodup fields) unique occupied (by simpa using checked) listed]
  exact ⟨fun known name => ⟨known name, listed name⟩, fun same name => (same name).mp⟩

theorem mem_keys_of_get {node : Node}
    (found : get fields name = some node) : name ∈ keys fields := by
  by_contra absent
  rw [get_none.mpr absent] at found
  cases found

theorem mem_keys_of_any {holds : Node → Bool}
    (found : (get fields name).any holds = true) : name ∈ keys fields := by
  cases kept : get fields name with
  | none =>
    rw [kept] at found
    cases found
  | some node => exact mem_keys_of_get kept

theorem mem_keys_of_ceiling {entry : String × Nat}
    (within : withinCeiling limits entry = true) : entry.1 ∈ keys limits := by
  cases kept : get limits entry.1 with
  | none =>
    rw [withinCeiling, kept] at within
    cases within
  | some node => exact mem_keys_of_get kept

theorem mem_keys_of_spelled
    {holds : String → Bool} (found : ((get fields name).bind Node.spelled).any holds = true) :
    name ∈ keys fields := by
  cases kept : get fields name with
  | none =>
    rw [kept] at found
    cases found
  | some node => exact mem_keys_of_get kept

theorem joined_persisted (listed : ∀ name ∈ persistedFields, name ∈ keys fields) :
    joined (keys fields) = joined ["environment", "limits", "schema_version"] ↔
      ∀ name, name ∈ keys fields ↔ name ∈ persistedFields := by
  have order : ["environment", "limits", "schema_version"].Perm persistedFields := by
    decide +kernel
  rw [joined_perm order]
  exact joined_contract (by decide +kernel) (by decide +kernel) (by simp [persistedFields]) listed

theorem joined_limits (listed : ∀ name ∈ budgetFields, name ∈ keys limits) :
    joined (keys limits) = joined resourceBudgetFields ↔
      ∀ name, name ∈ keys limits ↔ name ∈ budgetFields := by
  rw [fields_agree]
  exact joined_contract (by decide +kernel) (by decide +kernel) (by simp [budgetFields]) listed

section
variable {fields limits : List (String × Node)}

theorem persisted_listed (version : (get fields "schema_version").any (Node.isText "1.0") = true)
    (environment : ((get fields "environment").bind Node.spelled).any (budgetEnvironments.elem ·) =
      true) (holds : get fields "limits" = some (.obj limits)) :
    ∀ name ∈ persistedFields, name ∈ keys fields := by
  rw [persistedFields, forall_mem_cons, forall_mem_cons, forall_mem_singleton]
  exact ⟨mem_keys_of_any version, mem_keys_of_spelled environment, mem_keys_of_get holds⟩

theorem limits_listed (ranged : ∀ entry ∈ technicalCeilings, withinCeiling limits entry = true)
    (duration : (get limits durationField).any Node.isNull = true) :
    ∀ name ∈ budgetFields, name ∈ keys limits := by
  intro name listed
  rw [budgetFields, mem_append, mem_singleton] at listed
  rcases listed with listed | rfl
  · obtain ⟨entry, kept, rfl⟩ := mem_map.mp listed
    exact mem_keys_of_ceiling (ranged entry kept)
  · exact mem_keys_of_any duration

/-- The plugin accepts exactly the budgets of the contract. -/
theorem validateResourceBudget_ok {raw : Node} {limit : Int} :
    validateResourceBudget raw = .ok limit ↔ ∃ fields limits, raw = .obj fields ∧
      Contract fields limits ∧
        limit = ((get limits "max_file_bytes").bind Node.safeInteger?).getD 0 := by
  constructor
  · intro accepted
    unfold validateResourceBudget at accepted
    split at accepted
    · rename_i fields
      by_cases names : joined (keys fields) = joined ["environment", "limits", "schema_version"]
      case neg =>
        rw [if_pos (by simpa using names)] at accepted
        cases accepted
      rw [if_neg (by simp [names])] at accepted
      split at accepted
      · rename_i limits holds
        split_ifs at accepted with head tail ceilings
        simp only [Bool.or_eq_true, Bool.not_eq_true', not_or, Bool.not_eq_false, bne_iff_ne,
          not_not] at head tail ceilings
        have ranged := all_eq_true.mp ceilings
        have known := (joined_persisted (persisted_listed head.1 head.2 holds)).mp names
        have whole := (joined_limits (limits_listed ranged tail.2)).mp tail.1
        exact ⟨fields, limits, rfl, ⟨known, head.1, head.2, holds, whole, tail.2, ranged⟩,
          (Except.ok.inj accepted).symm⟩
      · cases accepted
    · cases accepted
  · rintro ⟨fields, limits, rfl, contract, rfl⟩
    have names := (joined_persisted (persisted_listed contract.version contract.environment
      contract.holds)).mpr contract.names
    have whole := (joined_limits (limits_listed contract.ranged contract.duration)).mpr
      contract.limitNames
    have duration := contract.duration
    have ceilings : resourceBudgetCeilings.all (withinCeiling limits) = true :=
      all_eq_true.mpr contract.ranged
    unfold durationField at duration
    rw [validateResourceBudget, if_neg (by simp [names])]
    simp only [contract.holds]
    rw [if_neg (by rw [contract.version, contract.environment]; decide),
      if_neg (by simp [whole, duration]), if_neg (by simp [ceilings])]

end
section
variable {literal : Literal}

theorem size_integer (written : literal.isInteger = true) : literal.size = literal.whole := by
  rw [Literal.isInteger, Bool.and_eq_true, List.isEmpty_iff, Option.isNone_iff_eq_none] at written
  rw [Literal.size, written.1, written.2]
  simp

theorem safeInteger_eq {value : Int} (safe : (Node.number literal).safeInteger? = some value) :
    literal.toNumber = value ∧ value.natAbs ≤ Double.maxSafe := by
  unfold Node.safeInteger? at safe
  dsimp only at safe
  split_ifs at safe with whole
  cases Option.some.inj safe
  exact ⟨(Rat.den_eq_one_iff _).mp whole.1 |>.symm, whole.2⟩

/-- The plugin reads an integer in the safe range as the engine does. -/
theorem safeInteger_int (written : literal.isInteger = true) (positive : 1 ≤ literal.int)
    (small : literal.int ≤ Double.maxSafe) :
    (Node.number literal).safeInteger? = some literal.int := by
  cases sign : literal.negative with
  | true =>
    rw [Literal.int, sign, if_pos rfl] at positive
    omega
  | false =>
    rw [Literal.int, sign, if_neg Bool.false_ne_true] at small ⊢
    have number : literal.toNumber = literal.whole := by
      rw [Literal.toNumber, sign, if_neg Bool.false_ne_true, size_integer written]
      exact Double.ofSize_safe (by omega)
    unfold Node.safeInteger?
    dsimp only
    rw [number, if_pos ⟨Rat.den_natCast _, by rw [Rat.num_natCast]; omega⟩, Rat.num_natCast]

theorem int_safeInteger {value : Int} (written : literal.isInteger = true)
    (safe : (Node.number literal).safeInteger? = some value) (positive : 1 ≤ value) :
    literal.int = value := by
  obtain ⟨number, small⟩ := safeInteger_eq safe
  have least : (1 : ℚ) ≤ value := by exact_mod_cast positive
  have size := size_integer written
  cases sign : literal.negative with
  | true =>
    have nonneg : 0 ≤ Double.ofSize literal.size :=
      Double.ofSize_nonneg (by rw [size]; exact Nat.cast_nonneg _)
    rw [Literal.toNumber, sign, if_pos rfl] at number
    linarith
  | false =>
    rw [Literal.toNumber, sign, if_neg Bool.false_ne_true, size] at number
    rw [Literal.int, sign, if_neg Bool.false_ne_true]
    by_cases range : literal.whole ≤ Double.maxSafe
    · rw [Double.ofSize_safe range] at number
      exact_mod_cast number
    · have beyond := Double.maxSafe_lt_ofSize (not_le.mp range)
      rw [number] at beyond
      have order : (Double.maxSafe : Int) < value := by exact_mod_cast beyond
      omega

end
section
variable {limits : List (String × Node)}

/-- The engine reads an entry as an integer in its range. -/
def Ranged (limits : List (String × Node)) (entry : String × Nat) (value : Int) : Prop :=
  (get limits entry.1).bind Node.integer? = some value ∧ 1 ≤ value ∧ value ≤ entry.2

variable {entries : List (String × Nat)} {entry : String × Nat}

theorem checkRange_ok {limit : { limit // InRange entry limit }}
    (accepted : checkRange limits entry = .ok limit) :
    limit.1.1 = entry.1 ∧ Ranged limits entry limit.1.2 := by
  unfold checkRange at accepted
  split at accepted
  · rename_i value read
    split_ifs at accepted with ranged
    cases accepted
    exact ⟨rfl, read, ranged⟩
  · cases accepted

theorem checkRange_of_ranged {value : Int}
    (ranged : Ranged limits entry value) : ∃ limit, checkRange limits entry = .ok limit := by
  unfold checkRange
  rw [ranged.1]
  dsimp only
  rw [dif_pos ranged.2]
  exact ⟨_, rfl⟩

theorem checkRanges_ok {found : { found // List.Forall₂ InRange entries found }}
    (accepted : checkRanges limits entries = .ok found) :
    ∀ entry ∈ entries, ∃ value, Ranged limits entry value ∧ found.1.lookup entry.1 = some value := by
  induction entries with
  | nil => exact fun _ listed => absurd listed not_mem_nil
  | cons first entries ih =>
    rw [checkRanges] at accepted
    cases head : checkRange limits first with
    | error _ =>
      rw [head] at accepted
      cases accepted
    | ok limit =>
      rw [head] at accepted
      cases tail : checkRanges limits entries with
      | error _ =>
        rw [tail] at accepted
        cases accepted
      | ok later =>
        rw [tail] at accepted
        cases accepted
        have one := checkRange_ok head
        rw [forall_mem_cons]
        constructor
        · refine ⟨limit.1.2, one.2, ?_⟩
          rw [← one.1]
          exact lookup_cons_self
        · intro entry listed
          obtain ⟨value, ranged, kept⟩ := ih tail entry listed
          refine ⟨value, ranged, ?_⟩
          rw [lookup_cons]
          split
          · rename_i same
            have equal : entry.1 = first.1 := (beq_iff_eq.mp same).trans one.1
            have read := ranged.1
            rw [equal, one.2.1] at read
            exact read
          · exact kept

theorem checkRanges_of_ranged (ranged : ∀ entry ∈ entries, ∃ value, Ranged limits entry value) :
    ∃ found, checkRanges limits entries = .ok found := by
  induction entries with
  | nil => exact ⟨_, rfl⟩
  | cons first entries ih =>
    obtain ⟨⟨value, one⟩, others⟩ := forall_mem_cons.mp ranged
    obtain ⟨limit, head⟩ := checkRange_of_ranged one
    obtain ⟨found, tail⟩ := ih others
    rw [checkRanges, head, tail]
    exact ⟨_, rfl⟩

end

section
variable {fields limits : List (String × Node)}

theorem ceilings_safe : ∀ entry ∈ technicalCeilings, entry.2 ≤ Double.maxSafe := by
  have checked : technicalCeilings.all (fun entry => entry.2 ≤ Double.maxSafe) = true := by
    decide +kernel
  simpa using checked

variable {environment : Node} {entry : String × Nat} {node : Node} {value : Int}

theorem integer?_some (read : node.integer? = some value) :
    ∃ literal : Literal, node = .number literal ∧ literal.isInteger = true ∧
      literal.int = value := by
  unfold Node.integer? at read
  split at read
  · rename_i literal
    split_ifs at read with written
    exact ⟨literal, rfl, written, Option.some.inj read⟩
  · cases read

/-- A range that the engine accepts is one that the plugin accepts, in the engine's writing. -/
theorem ranged_iff (small : entry.2 ≤ Double.maxSafe) :
    (∃ value, Ranged limits entry value) ↔ withinCeiling limits entry = true ∧
      ∃ literal : Literal, get limits entry.1 = some (.number literal) ∧
        literal.isInteger = true := by
  constructor
  · rintro ⟨value, read, least, most⟩
    obtain ⟨node, kept, whole⟩ := Option.bind_eq_some_iff.mp read
    obtain ⟨literal, rfl, written, rfl⟩ := integer?_some whole
    have safe := safeInteger_int written least (by omega)
    refine ⟨?_, literal, kept, written⟩
    rw [withinCeiling, kept, Option.bind_some, safe]
    simpa using ⟨least, most⟩
  · rintro ⟨within, literal, kept, written⟩
    rw [withinCeiling, kept, Option.bind_some] at within
    split at within
    · rename_i value safe
      simp only [Bool.and_eq_true, decide_eq_true_eq] at within
      have same := int_safeInteger written safe within.1
      refine ⟨value, ?_, within⟩
      rw [kept, Option.bind_some, Node.integer?, if_pos written, same]
    · cases within

/-- Both readings of a range give one number. -/
theorem safeInteger_ranged (small : entry.2 ≤ Double.maxSafe) (ranged : Ranged limits entry value) :
    (get limits entry.1).bind Node.safeInteger? = some value := by
  obtain ⟨read, least, most⟩ := ranged
  obtain ⟨node, kept, whole⟩ := Option.bind_eq_some_iff.mp read
  obtain ⟨literal, rfl, written, rfl⟩ := integer?_some whole
  rw [kept, Option.bind_some]
  exact safeInteger_int written least (by omega)

theorem parse_some {environment : BudgetEnvironment}
    (known : BudgetEnvironment.parse node = some environment) :
    ∃ text ∈ budgetEnvironments, node = .str text := by
  unfold BudgetEnvironment.parse at known
  split at known
  · exact ⟨_, by simp [budgetEnvironments], rfl⟩
  · exact ⟨_, by simp [budgetEnvironments], rfl⟩
  · cases known

theorem parse_text {text : String} (listed : text ∈ budgetEnvironments) :
    ∃ environment, BudgetEnvironment.parse (.str text) = some environment := by
  rw [budgetEnvironments, mem_pair] at listed
  rcases listed with rfl | rfl
  · exact ⟨_, rfl⟩
  · exact ⟨_, rfl⟩

theorem postInit_ok {budget : BudgetContract}
    (accepted : postInit limits environment = .ok budget) :
    BudgetEnvironment.parse environment = some budget.environment ∧
      (get limits durationField).any Node.isNull = true ∧
        ∀ entry ∈ technicalCeilings, ∃ value, Ranged limits entry value ∧
          budget.limit entry.1 = some value := by
  unfold postInit at accepted
  cases known : BudgetEnvironment.parse environment with
  | none =>
    rw [known] at accepted
    cases accepted
  | some parsed =>
    cases ranges : checkRanges limits technicalCeilings with
    | error _ =>
      rw [known, ranges] at accepted
      cases accepted
    | ok found =>
      rw [known, ranges] at accepted
      change (if (!(get limits durationField).any Node.isNull) = true then _ else _) = _
        at accepted
      split_ifs at accepted with duration
      cases accepted
      exact ⟨rfl, by simpa using duration, checkRanges_ok ranges⟩

theorem postInit_of_ranged {parsed : BudgetEnvironment}
    (known : BudgetEnvironment.parse environment = some parsed)
    (duration : (get limits durationField).any Node.isNull = true)
    (ranged : ∀ entry ∈ technicalCeilings, ∃ value, Ranged limits entry value) :
    ∃ budget, postInit limits environment = .ok budget := by
  obtain ⟨found, ranges⟩ := checkRanges_of_ranged ranged
  refine ⟨⟨found.1, parsed, found.2⟩, ?_⟩
  unfold postInit
  rw [known, ranges]
  show (if (!(get limits durationField).any Node.isNull) = true then _ else _) = _
  rw [duration]
  rfl

theorem max_file_bytes_listed : ("max_file_bytes", 512 * 1024 * 1024) ∈ technicalCeilings :=
  mem_cons_self

theorem getD_obj {node : Option Node} (found : node.getD .null = .obj limits) :
    node = some (.obj limits) := by
  cases node with
  | none => cases found
  | some node => exact congrArg some found

theorem fromMapping_ok {value environment : Node} {budget : BudgetContract}
    (accepted : fromMapping value environment = .ok budget) : ∃ limits, value = .obj limits ∧
      (∀ name, name ∈ keys limits ↔ name ∈ budgetFields) ∧
        postInit limits environment = .ok budget := by
  unfold fromMapping at accepted
  split at accepted
  · rename_i limits
    split_ifs at accepted with names
    rw [Bool.not_eq_true', Bool.not_eq_false, sameSet_iff] at names
    exact ⟨limits, rfl, names, accepted⟩
  · cases accepted

/-- A budget that the engine accepts meets the contract in the engine's writing. -/
theorem fromDict_ok {raw : Node} {budget : BudgetContract} (accepted : fromDict raw = .ok budget) :
    ∃ fields limits, raw = .obj fields ∧ Contract fields limits ∧ Exact fields limits ∧
      (get fields "environment").bind BudgetEnvironment.parse = some budget.environment ∧
        budget.limit "max_file_bytes" = (get limits "max_file_bytes").bind Node.safeInteger? := by
  unfold fromDict at accepted
  split at accepted
  case h_2 => cases accepted
  rename_i fields
  by_cases known : sameSet (keys fields) persistedFields = true
  case neg =>
    rw [if_pos (by simpa using known)] at accepted
    cases accepted
  rw [if_neg (by simpa using known)] at accepted
  have names := sameSet_iff.mp known
  cases mapped : fromMapping ((get fields "limits").getD .null)
      ((get fields "environment").getD .null) with
  | error _ =>
    rw [mapped] at accepted
    cases accepted
  | ok result =>
    rw [mapped] at accepted
    change (if (!(get fields "schema_version").any (Node.isText "1.0")) = true then _ else _) = _
      at accepted
    split_ifs at accepted with version
    cases accepted
    obtain ⟨limits, holds, limitNames, checked⟩ := fromMapping_ok mapped
    obtain ⟨known, duration, ranges⟩ := postInit_ok checked
    obtain ⟨text, listed, spelled⟩ := parse_some known
    have environment : get fields "environment" = some (.str text) := by
      cases kept : get fields "environment" with
      | none =>
        rw [kept] at spelled
        cases spelled
      | some node =>
        rw [kept] at spelled
        exact congrArg some spelled
    have ranged (entry : String × Nat) (kept : entry ∈ technicalCeilings) :=
      (ranged_iff (ceilings_safe entry kept)).mp ((ranges entry kept).imp fun _ both => both.1)
    refine ⟨fields, limits, rfl, ⟨names, by simpa using version, ?_, getD_obj holds, limitNames,
      duration, fun entry kept => (ranged entry kept).1⟩,
      ⟨⟨text, environment⟩, fun entry kept => (ranged entry kept).2⟩, ?_, ?_⟩
    · rw [environment, Option.bind_some, Node.spelled]
      simpa using listed
    · rw [environment] at known ⊢
      exact known
    · obtain ⟨value, read, limit⟩ := ranges _ max_file_bytes_listed
      rw [limit, safeInteger_ranged (ceilings_safe _ max_file_bytes_listed) read]

theorem fromDict_of_exact (contract : Contract fields limits) (exact : Exact fields limits) :
    ∃ budget, fromDict (.obj fields) = .ok budget := by
  obtain ⟨text, environment⟩ := exact.environment
  have listed := contract.environment
  rw [environment, Option.bind_some, Node.spelled, Option.any_some, elem_eq_mem,
    decide_eq_true_eq] at listed
  obtain ⟨parsed, known⟩ := parse_text listed
  have ranged : ∀ entry ∈ technicalCeilings, ∃ value, Ranged limits entry value :=
    fun entry kept => (ranged_iff (ceilings_safe entry kept)).mpr
      ⟨contract.ranged entry kept, exact.integers entry kept⟩
  obtain ⟨budget, checked⟩ := postInit_of_ranged known contract.duration ranged
  refine ⟨budget, ?_⟩
  have whole : sameSet (keys limits) budgetFields = true := sameSet_iff.mpr contract.limitNames
  have names : sameSet (keys fields) persistedFields = true := sameSet_iff.mpr contract.names
  have mapped : fromMapping (.obj limits) (.str text) = .ok budget := by
    rw [fromMapping, whole]
    exact checked
  unfold fromDict
  dsimp only
  rw [contract.holds, environment, names, Option.getD_some, Option.getD_some, mapped]
  show (if (!(get fields "schema_version").any (Node.isText "1.0")) = true then _ else _) = _
  rw [contract.version]
  rfl

end
end

/-- What the plugin admits, the engine accepts with the same limit. -/
def Agreement (file : ProfileFile) (sources : List CandidateSource) : Prop :=
  ∀ limit, configuredInputBudget file sources = .ok limit →
    ∃ budget, loadForWorkspace file (productionRequiredForWorkspace file) = .ok budget ∧
      budget.limit "max_file_bytes" = some limit

/-- Both contracts accept the value or neither does. -/
def SameBudget (raw : Node) : Prop :=
  (∃ limit, validateResourceBudget raw = .ok limit) ↔ ∃ budget, fromDict raw = .ok budget

/-- The profile names a state after development. -/
def ReleaseNamed (fields : List (String × Node)) : Prop :=
  ∃ state, get fields "release_state" = some (.str state) ∧ state ≠ "DEVELOPMENT"

/-- A profile without a budget that the plugin lets pass is read strictly and names no state after
development; a profile with one is read strictly, and its budget is written exactly and is for
production when such a state is named. -/
def Guarded (file : ProfileFile) (sources : List CandidateSource) : Prop :=
  ∀ size encoded fields, file = .document size encoded (.obj fields) → size ≤ maxProfileBytes →
    (Node.obj fields).standard = true →
      ((get fields "resource_budget").all Node.isNull = true →
        (get fields "release_state").any (Node.isText "PRODUCTION_CERTIFIED") = false →
        managedCandidateExists sources = false →
          (encoded && (Node.obj fields).strict) = true ∧ ¬ReleaseNamed fields) ∧
      ∀ budget limits, get fields "resource_budget" = some (.obj budget) → Contract budget limits →
        (encoded && (Node.obj fields).strict) = true ∧ Exact budget limits ∧
          ((get budget "environment").bind BudgetEnvironment.parse = some .production ∨
            ¬ReleaseNamed fields)

section
variable {size : Nat} {encoded : Bool} {fields : List (String × Node)}

theorem productionRequired_iff (read : (encoded && (Node.obj fields).strict) = true) :
    productionRequiredForWorkspace (.document size encoded (.obj fields)) = true ↔
      ReleaseNamed fields := by
  rw [productionRequiredForWorkspace, ProfileFile.read, if_pos read]
  dsimp only
  split
  · rename_i state found
    rw [bne_iff_ne]
    constructor
    · exact fun other => ⟨state, found, other⟩
    · rintro ⟨other, same, different⟩
      rw [found] at same
      cases same
      exact different
  · rename_i other
    constructor
    · exact fun absurd => nomatch absurd
    · rintro ⟨state, found, _⟩
      exact absurd found (other state)

/-- The engine refuses a document that it does not read strictly. -/
theorem strict_of_load {required : Bool} {budget : BudgetContract}
    (accepted : loadForWorkspace (.document size encoded (.obj fields)) required = .ok budget) :
    (encoded && (Node.obj fields).strict) = true := by
  by_contra loose
  rw [loadForWorkspace, ProfileFile.read, if_neg loose] at accepted
  cases accepted

theorem load_without (read : (encoded && (Node.obj fields).strict) = true)
    (absent : (get fields "resource_budget").all Node.isNull = true) (required : Bool) :
    loadForWorkspace (.document size encoded (.obj fields)) required =
      if required then .error unavailable else .ok reference := by
  rw [loadForWorkspace, ProfileFile.read, if_pos read]
  dsimp only
  rw [if_pos absent]

theorem load_with (read : (encoded && (Node.obj fields).strict) = true)
    {budget : List (String × Node)} (found : get fields "resource_budget" = some (.obj budget))
    (required : Bool) :
    loadForWorkspace (.document size encoded (.obj fields)) required = (do
      let result ← fromDict (.obj budget)
      if result.environment != .production && required then
        .error (invalid "Production requires an explicitly production-classified resource budget.")
      else .ok result) := by
  rw [loadForWorkspace, ProfileFile.read, if_pos read]
  dsimp only
  rw [found, if_neg (by simp [Node.isNull])]
  rfl

variable {sources : List CandidateSource}

theorem configured_document (small : size ≤ maxProfileBytes)
    (standard : (Node.obj fields).standard = true) :
    configuredInputBudget (.document size encoded (.obj fields)) sources =
      if (get fields "resource_budget").all Node.isNull then
        if (get fields "release_state").any (Node.isText "PRODUCTION_CERTIFIED") then
          .error .resourceBudgetUnavailable
        else withoutBudget sources
      else validateResourceBudget ((get fields "resource_budget").getD .null) := by
  have bounded : ¬(maxProfileBytes < size ∨ (Node.obj fields).standard = false) := by
    simp [small, standard]
  rw [configuredInputBudget, if_neg (by simpa using bounded)]

theorem admitted_document {limit : Int} {value : Node}
    (admitted : configuredInputBudget (.document size encoded value) sources = .ok limit) :
    ∃ fields, value = .obj fields ∧ size ≤ maxProfileBytes ∧ value.standard = true := by
  unfold configuredInputBudget at admitted
  dsimp only at admitted
  by_cases bounded : (decide (maxProfileBytes < size) || !value.standard) = true
  case pos =>
    rw [if_pos bounded] at admitted
    cases admitted
  rw [if_neg bounded] at admitted
  rw [Bool.or_eq_true, decide_eq_true_eq, Bool.not_eq_true', not_or, not_lt,
    Bool.not_eq_false] at bounded
  cases value with
  | obj fields => exact ⟨fields, rfl, bounded⟩
  | _ => cases admitted

theorem withoutBudget_ok {limit : Int} :
    withoutBudget sources = .ok limit ↔ managedCandidateExists sources = false ∧
      limit = maxInputBytes := by
  unfold withoutBudget
  split_ifs with managed
  · simp [managed]
  · simp only [Except.ok.injEq, managed, true_and]
    exact eq_comm

theorem reference_limit : reference.limit "max_file_bytes" = some maxInputBytes := rfl

theorem agreement_without (small : size ≤ maxProfileBytes)
    (standard : (Node.obj fields).standard = true)
    (absent : (get fields "resource_budget").all Node.isNull = true) :
    Agreement (.document size encoded (.obj fields)) sources ↔
      ((get fields "release_state").any (Node.isText "PRODUCTION_CERTIFIED") = false →
        managedCandidateExists sources = false →
          (encoded && (Node.obj fields).strict) = true ∧ ¬ReleaseNamed fields) := by
  rw [Agreement, configured_document small standard, if_pos absent]
  constructor
  · intro agrees uncertified unmanaged
    rw [uncertified] at agrees
    obtain ⟨budget, loaded, _⟩ := agrees maxInputBytes (withoutBudget_ok.mpr ⟨unmanaged, rfl⟩)
    have read := strict_of_load loaded
    refine ⟨read, fun named => ?_⟩
    rw [load_without read absent, if_pos ((productionRequired_iff read).mpr named)] at loaded
    cases loaded
  · intro guarded limit admitted
    cases certified : (get fields "release_state").any (Node.isText "PRODUCTION_CERTIFIED") with
    | true =>
      rw [certified] at admitted
      cases admitted
    | false =>
      rw [certified] at admitted
      obtain ⟨unmanaged, rfl⟩ := withoutBudget_ok.mp admitted
      obtain ⟨read, unnamed⟩ := guarded certified unmanaged
      refine ⟨reference, ?_, reference_limit⟩
      rw [load_without read absent, if_neg fun required =>
        unnamed ((productionRequired_iff read).mp required)]

theorem agreement_with (small : size ≤ maxProfileBytes)
    (standard : (Node.obj fields).standard = true)
    (present : (get fields "resource_budget").all Node.isNull = false) :
    Agreement (.document size encoded (.obj fields)) sources ↔
      ∀ budget limits, get fields "resource_budget" = some (.obj budget) → Contract budget limits →
        (encoded && (Node.obj fields).strict) = true ∧ Exact budget limits ∧
          ((get budget "environment").bind BudgetEnvironment.parse = some .production ∨
            ¬ReleaseNamed fields) := by
  rw [Agreement, configured_document small standard, if_neg (by simp [present])]
  constructor
  · intro agrees budget limits found contract
    rw [found] at agrees
    obtain ⟨result, loaded, _⟩ := agrees _
      (validateResourceBudget_ok.mpr ⟨budget, limits, rfl, contract, rfl⟩)
    have read := strict_of_load loaded
    rw [load_with read found] at loaded
    cases parsed : fromDict (.obj budget) with
    | error _ =>
      rw [parsed] at loaded
      cases loaded
    | ok known =>
      obtain ⟨other, held, same, other_contract, exact, environment, _⟩ := fromDict_ok parsed
      cases same
      have equal := contract.holds.symm.trans other_contract.holds
      cases equal
      refine ⟨read, exact, ?_⟩
      rw [parsed] at loaded
      change (if (known.environment != .production && _) = true then _ else _) = _ at loaded
      split_ifs at loaded with refused
      rw [environment, Option.some_inj, ← productionRequired_iff read]
      simpa [or_iff_not_imp_left] using refused
  · intro guarded limit admitted
    obtain ⟨budget, limits, whole, contract, rfl⟩ := validateResourceBudget_ok.mp admitted
    have found := getD_obj whole
    obtain ⟨read, exact, environment⟩ := guarded budget limits found contract
    obtain ⟨result, parsed⟩ := fromDict_of_exact contract exact
    obtain ⟨other, held, same, other_contract, _, known, limit⟩ := fromDict_ok parsed
    cases same
    have equal := contract.holds.symm.trans other_contract.holds
    cases equal
    refine ⟨result, ?_, ?_⟩
    · rw [load_with read found, parsed]
      show (if (result.environment != .production && _) = true then _ else _) = _
      rw [if_neg]
      rw [known, Option.some_inj, ← productionRequired_iff read] at environment
      simpa [or_iff_not_imp_left] using environment
    · obtain ⟨value, range⟩ := (ranged_iff (ceilings_safe _ max_file_bytes_listed)).mpr
        ⟨contract.ranged _ max_file_bytes_listed, exact.integers _ max_file_bytes_listed⟩
      have number := safeInteger_ranged (ceilings_safe _ max_file_bytes_listed) range
      rw [limit, number]
      rfl

end

/-- The plugin's budget is the engine's own exactly when the profile is guarded, and the two
contracts agree exactly on the budgets that are written exactly. -/
theorem budget_agreement (file : ProfileFile) (sources : List CandidateSource) (raw : Node) :
    (Agreement file sources ↔ Guarded file sources) ∧
      (SameBudget raw ↔ ∀ fields limits, raw = .obj fields → Contract fields limits →
        Exact fields limits) := by
  constructor
  · cases file with
    | missing =>
      constructor
      · intro _ _ _ _ same
        cases same
      · intro _ limit admitted
        obtain ⟨_, rfl⟩ := withoutBudget_ok.mp admitted
        exact ⟨reference, rfl, reference_limit⟩
    | irregular | unreadable | malformed =>
      constructor
      · intro _ _ _ _ same
        cases same
      · intro _ _ admitted
        cases admitted
    | document size encoded value =>
      constructor
      · rintro agrees _ _ fields ⟨⟩ small standard
        constructor
        · exact fun absent => (agreement_without small standard absent).mp agrees
        · intro budget limits found
          have present : (get fields "resource_budget").all Node.isNull = false := by
            rw [found]
            rfl
          exact (agreement_with small standard present).mp agrees budget limits found
      · intro guarded limit admitted
        obtain ⟨fields, rfl, small, standard⟩ := admitted_document admitted
        have both := guarded size encoded fields rfl small standard
        cases absent : (get fields "resource_budget").all Node.isNull with
        | true => exact (agreement_without small standard absent).mpr (both.1 absent) limit admitted
        | false => exact (agreement_with small standard absent).mpr both.2 limit admitted
  · constructor
    · rintro same fields limits rfl contract
      obtain ⟨budget, accepted⟩ := same.mp ⟨_, validateResourceBudget_ok.mpr
        ⟨fields, limits, rfl, contract, rfl⟩⟩
      obtain ⟨other, held, equal, other_contract, exact, _⟩ := fromDict_ok accepted
      cases equal
      have whole := contract.holds.symm.trans other_contract.holds
      cases whole
      exact exact
    · intro exact
      constructor
      · rintro ⟨limit, accepted⟩
        obtain ⟨fields, limits, rfl, contract, _⟩ := validateResourceBudget_ok.mp accepted
        exact fromDict_of_exact contract (exact fields limits rfl contract)
      · rintro ⟨budget, accepted⟩
        obtain ⟨fields, limits, rfl, contract, _⟩ := fromDict_ok accepted
        exact ⟨_, validateResourceBudget_ok.mpr ⟨fields, limits, rfl, contract, rfl⟩⟩

/-- A profile for a pilot names no budget. -/
def pilotProfile : ProfileFile :=
  .document 35 true (.obj [("release_state", .str "PILOT_APPROVED")])

/-- Every limit of the sample is one. -/
def sampleBudget (environment : Node) : Node :=
  .obj [("schema_version", .str "1.0"), ("environment", environment),
    ("limits", .obj (technicalCeilings.map (fun entry => (entry.1, .number ⟨false, 1, [], none⟩)) ++
      [(durationField, .null)]))]

/-- The plugin admits attachments for a pilot that the engine refuses, and it takes a list with the
name of an environment for the name. -/
theorem pilot_admitted :
    configuredInputBudget pilotProfile [.missing] = .ok maxInputBytes ∧
      loadForWorkspace pilotProfile (productionRequiredForWorkspace pilotProfile) =
        .error unavailable ∧
      validateResourceBudget (sampleBudget (.arr [.str "production"])) = .ok 1 ∧
      fromDict (sampleBudget (.arr [.str "production"])) =
        .error (invalid "Resource budget environment is unsupported.") := by
  refine ⟨by decide +kernel, ?_, by decide +kernel, ?_⟩
  · rfl
  · rfl

end KSlide.InputBudget
