import KSlide.Json.Record
import KSlide.Text.Unicode

/-
This file gives the two checks for provider routes in a host configuration and compares them.
-/

namespace KSlide
open List
namespace RouteGuard

def agentName : String := "k-slide"
def approvedProviderId : String := "google"
def approvedModelId : String := "gemma-4-31b-it"
def approvedApiId : String := "gemma-4-31b-it"
def approvedApiNpm : String := "@ai-sdk/google"
def approvedApiUrl : String := "https://generativelanguage.googleapis.com/v1beta"

def approvedTarget : String := approvedProviderId ++ "/" ++ approvedModelId

def routeControlKeys : List String := ["api", "apiid", "apinpm", "apiurl", "backend", "baseurl",
  "endpoint", "fallback", "host", "headers", "model", "npm", "package", "packagename", "proxy",
  "provider", "route", "transport", "url", "variants"]

def providerRouteKeys : List String := routeControlKeys ++ ["headers", "provider"]

/-- A configuration lists its sections by name. -/
abbrev Config := List (String × Json)

namespace Config

def field (config : Config) (name : String) : Json := (config.lookup name).getD .null

def set (config : Config) (name : String) (value : Json) : Config :=
  (name, value) :: config.filter fun entry => entry.1 != name

variable {config : Config} {name other : String} {value : Json}

@[simp] theorem field_set_self : (config.set name value).field name = value := by
  unfold field set
  rw [lookup_cons_self]
  rfl

@[simp] theorem field_set_other (different : other ≠ name) :
    (config.set name value).field other = config.field other := by
  have kept : (config.filter fun entry => entry.1 != name).lookup other = config.lookup other := by
    induction config with
    | nil => rfl
    | cons entry config ih =>
      obtain ⟨key, found⟩ := entry
      rw [filter_cons]
      by_cases same : key = name
      · rw [if_neg (by simp [same]), ih, lookup_cons,
          beq_eq_false_iff_ne.mpr fun equal => different (equal.trans same)]
      · rw [if_pos (by simpa using same), lookup_cons, lookup_cons, ih]
  unfold field set
  rw [lookup_cons, beq_eq_false_iff_ne.mpr different]
  dsimp only
  rw [kept]

end Config

section
variable [Unicode]

/-- Keys are compared without their case and without their separators. -/
def normalized (key : String) : String :=
  String.ofList ((Unicode.lower key.toList).filter fun letter => letter != '_' && letter != '-')

mutual
/-- The check before a request finds a route key at any depth. -/
def hasProviderRouteOverride : Json → Bool
  | .arr items => overrideItems items
  | .obj fields => overrideFields fields
  | _ => false

/-- The keys of a list are its positions, and a position is no route key. -/
def overrideItems : List Json → Bool
  | [] => false
  | child :: rest => hasProviderRouteOverride child || overrideItems rest

def overrideFields : List (String × Json) → Bool
  | [] => false
  | (key, child) :: rest => routeControlKeys.elem (normalized key) ||
      hasProviderRouteOverride child || overrideFields rest
end

/-- The bootstrap check of one entry walks below the entry with a model context or without one. -/
def hasUnsafeRouteEntry (key : String) (child : Json) (modelContext : Bool) (below : Bool → Bool) :
    Bool :=
  let name := normalized key
  if name = "id" then modelContext && child != .str approvedApiId
  else if name = "provider" then !child.isObject || below false
  else if name = "options" then below true
  else if name = "headers" then true
  else if !providerRouteKeys.elem name && !routeControlKeys.elem name then
    child.isObject && below modelContext
  else if name = "npm" || name = "apinpm" then child != .str approvedApiNpm
  else if name = "apiid" then child != .str approvedApiId
  else if name = "api" then modelContext || child != .str approvedApiUrl
  else true

mutual
def hasUnsafeRouteOverride : Json → Bool → Bool
  | .arr items, modelContext => unsafeItems items modelContext
  | .obj fields, modelContext => unsafeFields fields modelContext
  | _, _ => false

/-- A position of a list is no route key, and only records in the list are walked. -/
def unsafeItems : List Json → Bool → Bool
  | [], _ => false
  | child :: rest, modelContext =>
    child.isObject && hasUnsafeRouteOverride child modelContext || unsafeItems rest modelContext

def unsafeFields : List (String × Json) → Bool → Bool
  | [], _ => false
  | (key, child) :: rest, modelContext =>
    hasUnsafeRouteEntry key child modelContext
      (fun context => hasUnsafeRouteOverride child context) || unsafeFields rest modelContext
end

def hasModelRouteOverride (value : Json) : Bool := hasUnsafeRouteOverride value true

def hasProviderConfigRouteOverride : Json → Bool
  | .obj fields => fields.any fun entry => entry.1 != "models" &&
      hasUnsafeRouteEntry entry.1 entry.2 false fun context => hasUnsafeRouteOverride entry.2 context
  | _ => false

/-- A target names its provider before the first slash and its model after it. -/
def splitTarget (target : String) : Option (String × String) :=
  match target.toList.span (· != '/') with
  | (_, []) => none
  | ([], _) => none
  | (provider, _ :: model) => some (String.ofList provider, String.ofList model)

def textItems : Json → List String
  | .arr items => items.filterMap fun
      | .str text => some text
      | _ => none
  | _ => []

/-- The approved provider is switched off when the list of disabled providers has it. -/
def disables (config : Config) (provider : String) : Bool :=
  (textItems (config.field "disabled_providers")).elem provider

def addDisabledProvider (config : Config) (provider : String) : Config :=
  if provider = "" then config
  else
    let existing := textItems (config.field "disabled_providers")
    config.set "disabled_providers" (.arr ((existing ++ [provider]).eraseDups.map .str))

/-- The sections for agents and for modes may each hold the agent. -/
def agents (config : Config) : List Json :=
  (([config.field "agent", config.field "mode"].filter Json.isObject).map
    (·.field agentName)).filter Json.isObject

def targetModels (config : Config) : List String :=
  let targets := (agents config).filterMap fun agent =>
    match agent.field "model" with
    | .str model => some model
    | _ => none
  if !targets.isEmpty then targets
  else
    match config.field "model" with
    | .str model => [model]
    | _ => [approvedTarget]

def hasUnsafeModel (provider : Json) (modelId : String) : Bool :=
  match provider.field "models" with
  | .obj models => models.any fun entry => entry.2.isObject &&
      (entry.1 == modelId || entry.2.field "id" == .str modelId) && hasModelRouteOverride entry.2
  | _ => false

def targetProviderConfig (config : Config) (providerId modelId : String) : Bool :=
  let provider := (config.field "provider").field providerId
  provider.isObject && (hasProviderConfigRouteOverride provider || hasUnsafeModel provider modelId)

/-- The approved surface has one provider with one model. -/
def approvedSurface : Json :=
  .obj [(approvedProviderId, .obj [("whitelist", .arr [.str approvedModelId])])]

def hasExactKSlideProviderSurface (config : Config) : Bool :=
  config.field "enabled_providers" == .arr [.str approvedProviderId] &&
    config.field "provider" == approvedSurface && !disables config approvedProviderId

def protectTarget (config : Config) (target : String) : Config :=
  match splitTarget target with
  | none => addDisabledProvider config approvedProviderId
  | some (providerId, modelId) =>
    if modelId = "" then addDisabledProvider config approvedProviderId
    else if providerId != approvedProviderId || modelId != approvedModelId then
      addDisabledProvider config providerId
    else
      let config := if targetProviderConfig config providerId modelId then
        addDisabledProvider config providerId else config
      (agents config).foldl (fun config agent =>
        if hasUnsafeRouteOverride (agent.field "options") true then
          addDisabledProvider config providerId else config) config

def protectKSlideProviderConfig (config : Config) : Config :=
  let config := if hasExactKSlideProviderSurface config then config
    else (addDisabledProvider config approvedProviderId).set "enabled_providers" (.arr [])
  (targetModels config).foldl protectTarget config

end

section
variable [Unicode] {key name : String} {child : Json} {context : Bool}

/-- An entry escapes the bootstrap check when it is a route key with a permitted value or has a
route key below a list or below an identity. -/
def escapesEntry (key : String) (child : Json) (modelContext : Bool) (below : Bool → Bool) : Bool :=
  let name := normalized key
  if name = "id" then hasProviderRouteOverride child
  else if name = "options" then below true
  else if routeControlKeys.elem name then true
  else if child.isObject then below modelContext
  else hasProviderRouteOverride child

mutual
def escapes : Json → Bool → Bool
  | .arr items, modelContext => escapesItems items modelContext
  | .obj fields, modelContext => escapesFields fields modelContext
  | _, _ => false

def escapesItems : List Json → Bool → Bool
  | [], _ => false
  | child :: rest, modelContext =>
    (if child.isObject then escapes child modelContext else hasProviderRouteOverride child) ||
      escapesItems rest modelContext

def escapesFields : List (String × Json) → Bool → Bool
  | [], _ => false
  | (key, child) :: rest, modelContext =>
    escapesEntry key child modelContext (fun context => escapes child context) ||
      escapesFields rest modelContext
end

omit [Unicode] in
theorem providerRouteKeys_elem :
    providerRouteKeys.elem name = true → routeControlKeys.elem name = true := by
  rw [elem_iff, elem_iff]
  revert name
  unfold providerRouteKeys routeControlKeys
  simp

theorem entry_escapes {walk flee : Bool → Bool}
    (below : ∀ context, walk context = false → hasProviderRouteOverride child = flee context)
    (safe : hasUnsafeRouteEntry key child context walk = false) :
    (routeControlKeys.elem (normalized key) || hasProviderRouteOverride child) =
      escapesEntry key child context flee := by
  unfold hasUnsafeRouteEntry at safe
  unfold escapesEntry
  dsimp only at safe ⊢
  generalize normalized key = name at safe ⊢
  by_cases identity : name = "id"
  · rw [if_pos identity, identity]
    rfl
  · rw [if_neg identity] at safe ⊢
    by_cases options : name = "options"
    · have other : name ≠ "provider" := by
        rw [options]
        decide
      rw [if_neg other, if_pos options] at safe
      rw [if_pos options, ← below true safe, options]
      rfl
    · rw [if_neg options]
      by_cases control : routeControlKeys.elem name = true
      · rw [if_pos control, control, Bool.true_or]
      · have plain : routeControlKeys.elem name = false := Bool.not_eq_true _ ▸ control
        have provider : name ≠ "provider" := fun same => control (same ▸ rfl)
        have headers : name ≠ "headers" := fun same => control (same ▸ rfl)
        have free : providerRouteKeys.elem name = false :=
          Bool.eq_false_iff.mpr fun listed => control (providerRouteKeys_elem listed)
        rw [if_neg provider, if_neg options, if_neg headers, free, plain,
          if_pos (show (!false && !false) = true from rfl)] at safe
        rw [if_neg control, plain, Bool.false_or]
        by_cases record : child.isObject = true
        · rw [record, Bool.true_and] at safe
          rw [if_pos record, below context safe]
        · rw [if_neg record]

mutual
/-- What the bootstrap check accepts has a route key exactly when something escapes. -/
theorem override_escapes (value : Json) (context : Bool)
    (safe : hasUnsafeRouteOverride value context = false) :
    hasProviderRouteOverride value = escapes value context := by
  cases value with
  | arr items => exact overrideItems_escapes items context safe
  | obj fields => exact overrideFields_escapes fields context safe
  | _ => rfl

theorem overrideItems_escapes (items : List Json) (context : Bool)
    (safe : unsafeItems items context = false) :
    overrideItems items = escapesItems items context := by
  cases items with
  | nil => rfl
  | cons child rest =>
    rw [unsafeItems, Bool.or_eq_false_iff] at safe
    rw [overrideItems, escapesItems, overrideItems_escapes rest context safe.2]
    by_cases record : child.isObject = true
    · have below := safe.1
      rw [record, Bool.true_and] at below
      rw [if_pos record, override_escapes child context below]
    · rw [if_neg record]

theorem overrideFields_escapes (fields : List (String × Json)) (context : Bool)
    (safe : unsafeFields fields context = false) :
    overrideFields fields = escapesFields fields context := by
  cases fields with
  | nil => rfl
  | cons entry rest =>
    obtain ⟨key, child⟩ := entry
    rw [unsafeFields, Bool.or_eq_false_iff] at safe
    rw [overrideFields, escapesFields, overrideFields_escapes rest context safe.2,
      entry_escapes (fun context => override_escapes child context) safe.1]
end

end

section
variable {config : Config} {other' : Config} {provider other name : String}

theorem textItems_texts (texts : List String) : textItems (.arr (texts.map .str)) = texts := by
  show (texts.map Json.str).filterMap _ = texts
  rw [filterMap_map]
  exact filterMap_some

theorem disables_add : disables (addDisabledProvider config provider) other = true ↔
    disables config other = true ∨ provider ≠ "" ∧ provider = other := by
  unfold addDisabledProvider
  split
  · rename_i empty
    simp [empty]
  · rename_i present
    unfold disables
    rw [Config.field_set_self, textItems_texts, elem_iff, elem_iff, mem_eraseDups,
      mem_append, mem_singleton]
    simp only [present, ne_eq, not_false_eq_true, true_and]
    rw [eq_comm (a := provider)]

/-- Only the list of disabled providers may differ. -/
def Kin (config other : Config) : Prop :=
  ∀ name, name ≠ "disabled_providers" → other.field name = config.field name

theorem kin_add : Kin config (addDisabledProvider config provider) := by
  intro name different
  unfold addDisabledProvider
  split
  · rfl
  · exact Config.field_set_other different

theorem Kin.refl : Kin config config := fun _ _ => rfl

theorem Kin.trans {last : Config} (first : Kin config other') (second : Kin other' last) :
    Kin config last :=
  fun name different => (second name different).trans (first name different)

theorem Kin.agents (kin : Kin config other') : agents other' = agents config := by
  unfold RouteGuard.agents
  rw [kin "agent" (by decide), kin "mode" (by decide)]

variable [Unicode]

theorem Kin.targetProviderConfig (kin : Kin config other') (providerId modelId : String) :
    targetProviderConfig other' providerId modelId =
      targetProviderConfig config providerId modelId := by
  unfold RouteGuard.targetProviderConfig
  rw [kin "provider" (by decide)]

/-- An approved target is refused for its provider or for the options of an agent. -/
def refusesApproved (config : Config) (providerId modelId : String) : Bool :=
  targetProviderConfig config providerId modelId ||
    (agents config).any fun agent => hasUnsafeRouteOverride (agent.field "options") true

/-- A target switches the approved provider off when it is malformed, names another model of it or
is refused. -/
def refuses (config : Config) (target : String) : Bool :=
  match splitTarget target with
  | none => true
  | some (providerId, modelId) =>
    if modelId = "" then true
    else if providerId != approvedProviderId || modelId != approvedModelId then
      providerId == approvedProviderId
    else refusesApproved config providerId modelId

theorem Kin.refuses (kin : Kin config other') (target : String) :
    refuses other' target = refuses config target := by
  unfold RouteGuard.refuses refusesApproved
  simp only [kin.targetProviderConfig, kin.agents]

/-- The options of the agents are checked one after another. -/
theorem foldl_agents (listed : List Json) (config : Config) :
    Kin config (listed.foldl (fun config agent =>
        if hasUnsafeRouteOverride (agent.field "options") true then
          addDisabledProvider config approvedProviderId else config) config) ∧
      (disables (listed.foldl (fun config agent =>
        if hasUnsafeRouteOverride (agent.field "options") true then
          addDisabledProvider config approvedProviderId else config) config)
        approvedProviderId = true ↔ disables config approvedProviderId = true ∨
          (listed.any fun agent => hasUnsafeRouteOverride (agent.field "options") true) = true) := by
  induction listed generalizing config with
  | nil => exact ⟨Kin.refl, by simp⟩
  | cons agent rest ih =>
    rw [foldl_cons, any_cons]
    by_cases bad : hasUnsafeRouteOverride (agent.field "options") true = true
    · obtain ⟨kin, later⟩ := ih (addDisabledProvider config approvedProviderId)
      rw [if_pos bad]
      refine ⟨kin_add.trans kin, later.trans ?_⟩
      rw [disables_add, bad]
      simp [approvedProviderId]
    · rw [if_neg bad]
      obtain ⟨kin, later⟩ := ih config
      refine ⟨kin, later.trans ?_⟩
      rw [Bool.not_eq_true] at bad
      rw [bad, Bool.false_or]

/-- One target changes the list of disabled providers only. -/
theorem protectTarget_spec (config : Config) (target : String) :
    Kin config (protectTarget config target) ∧
      (disables (protectTarget config target) approvedProviderId = true ↔
        disables config approvedProviderId = true ∨ refuses config target = true) := by
  have approved : approvedProviderId ≠ "" := by decide
  unfold protectTarget refuses
  split
  · refine ⟨kin_add, ?_⟩
    rw [disables_add]
    simp [approved]
  · rename_i providerId modelId found
    by_cases empty : modelId = ""
    · rw [if_pos empty, if_pos empty]
      refine ⟨kin_add, ?_⟩
      rw [disables_add]
      simp [approved]
    · rw [if_neg empty, if_neg empty]
      by_cases foreign : (providerId != approvedProviderId || modelId != approvedModelId) = true
      · rw [if_pos foreign, if_pos foreign]
        refine ⟨kin_add, ?_⟩
        rw [disables_add, beq_iff_eq]
        constructor
        · rintro (before | ⟨-, same⟩)
          · exact .inl before
          · exact .inr same
        · rintro (before | same)
          · exact .inl before
          · exact .inr ⟨same ▸ approved, same⟩
      · rw [if_neg foreign, if_neg foreign]
        simp only [Bool.or_eq_true, bne_iff_ne, ne_eq, not_or, not_not] at foreign
        obtain ⟨rfl, rfl⟩ := foreign
        dsimp only
        unfold refusesApproved
        by_cases bad : targetProviderConfig config approvedProviderId approvedModelId = true
        · rw [if_pos bad]
          obtain ⟨kin, later⟩ := foldl_agents
            (agents (addDisabledProvider config approvedProviderId))
            (addDisabledProvider config approvedProviderId)
          refine ⟨kin_add.trans kin, later.trans ?_⟩
          rw [disables_add, bad]
          simp [approved]
        · rw [if_neg bad]
          obtain ⟨kin, later⟩ := foldl_agents (agents config) config
          refine ⟨kin, later.trans ?_⟩
          rw [Bool.not_eq_true] at bad
          rw [bad, Bool.false_or]

theorem foldl_targets (targets : List String) (config : Config) :
    Kin config (targets.foldl protectTarget config) ∧
      (disables (targets.foldl protectTarget config) approvedProviderId = true ↔
        disables config approvedProviderId = true ∨ (targets.any (refuses config)) = true) := by
  induction targets generalizing config with
  | nil => exact ⟨Kin.refl, by simp⟩
  | cons target rest ih =>
    obtain ⟨kin, first⟩ := protectTarget_spec config target
    obtain ⟨kin', later⟩ := ih (protectTarget config target)
    have same : refuses (protectTarget config target) = refuses config := by
      funext target
      exact kin.refuses target
    rw [foldl_cons, any_cons]
    refine ⟨kin.trans kin', later.trans ?_⟩
    rw [first, same, Bool.or_eq_true, or_assoc]

end

section
variable [Unicode] {config : Config} {target : String}

/-- Another target names another provider and a model. -/
def Foreign (target : String) : Prop :=
  ∃ provider model, splitTarget target = some (provider, model) ∧
    provider ≠ approvedProviderId ∧ model ≠ ""

/-- The bootstrap check keeps the approved provider for the exact surface, for targets that are
approved or foreign, and for options that it accepts. -/
structure Kept (config : Config) : Prop where
  surface : hasExactKSlideProviderSurface config = true
  targets : ∀ target ∈ targetModels config, target = approvedTarget ∨ Foreign target
  options : approvedTarget ∈ targetModels config → ∀ agent ∈ agents config,
    hasUnsafeRouteOverride (agent.field "options") true = false

omit [Unicode] in
theorem splitTarget_approved :
    splitTarget approvedTarget = some (approvedProviderId, approvedModelId) := by decide +kernel

omit [Unicode] in
/-- The parts of a target determine it. -/
theorem splitTarget_text {provider model : String}
    (split : splitTarget target = some (provider, model)) :
    target = provider ++ "/" ++ model := by
  unfold splitTarget at split
  rw [span_eq_takeWhile_dropWhile] at split
  have whole := takeWhile_append_dropWhile (p := (· != '/')) (l := target.toList)
  split at split
  · cases split
  · cases split
  · rename_i first separator rest _ parts
    obtain ⟨same, same'⟩ := Prod.mk.inj parts
    obtain ⟨rfl, rfl⟩ := Prod.mk.inj (Option.some.inj split)
    have slash : separator = '/' := by
      have stops := head?_dropWhile_not (· != '/') target.toList
      rw [same'] at stops
      simpa using stops
    rw [same, same', slash] at whole
    apply String.toList_injective
    rw [← whole]
    simp

theorem foreign_of_not_refused (kept : refuses config target = false) :
    target = approvedTarget ∨ Foreign target := by
  unfold refuses at kept
  split at kept
  · cases kept
  · rename_i provider model split
    by_cases empty : model = ""
    · rw [if_pos empty] at kept
      cases kept
    · rw [if_neg empty] at kept
      by_cases other : (provider != approvedProviderId || model != approvedModelId) = true
      · rw [if_pos other, beq_eq_false_iff_ne] at kept
        exact .inr ⟨provider, model, split, kept, empty⟩
      · simp only [Bool.or_eq_true, bne_iff_ne, ne_eq, not_or, not_not] at other
        rw [other.1, other.2] at split
        exact .inl (splitTarget_text split)

theorem refuses_foreign (foreign : Foreign target) : refuses config target = false := by
  obtain ⟨provider, model, split, different, present⟩ := foreign
  unfold refuses
  rw [split]
  dsimp only
  rw [if_neg present, if_pos (by simp [different]), beq_eq_false_iff_ne]
  exact different

theorem refuses_approved : refuses config approvedTarget =
    refusesApproved config approvedProviderId approvedModelId := by
  unfold refuses
  rw [splitTarget_approved]
  dsimp only
  rw [if_neg (by decide), if_neg (by decide)]

theorem targetProviderConfig_surface (surface : config.field "provider" = approvedSurface) :
    targetProviderConfig config approvedProviderId approvedModelId = false := by
  have whitelist : normalized "whitelist" = "whitelist" := by
    have basic : "whitelist".toList.all (·.toNat < 128) = true := by decide +kernel
    unfold normalized
    rw [Unicode.lower_basic _ (by simpa using basic)]
    decide +kernel
  unfold targetProviderConfig
  rw [surface]
  have entry : hasUnsafeRouteEntry "whitelist" (.arr [.str approvedModelId]) false
      (fun context => hasUnsafeRouteOverride (.arr [.str approvedModelId]) context) = false := by
    unfold hasUnsafeRouteEntry
    rw [whitelist]
    rfl
  have options : hasProviderConfigRouteOverride
      (.obj [("whitelist", .arr [.str approvedModelId])]) = false := by
    show ("whitelist" != "models" && hasUnsafeRouteEntry "whitelist" (.arr [.str approvedModelId])
      false (fun context => hasUnsafeRouteOverride (.arr [.str approvedModelId]) context) ||
        false) = false
    rw [entry]
    rfl
  show (hasProviderConfigRouteOverride (.obj [("whitelist", .arr [.str approvedModelId])]) ||
    false) = false
  rw [options]
  rfl

omit [Unicode] in
theorem surface_provider (surface : hasExactKSlideProviderSurface config = true) :
    config.field "enabled_providers" = .arr [.str approvedProviderId] ∧
      config.field "provider" = approvedSurface ∧
      disables config approvedProviderId = false := by
  unfold hasExactKSlideProviderSurface at surface
  rw [Bool.and_eq_true, Bool.and_eq_true, beq_iff_eq, beq_iff_eq, Bool.not_eq_true'] at surface
  exact ⟨surface.1.1, surface.1.2, surface.2⟩

/-- The bootstrap check keeps the approved provider exactly for the kept configurations. -/
theorem kept_iff : disables (protectKSlideProviderConfig config) approvedProviderId = false ↔
    Kept config := by
  unfold protectKSlideProviderConfig
  rw [← Bool.not_eq_true]
  dsimp only
  by_cases surface : hasExactKSlideProviderSurface config = true
  · obtain ⟨-, provider, enabled⟩ := surface_provider surface
    rw [if_pos surface, (foldl_targets _ _).2, enabled]
    simp only [Bool.false_eq_true, false_or, any_eq_true, not_exists, not_and,
      Bool.not_eq_true]
    constructor
    · intro kept
      refine ⟨surface, fun target listed => foreign_of_not_refused (kept target listed), ?_⟩
      intro listed agent held
      have accepted := kept approvedTarget listed
      rw [refuses_approved] at accepted
      unfold refusesApproved at accepted
      rw [Bool.or_eq_false_iff, any_eq_false] at accepted
      exact Bool.not_eq_true _ ▸ accepted.2 agent held
    · intro kept target listed
      rcases kept.targets target listed with rfl | foreign
      · rw [refuses_approved]
        unfold refusesApproved
        rw [targetProviderConfig_surface provider, Bool.false_or, any_eq_false]
        intro agent held
        rw [kept.options listed agent held]
        decide
      · exact refuses_foreign foreign
  · rw [if_neg surface, (foldl_targets _ _).2]
    constructor
    · intro kept
      have off : disables ((addDisabledProvider config approvedProviderId).set "enabled_providers"
          (.arr [])) approvedProviderId = true := by
        have added : disables (addDisabledProvider config approvedProviderId) approvedProviderId =
            true := disables_add.mpr (.inr ⟨by decide, rfl⟩)
        unfold disables at added ⊢
        rw [Config.field_set_other (by decide)]
        exact added
      exact (kept (.inl off)).elim
    · intro kept
      exact (surface kept.surface).elim

/-- A configuration is gated when a kept provider has the approved surface and options that the
check before a request accepts. -/
def Gated (config : Config) : Prop :=
  let after := protectKSlideProviderConfig config
  disables after approvedProviderId = false →
    after.field "enabled_providers" = .arr [.str approvedProviderId] ∧
      after.field "provider" = approvedSurface ∧
      ∀ agent ∈ agents after, agent.field "model" = .str approvedTarget →
        hasProviderRouteOverride (agent.field "options") = false

omit [Unicode] in
theorem agent_target {agent : Json} (held : agent ∈ agents config)
    (approved : agent.field "model" = .str approvedTarget) :
    approvedTarget ∈ targetModels config := by
  unfold targetModels
  dsimp only
  have listed : approvedTarget ∈ (agents config).filterMap fun agent =>
      match agent.field "model" with
      | .str model => some model
      | _ => none := by
    rw [mem_filterMap]
    refine ⟨agent, held, ?_⟩
    rw [approved]
  rw [if_pos]
  · exact listed
  · rw [Bool.not_eq_true', isEmpty_eq_false_iff]
    exact ne_nil_of_mem listed

/-- The bootstrap check is as strict as the check before a request exactly when no option of an
approved agent escapes it. -/
theorem protect_gated (config : Config) : Gated config ↔
    (Kept config → ∀ agent ∈ agents config, agent.field "model" = .str approvedTarget →
      escapes (agent.field "options") true = false) := by
  unfold Gated
  dsimp only
  rw [kept_iff]
  refine imp_congr_right fun kept => ?_
  obtain ⟨enabled, provider, -⟩ := surface_provider kept.surface
  have kin : Kin config (protectKSlideProviderConfig config) := by
    unfold protectKSlideProviderConfig
    rw [if_pos kept.surface]
    exact (foldl_targets _ _).1
  rw [kin "enabled_providers" (by decide), kin "provider" (by decide), kin.agents]
  have same : ∀ agent ∈ agents config, agent.field "model" = .str approvedTarget →
      hasProviderRouteOverride (agent.field "options") =
        escapes (agent.field "options") true := fun agent held approved =>
    override_escapes _ true (kept.options (agent_target held approved) agent held)
  constructor
  · rintro ⟨-, -, free⟩ agent held approved
    rw [← same agent held approved]
    exact free agent held approved
  · intro free
    refine ⟨enabled, provider, fun agent held approved => ?_⟩
    rw [same agent held approved]
    exact free agent held approved

end

section
attribute [local instance] Unicode.basic

/-- The options of the agent have a route key below a list. -/
def nestedConfig : Config := [
  ("agent", .obj [(agentName, .obj [
    ("model", .str approvedTarget),
    ("options", .obj [("extra", .arr [.obj [("baseURL", .str "https://other.example")]])])])]),
  ("enabled_providers", .arr [.str approvedProviderId]),
  ("provider", approvedSurface)]

theorem nestedConfig_escapes :
    disables (protectKSlideProviderConfig nestedConfig) approvedProviderId = false ∧
      ¬ Gated nestedConfig := by
  have kept : disables (protectKSlideProviderConfig nestedConfig) approvedProviderId = false := by
    decide +kernel
  refine ⟨kept, fun gated => ?_⟩
  have free := (gated kept).2.2
  revert free
  decide +kernel

end
end RouteGuard
end KSlide
