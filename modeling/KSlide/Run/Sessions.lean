import KSlide.Digest
import KSlide.Run.Phase
import Mathlib.Data.List.Sort

/-
This file gives the bindings of host sessions to runs and shows that sessions stay apart.
-/

namespace KSlide
open List

/-- An absolute path lists its parts. -/
abbrev Location := List String

namespace Location

def parts (text : String) : List String :=
  ((text.toList.splitOn '/').map String.ofList).filter fun part => part != "" && part != "."

def isAbsolute (text : String) : Bool := text.toList.head? == some '/'

/-- An absolute text replaces the path that it is joined to. -/
def join (base : Location) (text : String) : Location :=
  if isAbsolute text then parts text else base ++ parts text

/-- Two dots leave a directory, and the root has no parent. -/
def lexical (path : Location) : Location :=
  path.foldl (fun done part => if part = ".." then done.dropLast else done ++ [part]) []

/-- Two walks from neighbouring directories end at neighbouring levels or meet. -/
theorem walk_level {first second : Location} (path : Location)
    (level : first = second ∨ second.length = first.length + 1) :
    let walk := List.foldl fun (done : Location) part =>
      if part = ".." then done.dropLast else done ++ [part]
    walk first path = walk second path ∨
      (walk second path).length = (walk first path).length + 1 := by
  induction path generalizing first second with
  | nil => exact level
  | cons part rest ih =>
    apply ih
    rcases level with same | deeper
    · exact Or.inl (by rw [same])
    · beta_reduce
      split_ifs
      · cases first with
        | nil =>
          have short : second.dropLast = [] := by
            apply eq_nil_of_length_eq_zero
            rw [length_dropLast, deeper]
            rfl
          exact Or.inl short.symm
        | cons top others =>
          right
          simp only [length_dropLast, deeper, length_cons]
          omega
      · right
        rw [length_append, length_append, deeper]
        exact Nat.add_right_comm first.length 1 1

theorem walk_clean {path : Location} (done : Location) (clean : ".." ∉ path) :
    path.foldl (fun done part => if part = ".." then done.dropLast else done ++ [part]) done =
      done ++ path := by
  induction path generalizing done with
  | nil => simp
  | cons part rest ih =>
    have here : part ≠ ".." := fun same => clean (same ▸ mem_cons_self)
    rw [foldl_cons, if_neg here, ih _ fun listed => clean (mem_cons_of_mem _ listed),
      append_assoc]
    rfl

/-- Two readings of one text that end at one level end at one place. -/
theorem lexical_reading {root path : Location} (clean : ".." ∉ root)
    (level : (lexical (root.dropLast ++ path)).length = (lexical (root ++ path)).length) :
    lexical (root.dropLast ++ path) = lexical (root ++ path) := by
  have clean' : ".." ∉ root.dropLast := fun listed => clean (mem_of_mem_dropLast listed)
  unfold lexical at level ⊢
  rw [foldl_append, foldl_append, walk_clean [] clean, walk_clean [] clean'] at level ⊢
  have start : [] ++ root.dropLast = [] ++ root ∨
      ([] ++ root).length = ([] ++ root.dropLast).length + 1 := by
    cases root with
    | nil => exact Or.inl rfl
    | cons top others =>
      right
      simp
  rcases walk_level path start with same | deeper
  · exact same
  · omega

end Location

/-- A state that cannot be loaded has no phase. -/
structure RunEntry where
  name : String
  mtime : Int
  phase : Option RunPhase
deriving DecidableEq

/-- The run root holds directories, the bindings of the sessions and the deletion fences. -/
structure RunRoot where
  entries : List RunEntry
  bindings : List (String × Option Json)
  fence : String → Except Raised Unit

/-- The links of a host and the checks of its storage layout do not change. -/
structure RunHost where
  root : Location
  resolve : Location → Except Raised Location
  layout : String → Except Raised Unit

section
variable [Sha256]

/-- An empty session identifier has no key. -/
def sessionKey (session : Option String) : Option String :=
  match session with
  | none => none
  | some text => if text = "" then none else
      some (String.ofList ((Sha256.hexdigest text).toList.take 32))

namespace RunRoot

omit [Sha256] in
/-- A new binding hides the earlier one of its key. -/
def putBinding (state : RunRoot) (key runId : String) : RunRoot :=
  { state with bindings :=
      (key, some (.obj [("run_id", .str runId), ("session_key", .str key)])) :: state.bindings }

end RunRoot

def bindSession (host : RunHost) (state : RunRoot) (session : Option String) (runId : String) :
    Except Raised (Option String × RunRoot) :=
  match sessionKey session with
  | none => .ok (none, state)
  | some key => do
    state.fence runId
    host.layout key
    return (some key, state.putBinding key runId)

omit [Sha256] in
/-- A path is a directory of the run root, or the directory of the bindings. -/
def isRunDirectory (host : RunHost) (state : RunRoot) (path : Location) : Bool :=
  state.entries.any (fun entry => path == host.root ++ [entry.name]) ||
    (host.root.getLast? == some ".k-slide-runs" && !state.bindings.isEmpty &&
      path == host.root ++ ["_sessions"])

omit [Sha256] in
/-- The latest run stands first. -/
def runDirs (state : RunRoot) : List RunEntry :=
  (state.entries.filter fun entry => entry.name != "_sessions" &&
    "k-slide-".toList.isPrefixOf entry.name.toList).insertionSort fun first second =>
      second.mtime ≤ first.mtime

omit [Sha256] in
def incompleteRuns (state : RunRoot) : List RunEntry :=
  (runDirs state).filter fun entry =>
    match entry.phase with
    | none => false
    | some phase => phase ∉ RunPhase.terminal

/-- A session has no binding, a binding that is refused, or a binding with its directory. -/
inductive SessionBinding where
  | unbound | refused
  | bound (run : Option Location)
deriving DecidableEq

/-- The handler of a binding catches package errors and these exceptions. -/
def Raised.caught : Raised → Bool
  | .kslide _ => true
  | .other kind => kind ∈ ["KeyError", "TypeError", "ValueError", "OSError"]

omit [Sha256] in
/-- The run of a readable binding. -/
def recordedRun : Option Json → Option String
  | some (.obj fields) =>
    match fields.lookup "run_id" with
    | some (.str runId) => some runId
    | _ => none
  | _ => none

omit [Sha256] in
/-- A binding counts while its run is a directory of the run root. -/
def boundRun (host : RunHost) (state : RunRoot) (runId : String) :
    Except Raised SessionBinding :=
  match host.resolve (Location.join host.root runId) with
  | .ok candidate =>
    .ok (.bound (if isRunDirectory host state candidate then some candidate else none))
  | .error error => if error.caught then .ok .refused else .error error

omit [Sha256] in
def loadBinding (host : RunHost) (state : RunRoot) :
    Option (Option Json) → Except Raised SessionBinding
  | none => .ok .unbound
  | some file =>
    match recordedRun file with
    | none => .ok .refused
    | some runId => boundRun host state runId

omit [Sha256] in
def readBinding (host : RunHost) (state : RunRoot) (key : String) :
    Except Raised SessionBinding := do
  host.layout key
  loadBinding host state (state.bindings.lookup key)

omit [Sha256] in
/-- The first reading of an explicit path that is a directory of the run root decides. -/
def selectExplicit (host : RunHost) (state : RunRoot) (session : Option String)
    (binding : SessionBinding) : List Location → Except Raised (Option Location)
  | [] => .ok none
  | reading :: rest => do
    let candidate ← host.resolve reading
    if isRunDirectory host state candidate then
      return if session.isSome && binding != .bound (some candidate) then none else some candidate
    else selectExplicit host state session binding rest

omit [Sha256] in
def explicitReadings (host : RunHost) (text : String) : List Location :=
  if Location.isAbsolute text then [Location.parts text]
  else [host.root.dropLast ++ Location.parts text, host.root ++ Location.parts text]

def sessionBinding (host : RunHost) (state : RunRoot) (session : Option String) :
    Except Raised SessionBinding :=
  match sessionKey session with
  | none => .ok .unbound
  | some key => readBinding host state key

omit [Sha256] in
/-- Without a session the single incomplete run or the latest run is selected. -/
def localRun (host : RunHost) (state : RunRoot) : Option Location :=
  match incompleteRuns state with
  | [] => (runDirs state).head?.map fun entry => host.root ++ [entry.name]
  | [entry] => some (host.root ++ [entry.name])
  | _ => none

/-- The run of a binding that has a directory. -/
def SessionBinding.run : SessionBinding → Option Location
  | .bound run => run
  | _ => none

/-- A run is selected by its path, by the binding of the session or without a session. -/
def resolveRun (host : RunHost) (state : RunRoot) (explicit session : Option String) :
    Except Raised (Option Location) := do
  let binding ← sessionBinding host state session
  let text := explicit.getD ""
  if binding = .refused then return none
  else if text ≠ "" then selectExplicit host state session binding (explicitReadings host text)
  else if (sessionKey session).isSome then return binding.run
  else return localRun host state

end

/-- A run root changes by bindings and by what happens to its runs. -/
inductive RunRootAction where
  | bind (session : Option String) (runId : String)
  | resolve (explicit session : Option String)
  | create (entry : RunEntry)
  | complete (name : String) (phase : RunPhase)
  | touch (name : String) (mtime : Int)

section
variable [Sha256]

namespace RunRoot

/-- A refused binding changes nothing, and an existing directory is not created again. -/
def step (host : RunHost) (state : RunRoot) : RunRootAction → RunRoot
  | .bind session runId =>
    match bindSession host state session runId with
    | .ok (_, next) => next
    | .error _ => state
  | .resolve _ _ => state
  | .create entry =>
    if state.entries.any (·.name == entry.name) then state
    else { state with entries := state.entries ++ [entry] }
  | .complete name phase => { state with entries := state.entries.map fun entry =>
    if entry.name = name then { entry with phase := some phase } else entry }
  | .touch name mtime => { state with entries := state.entries.map fun entry =>
    if entry.name = name then { entry with mtime } else entry }

def run (host : RunHost) (state : RunRoot) (actions : List RunRootAction) : RunRoot :=
  actions.foldl (step host) state

/-- The run that the binding of a session records. -/
def recorded (state : RunRoot) (session : String) : Option String :=
  (sessionKey (some session)).bind fun key => (state.bindings.lookup key).bind recordedRun

end RunRoot

/-- The binding of a session is written. -/
def binds (host : RunHost) (state : RunRoot) (session : Option String) (runId : String) : Bool :=
  match bindSession host state session runId with
  | .ok (some _, _) => true
  | _ => false

/-- The run that a session was last bound to after one more action. -/
def nextBound (host : RunHost) (state : RunRoot) (session : String) (last : Option String) :
    RunRootAction → Option String
  | .bind other runId =>
    if other = some session ∧ binds host state other runId = true then some runId else last
  | _ => last

/-- The run that a session was last bound to in a sequence of actions. -/
def lastBound (host : RunHost) (session : String) :
    RunRoot → List RunRootAction → Option String → Option String
  | _, [], last => last
  | state, action :: rest, last =>
    lastBound host session (state.step host action) rest (nextBound host state session last action)

/-- The session keys of the actions belong to different sessions. -/
def KeysApart (session : String) (actions : List RunRootAction) : Prop :=
  ∀ other runId, .bind (some other) runId ∈ actions →
    sessionKey (some other) = sessionKey (some session) → other = session

variable {host : RunHost} {state start : RunRoot} {session : String} {key runId : String}
variable {actions : List RunRootAction}

omit [Sha256] in
theorem lookup_putBinding (other : String) (different : other ≠ key) :
    (state.putBinding key runId).bindings.lookup other = state.bindings.lookup other := by
  unfold RunRoot.putBinding
  rw [lookup_cons, beq_eq_false_iff_ne.mpr different]

theorem bindSession_ok {other : Option String} {result : Option String} {next : RunRoot}
    (written : bindSession host state other runId = .ok (result, next)) :
    result = sessionKey other ∧
      next = (result.elim state fun key => state.putBinding key runId) := by
  unfold bindSession at written
  cases known : sessionKey other with
  | none =>
    rw [known] at written
    cases written
    exact ⟨rfl, rfl⟩
  | some key =>
    rw [known] at written
    simp only [bind_ok, pure_ok] at written
    obtain ⟨_, -, _, -, same⟩ := written
    cases same
    exact ⟨rfl, rfl⟩

/-- The binding of another key stays as it is. -/
theorem lookup_step (action : RunRootAction)
    (other : ∀ bound runId, action = .bind bound runId → sessionKey bound ≠ some key) :
    (state.step host action).bindings.lookup key = state.bindings.lookup key := by
  cases action with
  | bind bound runId =>
    rw [RunRoot.step]
    split
    · rename_i result next written
      obtain ⟨named, stored⟩ := bindSession_ok written
      rw [stored]
      cases result with
      | none => rfl
      | some known =>
        apply lookup_putBinding
        intro same
        exact other bound runId rfl (named.symm.trans (congrArg some same.symm))
    · rfl
  | resolve explicit session => rfl
  | create entry =>
    rw [RunRoot.step]
    split <;> rfl
  | complete name phase => rfl
  | touch name mtime => rfl

theorem recorded_step (action : RunRootAction)
    (apart : ∀ other runId, action = .bind (some other) runId →
      sessionKey (some other) = sessionKey (some session) → other = session) :
    (state.step host action).recorded session =
      nextBound host state session (state.recorded session) action := by
  unfold RunRoot.recorded
  cases known : sessionKey (some session) with
  | none =>
    cases action with
    | bind other runId =>
      rw [nextBound, if_neg]
      · rfl
      · rintro ⟨same, written⟩
        rw [same] at written
        simp [binds, bindSession, known] at written
    | _ => rfl
  | some key =>
    show ((state.step host action).bindings.lookup key).bind recordedRun =
      nextBound host state session ((state.bindings.lookup key).bind recordedRun) action
    by_cases own : ∃ runId, action = .bind (some session) runId
    · obtain ⟨runId, same⟩ := own
      rw [same, nextBound, RunRoot.step]
      cases outcome : bindSession host state (some session) runId with
      | error error => simp [binds, outcome]
      | ok written =>
        obtain ⟨result, next⟩ := written
        obtain ⟨named, stored⟩ := bindSession_ok outcome
        rw [known] at named
        rw [if_pos ⟨rfl, by simp [binds, outcome, named]⟩]
        show (next.bindings.lookup key).bind recordedRun = _
        rw [stored, named]
        show (List.lookup key ((key, _) :: _)).bind recordedRun = _
        rw [lookup_cons_self]
        rfl
    · have other : ∀ bound runId, action = .bind bound runId → sessionKey bound ≠ some key := by
        intro bound runId same shared
        cases bound with
        | none => cases shared
        | some text =>
          have equal := apart text runId same (shared.trans known.symm)
          exact own ⟨runId, equal ▸ same⟩
      rw [lookup_step action other]
      cases action with
      | bind bound runId =>
        rw [nextBound, if_neg]
        rintro ⟨same, -⟩
        exact own ⟨runId, same ▸ rfl⟩
      | _ => rfl

theorem recorded_run (apart : KeysApart session actions) :
    (start.run host actions).recorded session =
      lastBound host session start actions (start.recorded session) := by
  induction actions generalizing start with
  | nil => rfl
  | cons action rest ih =>
    have first : (start.step host action).recorded session =
        nextBound host start session (start.recorded session) action :=
      recorded_step action fun other runId same => apart other runId (same ▸ mem_cons_self)
    have later : KeysApart session rest :=
      fun other runId listed => apart other runId (mem_cons_of_mem action listed)
    show ((start.step host action).run host rest).recorded session = _
    rw [ih later, lastBound, first]

variable {explicit : Option String} {path : Location} {binding : SessionBinding}

omit [Sha256] in
theorem selectExplicit_own {readings : List Location}
    (selected : selectExplicit host state (some session) binding readings = .ok (some path)) :
    binding = .bound (some path) := by
  induction readings with
  | nil => cases selected
  | cons reading rest ih =>
    simp only [selectExplicit, bind_ok] at selected
    obtain ⟨candidate, -, chosen⟩ := selected
    split at chosen
    · rw [pure_ok] at chosen
      split at chosen
      · cases chosen
      · rename_i allowed
        cases chosen
        simpa using allowed
    · exact ih chosen

omit [Sha256] in
theorem boundRun_bound (read : boundRun host state runId = .ok (.bound (some path))) :
    host.resolve (Location.join host.root runId) = .ok path := by
  unfold boundRun at read
  split at read
  · rename_i candidate resolved
    rw [Except.ok.injEq, SessionBinding.bound.injEq] at read
    split at read
    · cases read
      exact resolved
    · cases read
  · split at read <;> cases read

omit [Sha256] in
theorem readBinding_bound (read : readBinding host state key = .ok (.bound (some path))) :
    ∃ runId, (state.bindings.lookup key).bind recordedRun = some runId ∧
      host.resolve (Location.join host.root runId) = .ok path := by
  simp only [readBinding, bind_ok] at read
  obtain ⟨_, -, found⟩ := read
  unfold loadBinding at found
  split at found
  · cases found
  · rename_i file stored
    rw [stored, Option.bind_some]
    split at found
    · cases found
    · rename_i runId recorded
      exact ⟨runId, recorded, boundRun_bound found⟩

theorem sessionBinding_bound
    (read : sessionBinding host state (some session) = .ok (.bound (some path))) :
    ∃ runId, state.recorded session = some runId ∧
      host.resolve (Location.join host.root runId) = .ok path := by
  unfold sessionBinding at read
  unfold RunRoot.recorded
  cases known : sessionKey (some session) with
  | none =>
    rw [known] at read
    cases read
  | some key =>
    rw [known] at read
    exact readBinding_bound read

/-- The session is not empty, or a path is given. -/
def Guarded (session : String) (explicit : Option String) : Prop :=
  session ≠ "" ∨ explicit.getD "" ≠ ""

theorem sessionKey_isSome (present : session ≠ "") : (sessionKey (some session)).isSome = true := by
  rw [sessionKey, if_neg present]
  rfl

theorem resolveRun_own (guarded : Guarded session explicit)
    (selected : resolveRun host state explicit (some session) = .ok (some path)) :
    ∃ runId, state.recorded session = some runId ∧
      host.resolve (Location.join host.root runId) = .ok path := by
  simp only [resolveRun, bind_ok] at selected
  obtain ⟨binding, read, chosen⟩ := selected
  apply sessionBinding_bound
  rw [read]
  split at chosen
  · cases chosen
  · split at chosen
    · rw [selectExplicit_own chosen]
    · rename_i absent
      have present := guarded.resolve_right absent
      rw [if_pos (sessionKey_isSome present), pure_ok] at chosen
      cases binding with
      | bound run => rw [← chosen, SessionBinding.run]
      | _ => cases chosen

/-- The directory that the binding of a session names. -/
def ownPath (host : RunHost) (state : RunRoot) (session : String) : Option Location :=
  (state.recorded session).bind fun runId =>
    (host.resolve (Location.join host.root runId)).toOption

/-- An action binds another session or concerns another run. -/
def Foreign (host : RunHost) (state : RunRoot) (session : String) : RunRootAction → Prop
  | .bind other _ => other ≠ some session
  | .resolve _ _ => True
  | .create entry => ownPath host state session ≠ some (host.root ++ [entry.name])
  | .complete name _ => ownPath host state session ≠ some (host.root ++ [name])
  | .touch name _ => ownPath host state session ≠ some (host.root ++ [name])

omit [Sha256] in
/-- The two readings of a relative path name at most one directory of the run root. -/
def OneReading (host : RunHost) (text : String) : Prop :=
  Location.isAbsolute text = true ∨
    ∀ name, host.resolve (host.root.dropLast ++ Location.parts text) = .ok (host.root ++ [name]) →
      ∃ second, host.resolve (host.root ++ Location.parts text) = .ok second ∧
        ∀ other, second = host.root ++ [other] → other = name

/-- What a session sees of the run root. -/
structure Agrees (host : RunHost) (session : String) (state later : RunRoot) : Prop where
  file : ∀ key, sessionKey (some session) = some key →
    later.bindings.lookup key = state.bindings.lookup key
  own : ∀ path, ownPath host state session = some path →
    isRunDirectory host later path = isRunDirectory host state path
  kept : ∀ path, isRunDirectory host state path = true → isRunDirectory host later path = true

variable {later : RunRoot}

theorem Agrees.recorded (agrees : Agrees host session state later) :
    later.recorded session = state.recorded session := by
  unfold RunRoot.recorded
  cases known : sessionKey (some session) with
  | none => rfl
  | some key =>
    show (later.bindings.lookup key).bind recordedRun = _
    rw [agrees.file key known]
    rfl

theorem Agrees.ownPath (agrees : Agrees host session state later) :
    ownPath host later session = ownPath host state session := by
  unfold KSlide.ownPath
  rw [agrees.recorded]

omit [Sha256] in
theorem boundRun_congr (same : ∀ path, host.resolve (Location.join host.root runId) = .ok path →
    isRunDirectory host later path = isRunDirectory host state path) :
    boundRun host later runId = boundRun host state runId := by
  unfold boundRun
  split
  · rename_i candidate resolved
    rw [same candidate resolved]
  · rfl

/-- The binding of a session is read alike. -/
theorem Agrees.sessionBinding (agrees : Agrees host session state later) :
    sessionBinding host later (some session) = sessionBinding host state (some session) := by
  unfold KSlide.sessionBinding
  cases known : sessionKey (some session) with
  | none => rfl
  | some key =>
    show (host.layout key >>= fun _ => loadBinding host later (later.bindings.lookup key)) =
      (host.layout key >>= fun _ => loadBinding host state (state.bindings.lookup key))
    congr 1
    funext _
    rw [agrees.file key known]
    unfold loadBinding
    split
    · rfl
    · rename_i file stored
      split
      · rfl
      · rename_i runId found
        apply boundRun_congr
        intro candidate resolved
        apply agrees.own candidate
        unfold KSlide.ownPath RunRoot.recorded
        rw [known, Option.bind_some, stored, Option.bind_some, found, Option.bind_some, resolved]
        rfl

omit [Sha256] in
theorem isRunDirectory_named (found : isRunDirectory host state path = true) :
    ∃ name, path = host.root ++ [name] := by
  simp only [isRunDirectory, Bool.or_eq_true, any_eq_true, Bool.and_eq_true, beq_iff_eq] at found
  rcases found with ⟨entry, -, same⟩ | ⟨-, same⟩
  · exact ⟨entry.name, same⟩
  · exact ⟨"_sessions", same⟩

theorem Agrees.foreign (agrees : Agrees host session state later)
    (read : KSlide.sessionBinding host state (some session) = .ok binding)
    (present : isRunDirectory host later path = true)
    (absent : isRunDirectory host state path = false) : binding ≠ .bound (some path) := by
  intro same
  rw [same] at read
  obtain ⟨runId, recorded, resolved⟩ := sessionBinding_bound read
  have own : KSlide.ownPath host state session = some path := by
    unfold KSlide.ownPath
    rw [recorded, Option.bind_some, resolved]
    rfl
  rw [agrees.own path own, absent] at present
  cases present

omit [Sha256] in
theorem selectExplicit_foreign {reading : Location} {rest : List Location}
    (resolved : host.resolve reading = .ok path) (present : isRunDirectory host state path = true)
    (other : binding ≠ .bound (some path)) :
    selectExplicit host state (some session) binding (reading :: rest) = .ok none := by
  simp [selectExplicit, resolved, present, other, bind, Except.bind, pure, Except.pure]

omit [Sha256] in
theorem selectExplicit_absent {reading : Location} {rest : List Location}
    (resolved : host.resolve reading = .ok path) (absent : isRunDirectory host state path = false) :
    selectExplicit host state (some session) binding (reading :: rest) =
      selectExplicit host state (some session) binding rest := by
  simp [selectExplicit, resolved, absent, bind, Except.bind]

/-- A reading selects alike when the readings after it do and when nothing else names its
directory. -/
theorem Agrees.reading {reading : Location} {rest : List Location}
    (agrees : Agrees host session state later)
    (read : KSlide.sessionBinding host state (some session) = .ok binding)
    (same : selectExplicit host later (some session) binding rest =
      selectExplicit host state (some session) binding rest)
    (single : ∀ path, host.resolve reading = .ok path → isRunDirectory host later path = true →
      isRunDirectory host state path = false →
        selectExplicit host state (some session) binding rest = .ok none) :
    selectExplicit host later (some session) binding (reading :: rest) =
      selectExplicit host state (some session) binding (reading :: rest) := by
  cases resolved : host.resolve reading with
  | error error => simp [selectExplicit, resolved, bind, Except.bind]
  | ok candidate =>
    cases before : isRunDirectory host state candidate with
    | true =>
      have after := agrees.kept candidate before
      simp [selectExplicit, resolved, before, after, bind, Except.bind]
    | false =>
      rw [selectExplicit_absent resolved before]
      cases after : isRunDirectory host later candidate with
      | true =>
        rw [selectExplicit_foreign resolved after (agrees.foreign read after before),
          single candidate resolved after before]
      | false => rw [selectExplicit_absent resolved after, same]

theorem Agrees.selectExplicit {text : String} (agrees : Agrees host session state later)
    (single : OneReading host text)
    (read : KSlide.sessionBinding host state (some session) = .ok binding) :
    selectExplicit host later (some session) binding (explicitReadings host text) =
      selectExplicit host state (some session) binding (explicitReadings host text) := by
  unfold explicitReadings
  split
  · exact agrees.reading read rfl fun _ _ _ _ => rfl
  · rename_i relative
    apply agrees.reading read (agrees.reading read rfl fun _ _ _ _ => rfl)
    intro path resolved present absent
    obtain ⟨name, named⟩ := isRunDirectory_named present
    obtain ⟨second, resolved', alone⟩ := single.resolve_left relative name (named ▸ resolved)
    have missing : isRunDirectory host state second = false := by
      rw [Bool.eq_false_iff]
      intro found
      obtain ⟨other, named'⟩ := isRunDirectory_named found
      rw [named', alone other named', ← named, absent] at found
      cases found
    rw [selectExplicit_absent resolved' missing]
    rfl

theorem Agrees.resolveRun (agrees : Agrees host session state later)
    (guarded : Guarded session explicit) (single : OneReading host (explicit.getD "")) :
    resolveRun host later explicit (some session) =
      resolveRun host state explicit (some session) := by
  unfold KSlide.resolveRun
  rw [agrees.sessionBinding]
  cases read : KSlide.sessionBinding host state (some session) with
  | error error => rfl
  | ok binding =>
    show (if binding = .refused then _ else _) = (if binding = .refused then _ else _)
    split
    · rfl
    · split
      · exact agrees.selectExplicit single read
      · rename_i absent
        have present := guarded.resolve_right absent
        rw [if_pos (sessionKey_isSome present), if_pos (sessionKey_isSome present)]

theorem isRunDirectory_bind {other : Option String} :
    isRunDirectory host (state.step host (.bind other runId)) path =
      (isRunDirectory host state path || (host.root.getLast? == some ".k-slide-runs" &&
        binds host state other runId && path == host.root ++ ["_sessions"])) := by
  rw [RunRoot.step]
  unfold binds
  cases outcome : bindSession host state other runId with
  | error error => simp
  | ok written =>
    obtain ⟨result, next⟩ := written
    obtain ⟨-, stored⟩ := bindSession_ok outcome
    cases result with
    | none =>
      dsimp only
      rw [stored]
      simp
    | some known =>
      dsimp only
      rw [stored]
      simp only [Option.elim_some, isRunDirectory, RunRoot.putBinding, isEmpty_cons,
        Bool.not_false, Bool.and_true]
      cases state.bindings.isEmpty <;> grind

theorem isRunDirectory_create {entry : RunEntry} :
    isRunDirectory host (state.step host (.create entry)) path =
      (isRunDirectory host state path || path == host.root ++ [entry.name]) := by
  rw [RunRoot.step]
  split
  · rename_i known
    obtain ⟨other, listed, named⟩ := any_eq_true.mp known
    rw [beq_iff_eq] at named
    have present : isRunDirectory host state (host.root ++ [entry.name]) = true := by
      rw [isRunDirectory, Bool.or_eq_true, any_eq_true]
      exact Or.inl ⟨other, listed, by rw [named, beq_self_eq_true]⟩
    by_cases same : path = host.root ++ [entry.name]
    · rw [same, present]
      rfl
    · rw [beq_eq_false_iff_ne.mpr same, Bool.or_false]
  · simp only [isRunDirectory, any_append, any_cons, any_nil, Bool.or_false]
    grind

omit [Sha256] in
theorem any_named {entries : List RunEntry} {change : RunEntry → RunEntry}
    (kept : ∀ entry, (change entry).name = entry.name) :
    (entries.map change).any (fun entry => path == host.root ++ [entry.name]) =
      entries.any (fun entry => path == host.root ++ [entry.name]) := by
  rw [any_map]
  congr 1
  funext entry
  show (path == host.root ++ [(change entry).name]) = _
  rw [kept]

theorem isRunDirectory_kept (action : RunRootAction)
    (present : isRunDirectory host state path = true) :
    isRunDirectory host (state.step host action) path = true := by
  cases action with
  | bind other runId => rw [isRunDirectory_bind, present, Bool.true_or]
  | resolve explicit session => exact present
  | create entry => rw [isRunDirectory_create, present, Bool.true_or]
  | complete name phase =>
    rw [← present, RunRoot.step, isRunDirectory, isRunDirectory, any_named]
    intro entry
    split <;> rfl
  | touch name mtime =>
    rw [← present, RunRoot.step, isRunDirectory, isRunDirectory, any_named]
    intro entry
    split <;> rfl

/-- The directory of the bindings exists once a session is bound. -/
theorem bindings_ne_nil (own : ownPath host state session = some path) :
    state.bindings.isEmpty = false := by
  unfold ownPath RunRoot.recorded at own
  cases known : sessionKey (some session) with
  | none => simp [known] at own
  | some key =>
    cases stored : state.bindings with
    | nil => simp [known, stored] at own
    | cons file rest => rfl

theorem isRunDirectory_own {action : RunRootAction} (foreign : Foreign host state session action)
    (own : ownPath host state session = some path) :
    isRunDirectory host (state.step host action) path = isRunDirectory host state path := by
  cases action with
  | bind other runId =>
    rw [isRunDirectory_bind]
    have held := bindings_ne_nil own
    unfold isRunDirectory
    rw [held]
    grind
  | resolve explicit session => rfl
  | create entry =>
    have different : path ≠ host.root ++ [entry.name] := by
      intro same
      exact foreign (own.trans (congrArg some same))
    rw [isRunDirectory_create, beq_eq_false_iff_ne.mpr different, Bool.or_false]
  | complete name phase =>
    rw [RunRoot.step, isRunDirectory, isRunDirectory, any_named]
    intro entry
    split <;> rfl
  | touch name mtime =>
    rw [RunRoot.step, isRunDirectory, isRunDirectory, any_named]
    intro entry
    split <;> rfl

theorem Agrees.step {action : RunRootAction} (agrees : Agrees host session state later)
    (foreign : Foreign host state session action)
    (apart : ∀ other runId, action = .bind (some other) runId →
      sessionKey (some other) = sessionKey (some session) → other = session) :
    Agrees host session state (later.step host action) where
  file key known := by
    rw [← agrees.file key known]
    apply lookup_step
    intro bound runId same shared
    cases bound with
    | none => cases shared
    | some text =>
      rw [same] at foreign
      exact foreign (congrArg some (apart text runId same (shared.trans known.symm)))
  own path own := by
    have own' : KSlide.ownPath host later session = some path := agrees.ownPath.trans own
    have foreign' : Foreign host later session action := by
      unfold Foreign at foreign ⊢
      rw [agrees.ownPath]
      exact foreign
    exact (isRunDirectory_own foreign' own').trans (agrees.own path own)
  kept path present := isRunDirectory_kept action (agrees.kept path present)

theorem agrees_run (foreign : ∀ action ∈ actions, Foreign host state session action)
    (apart : KeysApart session actions) :
    Agrees host session state (state.run host actions) := by
  have all : ∀ later, Agrees host session state later →
      Agrees host session state (later.run host actions) := by
    induction actions with
    | nil => exact fun later agrees => agrees
    | cons action rest ih =>
      intro later agrees
      obtain ⟨first, others⟩ := forall_mem_cons.mp foreign
      apply ih others fun other runId listed => apart other runId (mem_cons_of_mem _ listed)
      apply agrees.step first
      intro other runId same
      exact apart other runId (same ▸ mem_cons_self)
  exact all state ⟨fun _ _ => rfl, fun _ _ => rfl, fun _ present => present⟩

/-- A session that is not empty or names a path selects nothing but the run that it was last bound
to, and nothing that other sessions and other runs do changes what it selects. -/
theorem session_isolated (guarded : Guarded session explicit)
    (apart : KeysApart session actions) :
    (∀ path, resolveRun host (start.run host actions) explicit (some session) = .ok (some path) →
      ∃ runId, lastBound host session start actions (start.recorded session) = some runId ∧
        host.resolve (Location.join host.root runId) = .ok path) ∧
    (OneReading host (explicit.getD "") →
      (∀ action ∈ actions, Foreign host start session action) →
        resolveRun host (start.run host actions) explicit (some session) =
          resolveRun host start explicit (some session)) := by
  constructor
  · intro path selected
    rw [← recorded_run apart]
    exact resolveRun_own guarded selected
  · intro single foreign
    exact (agrees_run foreign apart).resolveRun guarded single

omit [Sha256] in
/-- A host without links gives every path one reading. -/
theorem oneReading_lexical {text : String} (plain : ∀ path, host.resolve path = .ok path.lexical)
    (clean : ".." ∉ host.root) : OneReading host text := by
  right
  intro name first
  rw [plain, Except.ok.injEq] at first
  refine ⟨_, plain _, ?_⟩
  intro other second
  have same := @Location.lexical_reading host.root (Location.parts text) clean
    (by rw [first, second, length_append, length_append]; rfl)
  rw [first, second] at same
  simpa using same.symm

end

section
attribute [local instance] Sha256.polynomial

/-- A host without links. -/
def sampleHost : RunHost where
  root := ["w", ".k-slide-runs"]
  resolve path := .ok path.lexical
  layout _ := .ok ()

/-- A run root with one unfinished run. -/
def sampleRunRoot : RunRoot where
  entries := [⟨"k-slide-1", 5, some .translating⟩]
  bindings := []
  fence _ := .ok ()

/-- The empty session selects a run that no session was bound to. -/
theorem empty_session_selects : ¬ ∀ (host : RunHost) (start : RunRoot)
    (actions : List RunRootAction) (explicit : Option String) (session : String) (path : Location),
    start.bindings = [] → KeysApart session actions →
      resolveRun host (start.run host actions) explicit (some session) = .ok (some path) →
        ∃ runId, lastBound host session start actions none = some runId ∧
          host.resolve (Location.join host.root runId) = .ok path := by
  intro claimed
  obtain ⟨runId, bound, -⟩ := claimed sampleHost sampleRunRoot [] none ""
    ["w", ".k-slide-runs", "k-slide-1"] rfl (fun _ _ listed => by cases listed) (by decide +kernel)
  cases bound

/-- Another session is bound to a later run. -/
def sampleActions : List RunRootAction :=
  [.create ⟨"k-slide-2", 9, some .created⟩, .bind (some "b") "k-slide-2",
    .complete "k-slide-2" .complete, .resolve none (some "b")]

/-- A run root in which a session is bound to the unfinished run. -/
def boundRunRoot : RunRoot := sampleRunRoot.step sampleHost (.bind (some "a") "k-slide-1")

theorem sampleActions_apart : KeysApart "a" sampleActions := by
  intro other runId listed shared
  simp only [sampleActions, mem_cons, RunRootAction.bind.injEq, reduceCtorEq, false_or,
    not_mem_nil, or_false, Option.some.injEq] at listed
  rw [listed.1] at shared
  exact absurd shared (by decide +kernel)

theorem boundRunRoot_own :
    ownPath sampleHost boundRunRoot "a" = some ["w", ".k-slide-runs", "k-slide-1"] := by
  decide +kernel

theorem sampleActions_foreign :
    ∀ action ∈ sampleActions, Foreign sampleHost boundRunRoot "a" action := by
  simp only [sampleActions, forall_mem_cons, Foreign, boundRunRoot_own, not_mem_nil,
    IsEmpty.forall_iff, implies_true]
  decide

/-- What the other session does leaves the first session with its run. -/
theorem session_isolated_sample :
    ((∀ path, resolveRun sampleHost (boundRunRoot.run sampleHost sampleActions) none (some "a") =
        .ok (some path) →
      ∃ runId, lastBound sampleHost "a" boundRunRoot sampleActions
          (boundRunRoot.recorded "a") = some runId ∧
        sampleHost.resolve (Location.join sampleHost.root runId) = .ok path) ∧
    resolveRun sampleHost (boundRunRoot.run sampleHost sampleActions) none (some "a") =
      resolveRun sampleHost boundRunRoot none (some "a")) ∧
    resolveRun sampleHost boundRunRoot none (some "a") =
      .ok (some ["w", ".k-slide-runs", "k-slide-1"]) := by
  have isolated := @session_isolated _ sampleHost boundRunRoot _ _ none (Or.inl (by decide))
    sampleActions_apart
  have single : OneReading sampleHost "" := oneReading_lexical (fun _ => rfl) (by decide)
  exact ⟨⟨isolated.1, isolated.2 single sampleActions_foreign⟩, by decide +kernel⟩

end

end KSlide
