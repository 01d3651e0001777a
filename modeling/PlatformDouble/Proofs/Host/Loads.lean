import PlatformDouble.Host.Configuring
import PlatformDouble.Proofs.Config.Loading
import PlatformDouble.Proofs.EnvFile.Expansion
import PlatformDouble.Proofs.Host.QuietWork

namespace PlatformDouble

/-!
# The environment over a run of requests

The environment is shared by all settings, and whoever builds settings loads a file into
it.  As long as nobody writes a variable otherwise, the first file to give a variable a
value decides: no later file changes it, and a variable that was there before any file
was loaded stays what it was.
-/

open Config

namespace Config.Store

variable {store : Store} {name : String} {file : Option String} {settings : Settings}

@[simp] theorem state_settingsOf
    (name : String)
    (store : Store) :
    (settingsOf name store).state = store := by
  cases found : store.named.get? name <;> simp [settingsOf, found, Traced.done, Traced.fail]

/-- What a store has besides the settings that were made. -/
def bare (store : Store) : Store :=
  { store with named := Table.empty, shared := none, placed := 0 }

theorem bare_setIn
    (name key : String)
    (value : Value)
    (store : Store) :
    (setIn name key value store).state.bare = store.bare := by
  unfold setIn
  rw [Traced.view_bind_of_kept bare, state_settingsOf]
  intro settings reached
  rw [Traced.current_bind, Traced.view_bind_of_kept bare, Settings.state_set]
  rintro ⟨known, changed⟩ stored
  rfl

theorem bare_create
    (name : String)
    (file : Option String)
    (overrides : Overrides)
    (store : Store) :
    (create name file overrides store).state.bare =
      { store.bare with environment := store.environmentAfter file } := by
  refine (Traced.view_bind_of_kept bare (fun _ _ => rfl) store).trans ?_
  rw [state_build]
  rfl

/-- To build the global settings anew loads the file, and changes no more than these settings. -/
theorem exists_state_reload
    (file : Option String)
    (store : Store) :
    ∃ shared placed,
      (reload file store).state =
        { store with
          environment := store.environmentAfter file
          shared := shared
          placed := placed } := by
  cases builds : (build file Table.empty store).result with
  | ok settings =>
      rw [reload_of_built builds, state_build]
      exact ⟨some settings, store.placed + 1, rfl⟩
  | error fault =>
      rw [reload_of_unbuilt builds, state_build]
      exact ⟨store.shared, store.placed, rfl⟩

theorem bare_reload
    (file : Option String)
    (store : Store) :
    (reload file store).state.bare =
      { store.bare with environment := store.environmentAfter file } := by
  obtain ⟨shared, placed, reached⟩ := exists_state_reload file store
  rw [reached]
  rfl

theorem schema_reload
    (file : Option String)
    (store : Store) :
    (reload file store).state.schema = store.schema := by
  obtain ⟨shared, placed, reached⟩ := exists_state_reload file store
  rw [reached]

/-- Settings that are built from a file that is loaded already come out as they did before. -/
theorem build_reload
    (givesAlike : store.loader.GivesAlike)
    (accepts : store.Accepts file)
    (overrides : Overrides) :
    build file overrides (reload file store).state =
      { build file overrides store with state := (reload file store).state } := by
  obtain ⟨shared, placed, reached⟩ := exists_state_reload file store
  have builtAgain :
      Settings.build store.loader store.schema (store.contentOf file) overrides
          (store.environmentAfter file) =
        Settings.build store.loader store.schema (store.contentOf file) overrides
          store.environment :=
    Traced.bind_congr (EnvFile.Loader.load_load givesAlike accepts)
  have sameEnvironment :
      (Settings.build store.loader store.schema (store.contentOf file) overrides
          store.environment).state =
        store.environmentAfter file :=
    Settings.state_build _ _ _ _ _
  rw [reached, ← sameEnvironment]
  rw [← sameEnvironment] at builtAgain
  refine Eq.trans ?_ (congrArg
    (fun built : Outcome LogAction Environment Settings =>
      ({ built with
          state :=
            { store with
              environment := built.state
              shared := shared
              placed := placed } } : Outcome LogAction Store Settings)) builtAgain)
  rfl

/-- Settings that are built anew once more are as they were, and are put in place again. -/
theorem reload_reload
    (givesAlike : store.loader.GivesAlike)
    (accepts : store.Accepts file) :
    let reached := (reload file store).state
    ∃ placed,
      reload file reached =
        { reload file store with state := { reached with placed := placed } } := by
  intro reached
  have again := build_reload givesAlike accepts Table.empty
  have endsAgain := congrArg Outcome.result again
  cases builds : (build file Table.empty store).result with
  | ok settings =>
      have isReached : reached = place settings (build file Table.empty store).state :=
        congrArg Outcome.state (reload_of_built builds)
      refine ⟨reached.placed + 1, ?_⟩
      rw [reload_of_built (endsAgain.trans builds), again,
        applyLevel_elsewhere settings store (reload file store).state, isReached,
        reload_of_built builds]
      rfl
  | error fault =>
      have isReached : reached = (build file Table.empty store).state :=
        (congrArg Outcome.state (reload_of_unbuilt builds)).trans rfl
      refine ⟨reached.placed, ?_⟩
      rw [reload_of_unbuilt (endsAgain.trans builds), again, isReached, reload_of_unbuilt builds]

/-- The environment once the global settings were asked for. -/
def environmentOfShared (store : Store) : Environment :=
  if store.shared.isNone then store.environmentAfter none else store.environment

/-- Global settings that are first needed are built without a given file. -/
theorem bare_sharedSettings
    (store : Store) :
    (sharedSettings store).state.bare =
      { store.bare with environment := store.environmentOfShared } := by
  cases isShared : store.shared with
  | some settings =>
      rw [sharedSettings_of_some isShared, environmentOfShared, isShared]
      rfl
  | none =>
      rw [sharedSettings_of_none isShared, bare_reload, environmentOfShared, isShared]
      rfl

theorem bare_setShared
    (key : String)
    (value : Value)
    (store : Store) :
    (setShared key value store).state.bare = (sharedSettings store).state.bare := by
  unfold setShared
  rw [Traced.view_bind_of_kept bare]
  intro settings reached
  rw [Traced.current_bind, Traced.view_bind_of_kept bare, Settings.state_set]
  rintro ⟨known, changed⟩ stored
  rfl

/-- To check settings changes nothing, whatever it finds. -/
theorem bare_validated
    (settings : Settings)
    (store : Store) :
    (((do
        let reached ← Traced.current
        let (_, complaints) ← Traced.ofResult (settings.validate reached.schema)
        pure (.known (.complaints complaints))) : Traced LogAction Store Response)
        store).state.bare =
      store.bare := by
  rw [Traced.current_bind]
  exact Traced.view_bind_of_kept bare (fun ⟨_, _⟩ _ => rfl) store

end Config.Store

namespace ConfigRequest

/-- Whether a request writes the environment itself, rather than by a file. -/
def writesVariable : ConfigRequest → Bool
  | setVariable _ _ => true
  | unsetVariable _ => true
  | _ => false

/-- The file that a request is given to build settings from, if it is given any. -/
def file : ConfigRequest → Option String
  | create _ _ file => file
  | reload file => file
  | _ => none

/-- Whether a request builds settings, so that a file is loaded if there is one. -/
def loads (store : Store) : ConfigRequest → Bool
  | create _ _ _ => true
  | reload _ => true
  | sharedGet _ _ => store.shared.isNone
  | sharedSet _ _ => store.shared.isNone
  | sharedAll => store.shared.isNone
  | sharedValidate => store.shared.isNone
  | _ => false

/-- The content that is found from then on where no file is given. -/
def foundAfter (store : Store) : ConfigRequest → Option String
  | placeFile content => content
  | _ => store.found

/-- What a request that writes no variable itself leaves, besides settings. -/
theorem bare_answer
    {request : ConfigRequest}
    (isReading : request.writesVariable = false)
    (store : Store) :
    (request.answer store).state.bare =
      { store.bare with
        environment :=
          if request.loads store then store.environmentAfter request.file else store.environment
        found := request.foundAfter store } := by
  cases request with
  | create name overrides file =>
      refine (Traced.view_bind_of_kept Store.bare (fun _ _ => rfl) store).trans ?_
      exact Store.bare_create name file overrides store
  | reload file =>
      refine (Traced.view_bind_of_kept Store.bare (fun _ _ => rfl) store).trans ?_
      exact Store.bare_reload file store
  | set name key value =>
      refine (Traced.view_bind_of_kept Store.bare (fun _ _ => rfl) store).trans ?_
      exact Store.bare_setIn name key value store
  | get name _ _ | all name =>
      refine (Traced.view_bind_of_kept Store.bare (fun _ _ => rfl) store).trans ?_
      rw [Store.state_settingsOf]
      rfl
  | validate name =>
      refine (Traced.view_bind_of_kept Store.bare (fun settings reached => ?_) store).trans ?_
      · exact Store.bare_validated settings reached
      · rw [Store.state_settingsOf]
        rfl
  | sharedSet key value =>
      refine (Traced.view_bind_of_kept Store.bare (fun _ _ => rfl) store).trans ?_
      exact (Store.bare_setShared key value store).trans (Store.bare_sharedSettings store)
  | sharedGet _ _ | sharedAll =>
      refine (Traced.view_bind_of_kept Store.bare (fun _ _ => rfl) store).trans ?_
      exact Store.bare_sharedSettings store
  | sharedValidate =>
      refine (Traced.view_bind_of_kept Store.bare (fun settings reached => ?_) store).trans ?_
      · exact Store.bare_validated settings reached
      · exact Store.bare_sharedSettings store
  | setVariable _ _ | unsetVariable _ =>
      cases isReading
  | forgetShared | placeFile _ | variableValue _ | environment | schema | field _ =>
      rfl
  | category word =>
      refine Traced.view_bind_of_kept Store.bare (fun _ reached => ?_) store
      exact Traced.view_bind_of_kept Store.bare (fun _ _ => rfl) reached

/-- The store that requests lead to, each performed whatever became of those before. -/
def after (requests : List ConfigRequest) (store : Store) : Store :=
  requests.foldl (fun reached request => (request.answer reached).state) store

/-- A load: what reads its file, the environment it finds, and what is in the file. -/
structure Load where
  loader : EnvFile.Loader
  environment : Environment
  content : Option String

/-- The value that the file of a load gives a variable, if it gives it any. -/
def Load.gives? (load : Load) (name : String) : Option String :=
  load.loader.gives? load.environment load.content name

/-- Whether the environment that a load finds accepts its file. -/
def Load.IsAccepted (load : Load) : Prop :=
  load.loader.Accepts load.environment load.content

/-- The loads that requests perform, in order. -/
def loadsOf : List ConfigRequest → Store → List Load
  | [], _ => []
  | request :: rest, store =>
      let later := loadsOf rest (request.answer store).state
      if request.loads store then
        ⟨store.loader, store.environment, store.contentOf request.file⟩ :: later
      else
        later

theorem after_append
    (earlier later : List ConfigRequest)
    (store : Store) :
    after (earlier ++ later) store = after later (after earlier store) :=
  List.foldl_append

/-- Requests that write no variable themselves. -/
def WriteNone (requests : List ConfigRequest) : Prop :=
  ∀ request ∈ requests, request.writesVariable = false

theorem WriteNone.of_append
    {earlier later : List ConfigRequest}
    (writeNone : WriteNone (earlier ++ later)) :
    WriteNone earlier ∧ WriteNone later :=
  List.forall_mem_append.mp writeNone

section Step

variable {request : ConfigRequest} (isReading : request.writesVariable = false)

include isReading

theorem environment_answer
    (store : Store) :
    (request.answer store).state.environment =
      if request.loads store then
        store.environmentAfter request.file
      else
        store.environment :=
  (congrArg Store.environment (bare_answer isReading store) :)

theorem loader_answer
    (store : Store) :
    (request.answer store).state.loader = store.loader :=
  (congrArg Store.loader (bare_answer isReading store) :)

theorem found_answer
    (store : Store) :
    (request.answer store).state.found = request.foundAfter store :=
  (congrArg Store.found (bare_answer isReading store) :)

/-- A variable that is there keeps its value, whatever a request loads. -/
theorem get?_answer_of_some
    {store : Store}
    {name value : String}
    (isValue : store.environment.get? name = some value) :
    (request.answer store).state.environment.get? name = some value := by
  rw [environment_answer isReading]
  split
  · exact EnvFile.Loader.get?_load_of_some isValue _
  · exact isValue

end Step

section Run

variable {requests : List ConfigRequest} (writeNone : WriteNone requests)

include writeNone

theorem get?_after_of_some
    {store : Store}
    {name value : String}
    (isValue : store.environment.get? name = some value) :
    (after requests store).environment.get? name = some value := by
  induction requests generalizing store with
  | nil =>
      exact isValue
  | cons request rest inductionHypothesis =>
      obtain ⟨isReading, restWriteNone⟩ := List.forall_mem_cons.mp writeNone
      exact inductionHypothesis restWriteNone (get?_answer_of_some isReading isValue)

theorem loader_after
    (store : Store) :
    (after requests store).loader = store.loader := by
  induction requests generalizing store with
  | nil =>
      rfl
  | cons request rest inductionHypothesis =>
      obtain ⟨isReading, restWriteNone⟩ := List.forall_mem_cons.mp writeNone
      exact (inductionHypothesis restWriteNone _).trans (loader_answer isReading store)

/-- A variable has the value it had at the start, else that of the first load to give it one. -/
theorem get?_after
    {store : Store}
    (areAccepted : ∀ load ∈ loadsOf requests store, load.IsAccepted)
    (name : String) :
    (after requests store).environment.get? name =
      (store.environment.get? name).or
        ((loadsOf requests store).findSome? fun load => load.gives? name) := by
  induction requests generalizing store with
  | nil =>
      simp [after, loadsOf]
  | cons request rest inductionHypothesis =>
      obtain ⟨isReading, restWriteNone⟩ := List.forall_mem_cons.mp writeNone
      have requestLeft := environment_answer isReading store
      rw [show after (request :: rest) store = after rest (request.answer store).state from rfl]
      rw [loadsOf] at areAccepted ⊢
      split at areAccepted
      next loads =>
        obtain ⟨accepts, restAccepted⟩ := List.forall_mem_cons.mp areAccepted
        have loaded := EnvFile.Loader.result_load_eq_ok_iff.mpr accepts
        rw [if_pos loads] at requestLeft ⊢
        rw [inductionHypothesis restWriteNone restAccepted, requestLeft,
          Store.environmentAfter, EnvFile.Loader.get?_load loaded, Option.or_assoc,
          List.findSome?_cons, Load.gives?]
        cases store.loader.gives? store.environment (store.contentOf request.file) name <;> rfl
      next idle =>
        rw [if_neg idle] at requestLeft ⊢
        rw [inductionHypothesis restWriteNone areAccepted, requestLeft]

end Run

/-- A variable that is absent at first ends up with what the first load to give it a value gives. -/
def FirstDecides (requests : List ConfigRequest) (store : Store) : Prop :=
  ∀ name,
    store.environment.get? name = none →
      (after requests store).environment.get? name =
        (loadsOf requests store).findSome? fun load => load.gives? name

/--
To build the global settings anew once more changes neither them nor the environment: they
are put in place again, which is counted.
-/
def ReloadsAlike (file : Option String) (store : Store) : Prop :=
  let reached := (reload file).answer store
  ∃ placed,
    (reload file).answer reached.state =
      { reached with state := { reached.state with placed := placed } }

/-- The first to give a variable a value decides, over a run of requests. -/
structure FirstWriterWins (requests : List ConfigRequest) (store : Store) : Prop where
  /-- Whatever a variable is at some time, even empty, it is from then on. -/
  kept :
    ∀ earlier later,
      requests = earlier ++ later →
        ∀ name value,
          (after earlier store).environment.get? name = some value →
            (after requests store).environment.get? name = some value
  /-- As long as all files are accepted, the first to give a variable a value decides. -/
  first :
    ∀ earlier later,
      requests = earlier ++ later →
        (∀ load ∈ loadsOf earlier store, load.IsAccepted) → FirstDecides earlier store
  /-- To repeat a reload, of a file that was accepted, changes nothing. -/
  repeated :
    store.loader.GivesAlike →
      ∀ file, (after requests store).Accepts file → ReloadsAlike file (after requests store)

/-- In every run of requests that write no variable themselves the first writer wins. -/
theorem firstWriterWins
    {requests : List ConfigRequest}
    (writeNone : WriteNone requests)
    (store : Store) :
    FirstWriterWins requests store where
  kept := by
    rintro earlier later rfl name value isValue
    rw [after_append]
    exact get?_after_of_some writeNone.of_append.2 isValue
  first := by
    rintro earlier later rfl areAccepted name absent
    rw [get?_after writeNone.of_append.1 areAccepted, absent, Option.none_or]
  repeated := by
    intro givesAlike file accepts
    rw [← loader_after writeNone] at givesAlike
    obtain ⟨placed, again⟩ := Store.reload_reload givesAlike accepts
    refine ⟨placed, ?_⟩
    have answers
        (store : Store) :
        (reload file).answer store =
          { Store.reload file store with
            result := (Store.reload file store).result.map fun _ => .inquiry .rootLevel } :=
      Traced.bind_pure _ _ store
    simp only [answers, again]

/--
A value with a null character is no value of a variable, whatever its name.  Loading breaks
off there, so that the variables that come later in the file are not given theirs either.
-/
theorem not_firstDecides_null :
    let store := Store.initial Schema.shipped Table.empty
    let requests : List ConfigRequest := [.reload (some "A=x\x00y\nB=1\n")]
    WriteNone requests ∧
      (∀ load ∈ loadsOf requests store,
        ∀ name value,
          load.gives? name = some value → Environment.checkVariable name "" = .ok ()) ∧
        ¬ FirstDecides requests store := by
  intro store requests
  let load : Load := ⟨store.loader, store.environment, some "A=x\x00y\nB=1\n"⟩
  have isOnly : loadsOf requests store = [load] := rfl
  have defined :
      (load.loader.definitions load.environment load.content).entries =
        [("A", some "x\x00y"), ("B", some "1")] := by
    decide +kernel
  have writeNone : ∀ request ∈ requests, request.writesVariable = false := by
    decide
  rw [isOnly]
  refine ⟨writeNone, ?_, fun decides => ?_⟩
  · rintro _ (_ | ⟨_, ⟨⟩⟩) name value isGiven
    have isEntry := EnvFile.Loader.gives?_eq_some_iff.mp isGiven
    rw [defined] at isEntry
    simp only [List.mem_cons, Prod.mk.injEq, List.not_mem_nil, or_false] at isEntry
    rcases isEntry with ⟨rfl, -⟩ | ⟨rfl, -⟩ <;> rfl
  · have decidesLater := decides "B" rfl
    have isGiven : load.gives? "B" = some "1" := by
      decide +kernel
    have isAbsent : (load.loader.load load.content load.environment).state.get? "B" = none := by
      decide +kernel
    have left := environment_answer (writeNone _ List.mem_cons_self) store
    have isLeft : (after requests store).environment.get? "B" = none :=
      (congrArg (Table.get? · "B") left).trans isAbsent
    rw [isLeft, isOnly, List.findSome?_cons, isGiven] at decidesLater
    cases decidesLater

section Usable

/-- A store that reads files as they are written, and has none that could not be loaded. -/
structure ReadsUsable (store : Store) : Prop where
  isStandard : store.loader = EnvFile.Loader.standard
  nullFree : EnvFile.AreNullFree store.environment.get?
  found : EnvFile.IsUsable store.found

/-- What is in the file that a request brings, if it brings any. -/
def content : ConfigRequest → Option String
  | create _ _ file => file
  | reload file => file
  | placeFile content => content
  | _ => none

variable {store : Store} {request : ConfigRequest}

theorem ReadsUsable.accepts
    (readsUsable : ReadsUsable store)
    {file : Option String}
    (isUsable : EnvFile.IsUsable file) :
    store.Accepts file := by
  have contentUsable : EnvFile.IsUsable (store.contentOf file) := by
    cases file with
    | none =>
        exact readsUsable.found
    | some text =>
        exact isUsable
  rw [Store.Accepts, readsUsable.isStandard]
  exact EnvFile.Loader.standard_accepts readsUsable.nullFree contentUsable

/-- What a request brings and does not load is loaded later, if at all. -/
theorem isUsable_file
    (isUsable : EnvFile.IsUsable request.content) :
    EnvFile.IsUsable request.file := by
  cases request with
  | placeFile content =>
      exact EnvFile.isUsable_none
  | _ =>
      exact isUsable

theorem ReadsUsable.answer
    (readsUsable : ReadsUsable store)
    (isReading : request.writesVariable = false)
    (isUsable : EnvFile.IsUsable request.content) :
    ReadsUsable (request.answer store).state where
  isStandard := (loader_answer isReading store).trans readsUsable.isStandard
  nullFree := by
    intro name value isValue
    rw [environment_answer isReading] at isValue
    split at isValue
    · have accepts := readsUsable.accepts (isUsable_file isUsable)
      have loaded := EnvFile.Loader.result_load_eq_ok_iff.mpr accepts
      rw [Store.environmentAfter, EnvFile.Loader.get?_load loaded] at isValue
      cases isKnown : store.environment.get? name with
      | some known =>
          rw [isKnown] at isValue
          cases isValue
          exact readsUsable.nullFree name value isKnown
      | none =>
          rw [isKnown, Option.none_or] at isValue
          exact EnvFile.isNullFree_of_checkVariable (accepts name value isKnown isValue)
    · exact readsUsable.nullFree name value isValue
  found := by
    rw [found_answer isReading]
    cases request with
    | placeFile content =>
        exact isUsable
    | _ =>
        exact readsUsable.found

section Run

variable
  {requests : List ConfigRequest}
  (writeNone : WriteNone requests)
  (areUsable : ∀ request ∈ requests, EnvFile.IsUsable request.content)
  (readsUsable : ReadsUsable store)

include writeNone areUsable readsUsable

theorem ReadsUsable.after :
    ReadsUsable (after requests store) := by
  induction requests generalizing store with
  | nil =>
      exact readsUsable
  | cons request rest inductionHypothesis =>
      obtain ⟨isReading, restWriteNone⟩ := List.forall_mem_cons.mp writeNone
      obtain ⟨isUsable, restUsable⟩ := List.forall_mem_cons.mp areUsable
      exact inductionHypothesis restWriteNone restUsable (readsUsable.answer isReading isUsable)

/-- Where all files can be given to variables as they are written, all loads are accepted. -/
theorem areAccepted_of_usable :
    ∀ load ∈ loadsOf requests store, load.IsAccepted := by
  induction requests generalizing store with
  | nil =>
      exact nofun
  | cons request rest inductionHypothesis =>
      obtain ⟨isReading, restWriteNone⟩ := List.forall_mem_cons.mp writeNone
      obtain ⟨isUsable, restUsable⟩ := List.forall_mem_cons.mp areUsable
      have restAccepted :=
        inductionHypothesis restWriteNone restUsable (readsUsable.answer isReading isUsable)
      rw [loadsOf]
      split
      · refine List.forall_mem_cons.mpr ⟨?_, restAccepted⟩
        exact readsUsable.accepts (isUsable_file isUsable)
      · exact restAccepted

end Run

end Usable

/-- Two files with a value for one variable, of which the later refers to it. -/
def overlapping : List ConfigRequest :=
  [.create "a" Table.empty (some "W=one\n"), .sharedAll, .forgetShared,
    .reload (some "W=two\nV=$\x7bW\x7ds\n")]

theorem firstWriterWins_overlapping :
    let store := Store.initial Schema.shipped ⟨[(Schema.localeKey, "")]⟩
    let last := after overlapping store
    WriteNone overlapping ∧
      (∀ load ∈ loadsOf overlapping store, load.IsAccepted) ∧
        last.environment.get? "W" = some "one" ∧
          last.environment.get? Schema.localeKey = some "" ∧
            ReloadsAlike (some "W=two\n") last := by
  intro store last
  have writeNone : ∀ request ∈ overlapping, request.writesVariable = false := by
    decide
  have areUsable : ∀ request ∈ overlapping, EnvFile.IsUsable request.content := by
    decide +kernel
  have readsUsable : ReadsUsable store :=
    { isStandard := rfl
      nullFree := by
        intro name value isValue
        obtain ⟨-, rfl⟩ := Prod.mk.inj (List.mem_singleton.mp (Table.mem_entries_of_get? isValue))
        rfl
      found := EnvFile.isUsable_none }
  have areAccepted := areAccepted_of_usable writeNone areUsable readsUsable
  have firstWins := firstWriterWins writeNone store
  have firstGives : store.loader.gives? store.environment (some "W=one\n") "W" = some "one" := by
    decide +kernel
  refine ⟨writeNone, areAccepted, ?_, ?_, ?_⟩
  · rw [firstWins.first overlapping [] (List.append_nil _).symm areAccepted "W" rfl]
    change List.findSome? _ (Load.mk store.loader store.environment (some "W=one\n") :: _) = _
    rw [List.findSome?_cons, Load.gives?, firstGives]
  · exact firstWins.kept [] overlapping rfl Schema.localeKey "" rfl
  · have isUsable : EnvFile.IsUsable (some "W=two\n") := by
      decide +kernel
    have accepts : last.Accepts (some "W=two\n") :=
      (readsUsable.after writeNone areUsable).accepts isUsable
    exact firstWins.repeated EnvFile.Loader.standard_givesAlike (some "W=two\n") accepts

end ConfigRequest

end PlatformDouble
