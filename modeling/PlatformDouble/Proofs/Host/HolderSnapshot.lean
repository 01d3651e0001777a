import PlatformDouble.Proofs.Host.FixedAnswers
import PlatformDouble.Proofs.Host.Loads

namespace PlatformDouble

/-!
# A holder is a snapshot of its settings

A holder that is made from settings of the shipped schema takes what they hold then, and
tells it for good.  It cannot be made only where they hold no locale, and they hold none
only where null was the last that was set for it.  Making one does nothing else: it logs
nothing, and leaves the environment and all settings as they are.
-/

open Config
open Context (Holder Injections)

/-- The settings kept under a name, or the global ones, if there are any. -/
def Config.Store.kept? (store : Store) : Option String → Option Settings
  | some name => store.named.get? name
  | none => store.shared

theorem Config.Store.kept?_initial
    (store : Store)
    (name : String) :
    (Host.initial store).config.kept? (some name) = store.named.get? name :=
  rfl

namespace Config.Settings

/-- What settings fix about a holder, with their locale. -/
def fixedAnswers (settings : Settings) (locale : String) : FixedAnswers where
  locale := locale
  opPackage := settings.get Schema.opPackageKey .null
  headset := settings.get Schema.headsetKey .null
  subscription := settings.get Schema.subscriptionKey .null

variable {settings : Settings} (conforms : settings.ConformTo Schema.shipped)

include conforms

/-- What conforms to the shipped schema has a value for each of its fields, also null. -/
theorem ConformTo.get_eq
    {key : String}
    (isKey : key ∈ Schema.shipped.map Field.key)
    (substitute : Value) :
    settings.get key substitute = settings.get key .null := by
  obtain ⟨field, member, rfl⟩ := List.mem_map.mp isKey
  obtain ⟨value, found, -⟩ := conforms.declared field member
  simp [get, found]

/-- The locale is null or a text. -/
theorem ConformTo.locale_cases :
    settings.get Schema.localeKey .null = .null ∨
      ∃ locale, settings.get Schema.localeKey .null = .text locale := by
  obtain ⟨field, member, isLocale, isText⟩ :
      ∃ field ∈ Schema.shipped, field.key = Schema.localeKey ∧ field.type = .text := by
    decide
  have admitted := conforms.admits_get member
  rw [isLocale] at admitted
  rcases Field.text_of_admits isText admitted with isNull | ⟨locale, isLocaleText, -⟩
  · exact .inl isNull
  · exact .inr ⟨locale, isLocaleText⟩

end Config.Settings

namespace Context.Holder

variable
  [Record.Validator]
  {settings : Settings}
  (conforms : settings.ConformTo Schema.shipped)

include conforms

/-- Without a locale there is no holder. -/
theorem ofSettings_of_null
    (isNull : settings.get Schema.localeKey .null = .null)
    (id : HolderId)
    (injections : Injections) :
    ∃ violations, ofSettings id settings injections = .error violations := by
  have isKey : Schema.localeKey ∈ Schema.shipped.map Field.key := by
    decide
  unfold ofSettings
  rw [conforms.get_eq isKey, isNull, ResourceConfiguration.ofLocale,
    Record.Validator.text_null]
  exact ⟨_, rfl⟩

/-- With one, the holder has what the settings hold. -/
theorem ofSettings_of_text
    {locale : String}
    (isText : settings.get Schema.localeKey .null = .text locale)
    (id : HolderId)
    (injections : Injections) :
    ∃ held,
      ofSettings id settings injections = .ok held ∧
        held.fixedAnswers = settings.fixedAnswers locale := by
  have areKeys :
      ∀ key ∈ [Schema.localeKey, Schema.opPackageKey, Schema.headsetKey,
          Schema.subscriptionKey], key ∈ Schema.shipped.map Field.key := by
    decide
  simp only [List.forall_mem_cons] at areKeys
  obtain ⟨isLocale, isPackage, isHeadset, isSubscription, -⟩ := areKeys
  unfold ofSettings
  rw [conforms.get_eq isLocale, isText, ResourceConfiguration.ofLocale,
    Record.Validator.text_text]
  refine ⟨_, rfl, ?_⟩
  simp only [fixedAnswers, Settings.fixedAnswers]
  rw [conforms.get_eq isPackage, conforms.get_eq isHeadset, conforms.get_eq isSubscription]

end Context.Holder

namespace Host

variable
  [Record.Validator]
  {host : Host}
  {chosen : Option String}
  {settings : Settings}
  {injections : Injections}

/-- A holder is made from settings that are kept, which stay as they are. -/
theorem newHolder_of_kept
    (kept : host.config.kept? chosen = some settings) :
    newHolder chosen injections host = makeHolder settings injections host := by
  have goesOn
      (look : Traced LogAction Store Settings)
      (finds : look host.config = Traced.done settings host.config) :
      (Traced.within configPart look >>= fun found => makeHolder found injections) host =
        makeHolder settings injections host := by
    have looks :
        Traced.within configPart look host =
          { trace := [], state := host, result := .ok settings } := by
      simp only [Traced.within, configPart, finds]
      rfl
    refine (Traced.bind_of_ok (congrArg Outcome.result looks)).trans ?_
    rw [looks]
    rfl
  cases chosen with
  | some name =>
      exact goesOn _ (Store.settingsOf_of_named kept)
  | none =>
      exact goesOn _ (Store.sharedSettings_of_some kept)

end Host

namespace Stage

variable [Record.Validator]

/--
Fixed answers are told for good: when they are asked for, and by whatever tells of them in
a run that makes no new holder, to callbacks and to whoever asked from outside.
-/
structure TellsForGood (fixed : FixedAnswers) (stage : Stage) : Prop where
  asked :
    perform (.context .fixedAnswers) stage =
      { trace := [], state := stage, result := .ok (.known fixed.reply) }
  run :
    ∀ requests : List Request,
      (∀ request ∈ requests, request.keepsHolder = true) →
        stage.cast.Allows Act.keepsHolder →
          let outcome := performAll requests stage
          (∀ entry ∈ outcome.trace,
              ∀ answer, entry.answer? = some answer → answer.AgreesWith fixed) ∧
            (∃ answers,
              outcome.result = .ok answers ∧
                ∀ answer, .ok answer ∈ answers → answer.AgreesWith fixed) ∧
              perform (.context .fixedAnswers) outcome.state =
                { trace := []
                  state := outcome.state
                  result := .ok (.known fixed.reply) }

theorem tellsForGood_of_current
    {stage : Stage}
    {held : Holder}
    (isCurrent : stage.host.current = some held) :
    stage.TellsForGood held.fixedAnswers where
  asked := perform_fixedAnswers isCurrent
  run requests keepHolder scripts := by
    intro outcome
    have starts :
        Upholds (Host.Fixes held.fixedAnswers) Act.keepsHolder [] stage :=
      ⟨⟨⟨held, isCurrent, rfl⟩, fun _ member => absurd member List.not_mem_nil⟩, scripts⟩
    have ends := (upkeep_fixes.performAll keepHolder [] stage starts).host
    obtain ⟨last, isLast, same⟩ := ends.current
    refine ⟨ends.told, upkeep_fixes.sound_performAll keepHolder starts, ?_⟩
    rw [perform_fixedAnswers isLast, same]

/-- What it comes to when a holder is made of settings: a snapshot, unless it is refused. -/
structure MakesSnapshot
    (settings : Settings)
    (isRefused : Prop)
    (stage : Stage)
    (made : Outcome (Entry Response) Stage Response) : Prop where
  fails_iff : (∃ fault, made.result = .error fault) ↔ isRefused
  /-- No level of any logger is touched, nor anything logged. -/
  silent : made.trace = []
  /-- The global settings are neither made nor replaced, and no others are either. -/
  config : made.state.host.config = stage.host.config
  tells :
    ∀ answer,
      made.result = .ok answer →
        ∃ locale,
          settings.get Schema.localeKey .null = .text locale ∧
            made.state.TellsForGood (settings.fixedAnswers locale)

variable
  {stage : Stage}
  {chosen : Option String}
  {settings : Settings}

/-- Making a holder from settings is all that is done. -/
theorem perform_holder
    (kept : stage.host.config.kept? chosen = some settings)
    (injections : Injections) :
    let made := Host.makeHolder settings injections stage.host
    perform (.context (.holder chosen injections)) stage =
      { trace := made.trace.map Entry.log
        state := { stage with host := made.state }
        result := made.result.map fun _ => .known .nothing } := by
  intro made
  have makes :
      (Traced.logged (Host.newHolder chosen injections) :
          Traced (Entry Response) Host Holder) stage.host =
        { made with trace := made.trace.map Entry.log } := by
    simp only [Traced.logged, Traced.retrace, Host.newHolder_of_kept kept]
    rfl
  have answered :
      ContextRequest.answer (.holder chosen injections) stage.host =
        { trace := made.trace.map Entry.log
          state := made.state
          result := made.result.map fun _ => .nothing } := by
    refine (Traced.bind_pure _ (fun _ => Reply.nothing) stage.host).trans ?_
    rw [makes]
  rw [perform_context, answered]
  cases made.result <;> rfl

/-- A holder of settings that conform to the shipped schema is a snapshot of them. -/
theorem perform_holder_makesSnapshot
    (conforms : settings.ConformTo Schema.shipped)
    (kept : stage.host.config.kept? chosen = some settings)
    (injections : Injections) :
    MakesSnapshot settings (settings.get Schema.localeKey .null = .null) stage
      (perform (.context (.holder chosen injections)) stage) := by
  have performs := perform_holder kept injections
  rcases conforms.locale_cases with isNull | ⟨locale, isText⟩
  · obtain ⟨violations, refused⟩ :=
      Holder.ofSettings_of_null conforms isNull ⟨stage.host.gates.size⟩ injections
    rw [Host.makeHolder_of_refused refused] at performs
    rw [performs]
    exact {
      fails_iff := ⟨fun _ => isNull, fun _ => ⟨_, rfl⟩⟩
      silent := rfl
      config := rfl
      tells := by
        rintro answer ⟨⟩ }
  · obtain ⟨held, built, same⟩ :=
      Holder.ofSettings_of_text conforms isText ⟨stage.host.gates.size⟩ injections
    rw [Host.makeHolder_of_built built] at performs
    rw [performs]
    exact {
      fails_iff := by
        rw [isText]
        exact ⟨by rintro ⟨fault, ⟨⟩⟩, by rintro ⟨⟩⟩
      silent := rfl
      config := rfl
      tells := by
        intro answer _
        refine ⟨locale, isText, ?_⟩
        rw [← same]
        exact tellsForGood_of_current rfl }

end Stage

namespace Config.Store

variable {store : Store} {name : String} {created : Settings}

/--
Whatever was set in settings of the shipped schema after they were built, a holder that is
made of them, wherever they are kept, is a snapshot of them.  It is refused where the
locale that was set last is null.
-/
theorem setAll_makesSnapshot
    [Record.Validator]
    (isShipped : store.schema = Schema.shipped)
    {file : Option String}
    {overrides : Overrides}
    (creates : (create name file overrides store).result = .ok created)
    (assignments : List (String × Value)) :
    let reached := setAll name assignments (create name file overrides store).state
    ∃ answers stored,
      reached.result = .ok answers ∧
        reached.state.named.get? name = some stored ∧
          ∀ (stage : Stage) (chosen : Option String) (injections : Injections),
            stage.host.config.kept? chosen = some stored →
              Stage.MakesSnapshot stored
                ((lastStored? Schema.localeKey (assignments.zip answers)).any Value.isNull = true)
                stage
                (Stage.perform (.context (.holder chosen injections)) stage) := by
  intro reached
  have valid : store.schema.IsValidByDefault := by
    rw [isShipped]
    exact Schema.shipped_isValidByDefault
  obtain ⟨answers, stored, ends, found, isMissing⟩ :=
    isNull_get_setAll valid creates assignments
  obtain ⟨-, stored', found', conforms⟩ :=
    holdsConforming_setAll valid.distinct valid.defaults creates assignments
  rw [found] at found'
  cases found'
  rw [isShipped] at conforms isMissing
  obtain ⟨field, member, isLocale⟩ :
      ∃ field ∈ Schema.shipped, field.key = Schema.localeKey := by
    decide
  have localeMissing := isMissing field member
  rw [isLocale] at localeMissing
  refine ⟨answers, stored, ends, found, fun stage chosen injections kept => ?_⟩
  rw [localeMissing, Value.isNull_iff]
  exact Stage.perform_holder_makesSnapshot conforms kept injections

/-- A locale that was cleared and set again is told for good. -/
theorem setAll_makesSnapshot_cleared :
    let store := initial Schema.shipped Table.empty
    let assignments : List (String × Value) :=
      [(Schema.localeKey, .null), (Schema.localeKey, .text "de")]
    let reached := setAll "c" assignments (create "c" none sampleOverrides store).state
    let stage : Stage := { host := Host.initial reached.state, cast := {} }
    (create "c" none sampleOverrides store).result = .ok (sampleSettings 1) ∧
      (Stage.perform (.context (.holder (some "c") {})) stage).state.TellsForGood
        { locale := "de"
          opPackage := .text "test"
          headset := .bool true
          subscription := .int 1 } := by
  intro store assignments reached stage
  have creates : (create "c" none sampleOverrides store).result = .ok (sampleSettings 1) :=
    create_sampleOverrides
  refine ⟨creates, ?_⟩
  obtain ⟨answers, stored, ends, found, isSnapshot⟩ :=
    setAll_makesSnapshot rfl creates assignments
  have snapshot :=
    isSnapshot stage (some "c") {} ((kept?_initial reached.state "c").trans found)
  rw [state_create_of_ok creates] at ends found
  have isAnswers :
      let cleared := (sampleSettings 1).values.insert Schema.localeKey .null
      answers =
        [.ok (true, ⟨cleared⟩),
          .ok (true, ⟨cleared.insert Schema.localeKey (.text "de")⟩)] := by
    cases ends
    rfl
  cases made : (Stage.perform (.context (.holder (some "c") {})) stage).result with
  | error fault =>
      have isRefused := snapshot.fails_iff.mp ⟨fault, made⟩
      rw [isAnswers] at isRefused
      cases isRefused
  | ok answer =>
      obtain ⟨locale, isText, tells⟩ := snapshot.tells answer made
      cases found
      cases isText
      exact tells

end Config.Store

end PlatformDouble
