import SteadyStore.Settings.Load
/-!
# What is loaded from variables

A lookup of several variables asks for them in order and stops at the first one that is malformed
(`Asks`). The retry configuration is looked up so, and then checked (`load_reads_in_order`). What it
holds is read from its own variable, or is the default. The configuration of a service adds the
logging to it, and fails only as the retry configuration does.
-/

namespace SteadyStore

/-! ## Variables in order -/

namespace Lookup

variable {α β : Type}

/-- What is wrong with the text of a variable, if it is set. -/
def fault? (vars : Variables) (read : ValueReader α) (name : String) : Option ValueFault :=
  match vars name with
  | none => none
  | some text =>
    match read (trimBlanks text.toList) with
    | .ok _ => none
    | .error fault => some fault

/-- The value is the one that the variable is set to, without the blanks around it, or else the
default. -/
def Holds (vars : Variables) (read : ValueReader α) (name : String) (default value : α) : Prop :=
  match vars name with
  | none => value = default
  | some text => read (trimBlanks text.toList) = .ok value

/-- Variables are asked for in order. The first malformed one ends the lookup, and if there is none,
something is found. -/
def Asks (checks : List (String × Option ValueFault)) (Found : α → Prop) (lookup : Lookup α) :
    Prop :=
  lookup.events = [] ∧
  ((∃ before name fault after, checks = before ++ (name, some fault) :: after ∧
      (∀ check ∈ before, check.2 = none) ∧
      lookup.result = .error (.malformed name fault) ∧
      lookup.asked = before.map Prod.fst ++ [name]) ∨
    (∀ check ∈ checks, check.2 = none) ∧ lookup.asked = checks.map Prod.fst ∧
      ∃ value, lookup.result = .ok value ∧ Found value)

theorem asks_pure {Found : α → Prop} {value : α} (found : Found value) :
    Asks [] Found (pure value) :=
  ⟨rfl, .inr ⟨by simp, rfl, value, rfl, found⟩⟩

/-- A variable is either malformed, or it holds a value. -/
theorem value_cases (vars : Variables) (read : ValueReader α) (name : String) (default : α) :
    (∃ fault, fault? vars read name = some fault ∧
      (value vars read name default).result = .error (.malformed name fault)) ∨
    ∃ v, fault? vars read name = none ∧ Holds vars read name default v ∧
      (value vars read name default).result = .ok v := by
  unfold fault? Holds value valueOf
  cases vars name with
  | none => exact .inr ⟨default, rfl, rfl, rfl⟩
  | some text =>
    dsimp only
    cases read (trimBlanks text.toList) with
    | error fault => exact .inl ⟨fault, rfl, rfl⟩
    | ok v => exact .inr ⟨v, rfl, rfl, rfl⟩

/-- A variable is asked for before those that the rest of the lookup asks for. -/
theorem asks_value_bind {vars : Variables} {read : ValueReader α} {name : String} {default : α}
    {next : α → Lookup β} {checks : List (String × Option ValueFault)} {Found : β → Prop}
    (rest : ∀ v, Holds vars read name default v → Asks checks Found (next v)) :
    Asks ((name, fault? vars read name) :: checks) Found
      (value vars read name default >>= next) := by
  rcases value_cases vars read name default with ⟨fault, malformed, result⟩ | ⟨v, fine, holds, result⟩
  · rw [bind_of_error result, malformed]
    exact ⟨rfl, .inl ⟨[], name, fault, checks, rfl, by simp, rfl, rfl⟩⟩
  · obtain ⟨silent, later⟩ := rest v holds
    rw [bind_of_ok result, fine]
    refine ⟨silent, ?_⟩
    rcases later with ⟨before, other, fault, after, rfl, clean, failed, asked⟩ |
      ⟨clean, asked, found⟩
    · refine .inl ⟨(name, none) :: before, other, fault, after, rfl, ?_, failed, ?_⟩
      · exact List.forall_mem_cons.2 ⟨rfl, clean⟩
      · exact congrArg (name :: ·) asked
    · exact .inr ⟨List.forall_mem_cons.2 ⟨rfl, clean⟩, congrArg (name :: ·) asked, found⟩

theorem value_congr {vars other : Variables} {name : String} (same : other name = vars name)
    (read : ValueReader α) (default : α) :
    value other read name default = value vars read name default := by
  rw [value, value, same]

end Lookup

/-! ## Retries -/

/-- A delay in whole milliseconds. -/
def ValueReader.milliseconds : ValueReader Duration := fun cs => (word64 cs).map .ofMillis

namespace RetryConfig

/-- The variables of the configuration in the order in which they are asked for, with what is wrong
with them. -/
def checks (vars : Variables) : List (String × Option ValueFault) :=
  [(initialVariable, Lookup.fault? vars .word64 initialVariable),
   (multiplierVariable, Lookup.fault? vars .decimal multiplierVariable),
   (maxVariable, Lookup.fault? vars .word64 maxVariable),
   (maxAttemptsVariable, Lookup.fault? vars .word32 maxAttemptsVariable)]

/-- Each field is read from its own variable, or is the default. -/
structure ReadFrom (vars : Variables) (config : RetryConfig) : Prop where
  initialDelay : Lookup.Holds vars .milliseconds initialVariable RetryConfig.default.initialDelay
    config.initialDelay
  multiplier : Lookup.Holds vars .decimal multiplierVariable RetryConfig.default.multiplier
    config.multiplier
  maxDelay : Lookup.Holds vars .milliseconds maxVariable RetryConfig.default.maxDelay
    config.maxDelay
  maxAttempts : Lookup.Holds vars .word32 maxAttemptsVariable RetryConfig.default.maxAttempts
    config.maxAttempts

/-- A count of milliseconds that is read or the default stands for the delay that is. -/
theorem holds_milliseconds {vars : Variables} {name : String} {default millis : UInt64}
    {delay : Duration} (same : .ofMillis default = delay)
    (holds : Lookup.Holds vars .word64 name default millis) :
    Lookup.Holds vars .milliseconds name delay (.ofMillis millis) := by
  unfold Lookup.Holds at holds ⊢
  cases found : vars name with
  | none =>
    rw [found] at holds
    exact (congrArg Duration.ofMillis holds).trans same
  | some text =>
    rw [found] at holds
    exact congrArg (Except.map Duration.ofMillis) holds

/-- The default delays are whole milliseconds, so they are configured without a loss. -/
theorem ofMillis_configuredMillis_default :
    Duration.ofMillis (configuredMillis RetryConfig.default.initialDelay) =
      RetryConfig.default.initialDelay ∧
    Duration.ofMillis (configuredMillis RetryConfig.default.maxDelay) =
      RetryConfig.default.maxDelay := by
  decide +kernel

theorem loadFields_asks (vars : Variables) :
    Lookup.Asks (checks vars) (ReadFrom vars) (loadFields vars) := by
  obtain ⟨initialDefault, maxDefault⟩ := ofMillis_configuredMillis_default
  refine Lookup.asks_value_bind fun initial initialHolds => ?_
  refine Lookup.asks_value_bind fun multiplier multiplierHolds => ?_
  refine Lookup.asks_value_bind fun max maxHolds => ?_
  refine Lookup.asks_value_bind fun attempts attemptsHolds => ?_
  exact Lookup.asks_pure
    { initialDelay := holds_milliseconds initialDefault initialHolds
      multiplier := multiplierHolds
      maxDelay := holds_milliseconds maxDefault maxHolds
      maxAttempts := attemptsHolds }

/-! ## Checks -/

/-- A check refuses the configuration after those before it have passed it. -/
inductive Refused (config : RetryConfig) : Fault → Prop
  | noAttempts (none : config.maxAttempts = 0) : Refused config .noAttempts
  | multiplier (attempts : 1 ≤ config.maxAttempts)
      (wrong : ¬(config.multiplier.isFinite = true ∧ config.multiplier.le .one = false)) :
    Refused config (.multiplier config.multiplier)
  | delays (attempts : 1 ≤ config.maxAttempts) (finite : config.multiplier.isFinite = true)
      (growing : config.multiplier.le .one = false)
      (shorter : config.maxDelay < config.initialDelay) :
    Refused config (.delays config.maxDelay config.initialDelay)

theorem Refused.not_valid {config : RetryConfig} {fault : Fault} (refused : config.Refused fault) :
    ¬config.Valid := by
  rintro ⟨attempts, finite, growing, delays⟩
  cases refused with
  | noAttempts none =>
    rw [none] at attempts
    exact absurd attempts (by decide)
  | multiplier _ wrong => exact wrong ⟨finite, growing⟩
  | delays _ _ _ shorter => exact Nat.not_lt.2 delays shorter

theorem refused_of_validate {config : RetryConfig} {fault : Fault}
    (failed : config.validate = .error fault) : config.Refused fault := by
  unfold validate at failed
  split at failed
  · rename_i none
    cases failed
    refine .noAttempts (UInt32.toNat_inj.1 ?_)
    have := UInt32.lt_iff_toNat_lt.1 none
    simp only [UInt32.toNat_one, UInt32.toNat_zero] at this ⊢
    omega
  rename_i some
  have attempts : 1 ≤ config.maxAttempts := UInt32.not_lt.1 some
  split at failed
  · rename_i wrong
    cases failed
    refine .multiplier attempts fun right => ?_
    simp [right.1, right.2] at wrong
  rename_i right
  simp only [Bool.or_eq_true, Bool.not_eq_true', not_or, Bool.not_eq_false,
    Bool.not_eq_true] at right
  split at failed
  · rename_i shorter
    cases failed
    exact .delays attempts right.1 right.2 shorter
  · cases failed

theorem load_of_fields {vars : Variables} {config : RetryConfig}
    (fields : (loadFields vars).result = .ok config) :
    (load vars).asked = (loadFields vars).asked ∧ (load vars).events = (loadFields vars).events ∧
      (config.Valid ∧ (load vars).result = .ok config ∨
        ∃ fault, config.Refused fault ∧ ¬config.Valid ∧
          (load vars).result = .error (.unusable fault)) := by
  rw [load, Lookup.bind_of_ok fields]
  cases checked : config.validate with
  | ok =>
    refine ⟨List.append_nil _, List.append_nil _, .inl ⟨?_, rfl⟩⟩
    exact validate_eq_ok_iff.1 checked
  | error fault =>
    have refused := refused_of_validate checked
    exact ⟨List.append_nil _, List.append_nil _, .inr ⟨fault, refused, refused.not_valid, rfl⟩⟩

theorem load_of_malformed {vars : Variables} {fault : SettingsFault}
    (failed : (loadFields vars).result = .error fault) :
    load vars = ⟨.error fault, (loadFields vars).asked, (loadFields vars).events⟩ := by
  rw [load, Lookup.bind_of_error failed]

/-- The checks ask for nothing. -/
theorem asked_load (vars : Variables) : (load vars).asked = (loadFields vars).asked := by
  cases fields : (loadFields vars).result with
  | error fault => rw [load_of_malformed fields]
  | ok config => exact (load_of_fields fields).1

/-- The checks log nothing. -/
theorem events_load (vars : Variables) : (load vars).events = (loadFields vars).events := by
  cases fields : (loadFields vars).result with
  | error fault => rw [load_of_malformed fields]
  | ok config => exact (load_of_fields fields).2.1

theorem load_congr {vars other : Variables}
    (same : ∀ name ∈ [initialVariable, multiplierVariable, maxVariable, maxAttemptsVariable],
      other name = vars name) : load other = load vars := by
  simp only [List.forall_mem_cons, List.not_mem_nil, false_implies, implies_true, and_true] at same
  obtain ⟨initial, multiplier, max, attempts⟩ := same
  simp only [load, loadFields, Lookup.value_congr initial, Lookup.value_congr multiplier,
    Lookup.value_congr max, Lookup.value_congr attempts]

/-- What is loaded is valid, so a policy is made of it. -/
theorem valid_of_load {vars : Variables} {config : RetryConfig}
    (loaded : (load vars).result = .ok config) : config.Valid := by
  cases fields : (loadFields vars).result with
  | error fault =>
    rw [load_of_malformed fields] at loaded
    cases loaded
  | ok read =>
    rcases (load_of_fields fields).2.2 with ⟨valid, result⟩ | ⟨fault, -, -, result⟩
    · rw [result] at loaded
      cases loaded
      exact valid
    · rw [result] at loaded
      cases loaded

theorem ofConfig_of_valid {config : RetryConfig} (valid : config.Valid) :
    RetryPolicy.ofConfig config = .ok ⟨config, valid⟩ := by
  have checked := validate_eq_ok_iff.2 valid
  unfold RetryPolicy.ofConfig
  split
  · rename_i failed
    rw [checked] at failed
    cases failed
  · rfl

end RetryConfig

/-! ## Services -/

namespace StorageConfig

theorem load_of_error {vars : Variables} {fault : SettingsFault}
    (failed : (RetryConfig.load vars).result = .error fault) :
    load vars =
      ⟨.error fault, (RetryConfig.load vars).asked, (RetryConfig.load vars).events⟩ := by
  rw [load, Lookup.bind_of_error failed]

theorem load_of_ok {vars : Variables} {retry : RetryConfig} {logging : LoggingConfig}
    (loaded : (RetryConfig.load vars).result = .ok retry)
    (logs : (LoggingConfig.load vars).result = .ok logging) :
    load vars =
      ⟨.ok ⟨retry, logging⟩, (RetryConfig.load vars).asked ++ (LoggingConfig.load vars).asked,
        (RetryConfig.load vars).events ++
          ((LoggingConfig.load vars).events ++ [loadedEvent ⟨retry, logging⟩])⟩ := by
  rw [load, Lookup.bind_of_ok loaded, Lookup.bind_of_ok logs]
  simp only [Lookup.log]
  rfl

/-- The retry configuration asks for its four variables in order, up to the first one whose text
cannot be read, and fails with the fault of that text. If there is none, each field is read from its
own variable or is the default, and the configuration is loaded if it passes all checks, or else
refused by the first that it fails. So what is loaded makes a policy, and depends on these variables
only. The configuration of a service fails exactly as the retry configuration does, before it asks for
anything else. Otherwise it is made of what the two loaders give, and is reported once. -/
theorem load_reads_in_order (vars : Variables) :
    let loaded := RetryConfig.load vars
    let names := ["CLOUD_STORAGE_BACKOFF_INITIAL", "CLOUD_STORAGE_BACKOFF_MULTIPLIER",
      "CLOUD_STORAGE_BACKOFF_MAX", "CLOUD_STORAGE_BACKOFF_MAX_ATTEMPTS"]
    (RetryConfig.checks vars).map Prod.fst = names ∧ loaded.events = [] ∧
    -- A variable is malformed, or none is.
    ((∃ before name fault after,
        RetryConfig.checks vars = before ++ (name, some fault) :: after ∧
        (∀ check ∈ before, check.2 = none) ∧ loaded.asked = before.map Prod.fst ++ [name] ∧
        ∃ failure, loaded.result = .error failure ∧
          failure.message = "Invalid " ++ name ++ ": " ++ fault.message) ∨
      (∀ check ∈ RetryConfig.checks vars, check.2 = none) ∧ loaded.asked = names ∧
        ∃ config, RetryConfig.ReadFrom vars config ∧
          (config.Valid ∧ loaded.result = .ok config ∨
            ∃ fault, config.Refused fault ∧ ¬config.Valid ∧
              loaded.result = .error (.unusable fault))) ∧
    (∀ config, loaded.result = .ok config →
      ∃ policy, RetryPolicy.ofConfig config = .ok policy ∧ policy.config = config) ∧
    (∀ other : Variables, (∀ name ∈ names, other name = vars name) →
      RetryConfig.load other = loaded) ∧
    -- The configuration of a service goes on from there.
    match loaded.result with
    | .error fault => load vars = ⟨.error fault, loaded.asked, []⟩
    | .ok retry =>
      ∃ logging, (LoggingConfig.load vars).result = .ok logging ∧
        (loadedEvent ⟨retry, logging⟩).level = .info ∧
        load vars = ⟨.ok ⟨retry, logging⟩,
          loaded.asked ++ ["SERVICE_NAME", "LOG_LEVEL", "LOG_FORMAT"],
          [loadedEvent ⟨retry, logging⟩]⟩ := by
  intro loaded names
  obtain ⟨silent, reading⟩ := RetryConfig.loadFields_asks vars
  have noEvents : loaded.events = [] := (RetryConfig.events_load vars).trans silent
  have sameAsked : loaded.asked = (RetryConfig.loadFields vars).asked := RetryConfig.asked_load vars
  refine ⟨rfl, noEvents, ?_, fun config result => ?_, fun other same => ?_, ?_⟩
  · rcases reading with ⟨before, name, fault, after, split, clean, failed, asked⟩ |
      ⟨clean, asked, config, found, readFrom⟩
    · refine .inl ⟨before, name, fault, after, split, clean, sameAsked.trans asked,
        .malformed name fault, ?_, rfl⟩
      rw [show loaded = _ from RetryConfig.load_of_malformed failed]
    · exact .inr ⟨clean, sameAsked.trans asked, config, readFrom,
        (RetryConfig.load_of_fields found).2.2⟩
  · exact ⟨_, RetryConfig.ofConfig_of_valid (RetryConfig.valid_of_load result), rfl⟩
  · exact RetryConfig.load_congr same
  · cases result : loaded.result with
    | error fault =>
      dsimp only
      rw [load_of_error result, noEvents]
    | ok retry =>
      obtain ⟨logging, logs⟩ : ∃ logging, (LoggingConfig.load vars).result = .ok logging := ⟨_, rfl⟩
      refine ⟨logging, logs, rfl, ?_⟩
      rw [load_of_ok result logs, noEvents]
      rfl

end StorageConfig

end SteadyStore
