import ChipEight.CommandLine.Command
import ChipEight.Proofs.Machine.Similar
import ChipEight.Proofs.Settings.Mistyped

/-!
# Refused settings and the command

The command takes its settings from a file and from its arguments before it does anything else.  If
it gets none, it stops there: with status 2 and a line that says why, or broken off if a value has
the wrong type.  If it gets some, they are in order.
-/

namespace ChipEight

/-! ## Settings files -/

namespace Options

variable {α : Type} {depth : Nat}

/-- A result is a failure that the command does not report. -/
def Unreported (result : Except ConfigurationError α) : Prop :=
  ∃ failure, result = .error failure ∧ failure.isReported = false

@[simp]
theorem unreported_ok (a : α) : Unreported (.ok a) ↔ False := by
  simp [Unreported]

@[simp]
theorem unreported_error (failure : ConfigurationError) :
    Unreported (.error failure : Except ConfigurationError α) ↔ failure.isReported = false := by
  simp [Unreported]

/-- A settings file breaks the command off: values in it lie too deep, or it is a document from
which no settings can be read because of a type. -/
def BreakingFile (depth : Nat) (contents : Except FileError (List UInt8)) : Prop :=
  ∃ bytes chars, contents = .ok bytes ∧ Utf8.decode bytes = .ok chars ∧
    ((∃ container, Json.readText (some Literal.maxDigits) depth (Utf8.plainLines chars) =
        .error (.tooDeep container)) ∨
      ∃ value, Json.readText (some Literal.maxDigits) depth (Utf8.plainLines chars) = .ok value ∧
        Settings.MistypedDocument value)

theorem unreported_settingsOfFile (contents : Except FileError (List UInt8)) :
    Unreported (settingsOfFile depth contents) ↔ BreakingFile depth contents := by
  cases contents with
  | error failure => simp [settingsOfFile, BreakingFile, ConfigurationError.isReported]
  | ok bytes =>
  cases decoded : Utf8.decode bytes with
  | error failure =>
      simp [settingsOfFile, BreakingFile, decoded, ConfigurationError.isReported]
  | ok chars =>
  simp only [settingsOfFile, decoded, Settings.ofDocument, Settings.ofDocumentWithin,
    String.toList_ofList, BreakingFile]
  cases reading : Json.readText (some Literal.maxDigits) depth (Utf8.plainLines chars) with
  | error failure =>
      cases failure <;> simp [decoded, reading, ConfigurationError.isReported]
  | ok value =>
      have miscast := Settings.miscast_ofJson value
      cases settings : Settings.ofJson value with
      | error failure =>
          rw [settings, Miscast.error_iff] at miscast
          simp [decoded, reading, settings, ← miscast, ConfigurationError.isReported]
      | ok settings =>
          rw [settings, Miscast.ok_iff, false_iff] at miscast
          simp [decoded, reading, settings, miscast]

theorem validate_of_settingsOfFile {contents : Except FileError (List UInt8)} {settings : Settings}
    (read : settingsOfFile depth contents = .ok settings) : settings.validate = .ok () := by
  cases contents with
  | error failure => cases read
  | ok bytes =>
  cases decoded : Utf8.decode bytes with
  | error failure =>
      simp only [settingsOfFile, decoded] at read
      cases read
  | ok chars =>
  simp only [settingsOfFile, decoded, Settings.ofDocument, Settings.ofDocumentWithin] at read
  split at read
  · cases read
  · cases read
  · rename_i accepted
    cases read
    split at accepted
    · cases accepted
    · split at accepted
      · cases accepted
      · rename_i documented
        cases accepted
        exact Settings.validate_of_ofJson documented

/-! ## Settings and arguments -/

/-- The settings before the arguments change them. -/
def base (options : Options) (depth : Nat) (read : Text → Except FileError (List UInt8)) :
    Except ConfigurationError Settings :=
  match pathGiven options.config with
  | some path => settingsOfFile depth (read path)
  | none => .ok {}

theorem validate_of_base {options : Options} {read : Text → Except FileError (List UInt8)}
    {settings : Settings} (given : options.base depth read = .ok settings) :
    settings.validate = .ok () := by
  unfold base at given
  split at given
  · exact validate_of_settingsOfFile given
  · cases given
    rfl

/-- Arguments that leave a number blank, when nothing else is wrong before it is checked. -/
def BlankNumber (options : Options) : Prop :=
  options.faultPolicy ≠ some .blank ∧
    (options.cyclesPerSecond = some .blank ∨
      (∀ n, options.cyclesPerSecond = some (.value n) → 0 < n) ∧ options.zoom = some .blank)

theorem entry_of_ne_blank {given : Option (Given Int)} (filled : given ≠ some .blank)
    (usual : Int) :
    (given.map entryValue).getD (.json (.int usual)) = .json (.int (orUsual usual given)) := by
  rcases given with _ | ⟨n | _⟩
  · rfl
  · rfl
  · exact absurd rfl filled

theorem miscast_cyclesPerSecond (options : Options) (settings : Settings) :
    Miscast (Draft.checkPositive (options.overrideDraft settings).cyclesPerSecond
        .cyclesNotPositive) ↔ options.cyclesPerSecond = some .blank := by
  simp only [overrideDraft, Settings.toDraft]
  by_cases blank : options.cyclesPerSecond = some .blank
  · simp [blank, entryValue, Draft.checkPositive, EntryValue.numeric?, Json.numeric?,
      SettingsError.blamesValue]
  · simpa only [entry_of_ne_blank blank, blank, iff_false] using
      Draft.not_miscast_checkPositive _ .cyclesNotPositive rfl

theorem miscast_zoom (options : Options) (settings : Settings) :
    Miscast (Draft.checkZoom (options.overrideDraft settings).zoom) ↔
      options.zoom = some .blank := by
  simp only [overrideDraft, Settings.toDraft]
  by_cases blank : options.zoom = some .blank
  · simp [blank, entryValue, Draft.checkZoom, EntryValue.numeric?, Json.numeric?,
      SettingsError.blamesValue]
  · simpa only [entry_of_ne_blank blank, blank, iff_false] using Draft.not_miscast_checkZoom _

theorem checkPositive_overrideDraft {options : Options} {settings : Settings}
    (positive : 0 < settings.cyclesPerSecond) (filled : options.cyclesPerSecond ≠ some .blank) :
    Draft.checkPositive (options.overrideDraft settings).cyclesPerSecond .cyclesNotPositive =
        .ok () ↔ ∀ n, options.cyclesPerSecond = some (.value n) → 0 < n := by
  simp only [overrideDraft, Settings.toDraft, entry_of_ne_blank filled, Draft.checkPositive_int]
  rcases given : options.cyclesPerSecond with _ | ⟨n | _⟩
  · simp [orUsual, positive]
  · simp [orUsual]
  · exact absurd given filled

/-- Settings that are in order fail a check because of a type exactly if a number is left blank. -/
theorem miscast_overrideDraft (options : Options) {settings : Settings}
    (valid : settings.validate = .ok ()) :
    Miscast (options.overrideDraft settings).validate ↔
      options.cyclesPerSecond = some .blank ∨
        (∀ n, options.cyclesPerSecond = some (.value n) → 0 < n) ∧
          options.zoom = some .blank := by
  have checks := (Draft.validate_eq_ok_iff settings.toDraft).mp valid
  have timer : Draft.checkPositive (options.overrideDraft settings).timerHz .timerNotPositive =
      .ok () := checks.2.1
  have onColor : Draft.checkColor (options.overrideDraft settings).onColor = .ok () :=
    checks.2.2.2.1
  have offColor : Draft.checkColor (options.overrideDraft settings).offColor = .ok () :=
    checks.2.2.2.2
  have positive := ((Settings.validate_eq_ok_iff settings).mp valid).1
  rw [Draft.validate_eq, Miscast.andThen_iff, miscast_cyclesPerSecond]
  by_cases blank : options.cyclesPerSecond = some .blank
  · simp [blank]
  · simp only [timer, onColor, offColor, Settings.andThen_ok, Miscast.andThen_iff, miscast_zoom,
      exists_const, checkPositive_overrideDraft positive blank, Miscast.ok_iff, and_false,
      or_false, blank, false_or]

/-- What passes the check before the arguments are taken over passes it afterwards. -/
theorem validate_override {options : Options} {usual : Settings}
    (checked : (options.overrideDraft usual).validate = .ok ()) :
    (options.override usual).validate = .ok () := by
  obtain ⟨cycles, timer, zoom, onColor, offColor⟩ := (Draft.validate_eq_ok_iff _).mp checked
  have cyclesFilled : options.cyclesPerSecond ≠ some .blank := by
    rw [ne_eq, ← miscast_cyclesPerSecond options usual, cycles]
    simp
  have zoomFilled : options.zoom ≠ some .blank := by
    rw [ne_eq, ← miscast_zoom options usual, zoom]
    simp
  apply (Draft.validate_eq_ok_iff _).mpr
  constructor
  · rwa [overrideDraft, Settings.toDraft, entry_of_ne_blank cyclesFilled] at cycles
  constructor
  · exact timer
  constructor
  · rwa [overrideDraft, Settings.toDraft, entry_of_ne_blank zoomFilled] at zoom
  · exact ⟨onColor, offColor⟩

section

variable {options : Options} {read : Text → Except FileError (List UInt8)}

theorem settings_of_error {failure : ConfigurationError}
    (refused : options.base depth read = .error failure) :
    options.settings depth read = .error failure := by
  cases configured : pathGiven options.config with
  | none =>
      simp only [base, configured] at refused
      cases refused
  | some path =>
      simp only [base, configured] at refused
      simp only [settings, configured, refused]

/-- Settings with the entries that the arguments give, checked. -/
def overridden (options : Options) (usual : Settings) : Except ConfigurationError Settings :=
  if options.faultPolicy = some .blank then .error (.refused (.unknownPolicy "[]"))
  else
    match (options.overrideDraft usual).validate with
    | .error failure => .error (.refused failure)
    | .ok () => .ok (options.override usual)

theorem settings_of_ok {usual : Settings} (given : options.base depth read = .ok usual) :
    options.settings depth read = options.overridden usual := by
  cases configured : pathGiven options.config with
  | none =>
      simp only [base, configured, Except.ok.injEq] at given
      cases checked : (options.overrideDraft usual).validate <;>
        simp only [settings, configured, overridden, given, checked]
  | some path =>
      simp only [base, configured] at given
      cases checked : (options.overrideDraft usual).validate <;>
        simp only [settings, configured, overridden, given, checked]

/-- The command breaks off instead of reporting why it has no settings. -/
def Breaking (options : Options) (depth : Nat) (read : Text → Except FileError (List UInt8)) :
    Prop :=
  (∃ path, pathGiven options.config = some path ∧ BreakingFile depth (read path)) ∨
    (∃ settings, options.base depth read = .ok settings) ∧ options.BlankNumber

theorem unreported_base : Unreported (options.base depth read) ↔
    ∃ path, pathGiven options.config = some path ∧ BreakingFile depth (read path) := by
  unfold base
  cases pathGiven options.config with
  | none => simp
  | some path => simp [unreported_settingsOfFile]

theorem unreported_settings :
    Unreported (options.settings depth read) ↔ options.Breaking depth read := by
  unfold Breaking
  rw [← unreported_base]
  cases given : options.base depth read with
  | error failure => simp [settings_of_error given]
  | ok usual =>
      rw [settings_of_ok given]
      have miscast := miscast_overrideDraft options (validate_of_base given)
      simp only [overridden, BlankNumber, ← miscast, unreported_ok, false_or, Except.ok.injEq,
        exists_eq', true_and]
      by_cases blank : options.faultPolicy = some .blank
      · simp [blank, ConfigurationError.isReported, SettingsError.blamesValue]
      · cases checked : (options.overrideDraft usual).validate with
        | error failure => simp [blank, ConfigurationError.isReported]
        | ok _ => simp [blank]

theorem validate_of_settings {accepted : Settings}
    (given : options.settings depth read = .ok accepted) : accepted.validate = .ok () := by
  cases before : options.base depth read with
  | error failure =>
      rw [settings_of_error before] at given
      cases given
  | ok usual =>
      rw [settings_of_ok before, overridden] at given
      split at given
      · cases given
      · split at given
        · cases given
        · rename_i checked
          cases given
          exact validate_override checked

theorem settings_congr {other : Text → Except FileError (List UInt8)}
    (same : ∀ path, pathGiven options.config = some path → other path = read path) :
    options.settings depth other = options.settings depth read := by
  cases given : pathGiven options.config with
  | none => simp only [settings, given]
  | some path => simp only [settings, given, same path given]

end

end Options

/-! ## The command -/

namespace Command

open Options

variable {platform : Platform} {depth : Nat} {options : Options}
  {read : Text → Except FileError (List UInt8)} {writable : Text → Except FileError Unit}
  {clock : Clock Float} {random : RandomSource}

/-! ### Without settings -/

/-- The outcome when there are no settings. -/
def refused (options : Options) (failure : ConfigurationError) : Outcome :=
  if failure.isReported then ended options [.settingsInvalid failure.message] "" (.exit 2)
  else ended options [] "" (.broken (.configuration failure))

theorem carryOut_of_error {failure : ConfigurationError}
    (none : options.settings platform.depth read = .error failure) :
    carryOut platform options read writable clock random = (refused options failure, clock) := by
  simp only [carryOut, prepare, none, refused]
  cases failure.isReported <;> rfl

theorem refused_stdout (options : Options) (failure : ConfigurationError) :
    (refused options failure).stdout = "" := by
  unfold refused
  split <;> rfl

theorem refused_picture (options : Options) (failure : ConfigurationError) :
    (refused options failure).picture = none := by
  unfold refused
  split <;> rfl

/-- An error is printed at every level. -/
theorem logLines_settingsInvalid (level : Level) (reason : Text) :
    logLines level [.settingsInvalid reason] = [(Notice.settingsInvalid reason).line] := by
  cases level <;> rfl

/-- The command ends before it turns to the program: it has printed no status and made no picture,
its clock has not been asked, and no file but the one with the settings, no place for a picture and
no random byte has a part in its result. -/
structure EndsBeforeProgram (platform : Platform) (arguments : List Text) (options : Options)
    (read : Text → Except FileError (List UInt8)) (clock : Clock Float)
    (result : Outcome × Clock Float) : Prop where
  stdout : result.1.stdout = ""
  picture : result.1.picture = none
  time : result.2 = clock
  files : ∀ other writable random,
    (∀ path, pathGiven options.config = some path → other path = read path) →
      run platform arguments other writable clock random = result

/-! ### With settings -/

theorem outcome_ending (imaging : Imaging) (options : Options) (runner : Runner Machine)
    (result : Except Breakdown Unit) (writable : Text → Except FileError Unit) :
    (outcome imaging options runner result writable).ending ≠ .exit 2 := by
  cases result with
  | error breakdown => exact Ending.noConfusion
  | ok _ =>
      simp only [outcome, conclude]
      cases pathGiven options.screenshot with
      | none => simp [ended]
      | some path => cases taken : takePicture imaging runner path writable <;> simp [ended, taken]

theorem loadFile_settings (machine : Machine) (path : Text)
    (contents : Except FileError (List UInt8)) :
    (machine.loadFile path contents).1.settings = machine.settings := by
  cases contents with
  | error failure =>
      simp only [Machine.loadFile]
      cases failure.isRefusal <;> rfl
  | ok rom =>
      have kept := (machine.note (.romOpened path)).after_settings (.loadRom rom)
      simp only [Machine.after] at kept
      simp only [Machine.loadFile]
      rcases loaded : (machine.note (.romOpened path)).loadRom rom with ⟨after, _ | _⟩
      · rw [loaded] at kept
        exact kept
      · rw [loaded] at kept
        exact kept

theorem holdAll_settings (machine : Machine) (keys : List (Given Key)) :
    (holdAll machine keys).1.settings = machine.settings := by
  induction keys generalizing machine with
  | nil => rfl
  | cons key rest ih =>
      cases key with
      | blank => rfl
      | value key =>
          rw [holdAll, ih, Machine.applyKey]
          split <;> rfl

/-- With settings the command goes on to the program and, unless that fails, runs it with them. -/
theorem prepare_of_ok {settings : Settings} (accepted : options.settings depth read = .ok settings)
    (random : RandomSource) :
    (∃ outcome, prepare depth options read random = .error outcome ∧ outcome.ending ≠ .exit 2) ∨
      ∃ runner, prepare depth options read random = .ok runner ∧ runner.settings = settings ∧
        runner.machine.settings = settings := by
  have loading := loadFile_settings (Machine.create settings random) options.rom (read options.rom)
  simp only [prepare, accepted]
  rcases loaded : (Machine.create settings random).loadFile options.rom (read options.rom) with
    ⟨machine, failure | _ | _⟩
  · exact .inl ⟨_, rfl, Ending.noConfusion⟩
  · exact .inl ⟨_, rfl, by simp [ended]⟩
  · rw [loaded] at loading
    have holding := holdAll_settings machine options.holdKeys
    rcases held : holdAll machine options.holdKeys with ⟨after, _ | _⟩
    · left
      simp only [held]
      refine ⟨_, rfl, ?_⟩
      exact Ending.noConfusion
    · rw [held] at holding
      have kept : after.settings = settings := holding.trans loading
      right
      simp only [held]
      refine ⟨_, rfl, ?_⟩
      exact ⟨kept, kept⟩

theorem carryOut_ending_of_ok {settings : Settings}
    (accepted : options.settings platform.depth read = .ok settings) :
    (carryOut platform options read writable clock random).1.ending ≠ .exit 2 := by
  rcases prepare_of_ok accepted random with ⟨stopped, prepared, ending⟩ | ⟨runner, prepared, -⟩
  · simp only [carryOut, prepared]
    exact ending
  · simp only [carryOut, prepared]
    split
    · exact outcome_ending _ _ _ _ _
    · exact outcome_ending _ _ _ _ _

/-! ### Every run -/

section

variable {arguments : List Text} (parsed : Options.parse arguments = .ok options)
include parsed

theorem run_of_blank (blank : options.logLevel = .blank) :
    run platform arguments read writable clock random = (Outcome.ofBlankLevel, clock) := by
  simp only [run, parsed, blank, if_true]

theorem run_of_ne_blank (filled : options.logLevel ≠ .blank) :
    run platform arguments read writable clock random =
      carryOut platform options read writable clock random := by
  simp only [run, parsed, filled, if_false]

end

/-- For every list of arguments that is accepted, and whatever the files hold: if there are no
settings, the command ends before it turns to the program, with status 2 and a line that says why,
unless the level is left blank or a value breaks it off.  If there are settings, they are in order,
the status is not 2, and it is with them that the program is run. -/
theorem refused_settings_end_command (platform : Platform) (arguments : List Text)
    (options : Options) (parsed : Options.parse arguments = .ok options)
    (read : Text → Except FileError (List UInt8)) (writable : Text → Except FileError Unit)
    (clock : Clock Float) (random : RandomSource) :
    let result := run platform arguments read writable clock random
    (∀ failure, options.settings platform.depth read = .error failure →
      EndsBeforeProgram platform arguments options read clock result ∧
        (options.logLevel ≠ .blank ∧ ¬ options.Breaking platform.depth read →
          result.1.ending = .exit 2 ∧
            result.1.stderr = [(Notice.settingsInvalid failure.message).line]) ∧
        (options.logLevel = .blank ∨ options.Breaking platform.depth read →
          ∃ breakdown, result.1.ending = .broken breakdown)) ∧
      ∀ settings, options.settings platform.depth read = .ok settings →
        settings.validate = .ok () ∧ result.1.ending ≠ .exit 2 ∧
          ∀ runner, prepare platform.depth options read random = .ok runner →
            runner.settings = settings ∧ runner.machine.settings = settings := by
  intro result
  constructor
  · intro failure none
    -- Either way the result is one that no other file, place or byte enters into, so it is stated
    -- for all of them at once and then read off.
    by_cases blank : options.logLevel = .blank
    · have always other writable random :
          run platform arguments other writable clock random = (Outcome.ofBlankLevel, clock) :=
        run_of_blank parsed blank
      rw [show result = (Outcome.ofBlankLevel, clock) from always read writable random]
      constructor
      · exact ⟨rfl, rfl, rfl, fun other writable random _ => always other writable random⟩
      constructor
      · rintro ⟨filled, -⟩
        exact absurd blank filled
      · intro _
        exact ⟨_, rfl⟩
    · have always other writable random
          (same : ∀ path, pathGiven options.config = some path → other path = read path) :
          run platform arguments other writable clock random =
            (refused options failure, clock) := by
        rw [run_of_ne_blank parsed blank, carryOut_of_error ((settings_congr same).trans none)]
      have breaking : options.Breaking platform.depth read ↔ failure.isReported = false := by
        rw [← unreported_settings, none, unreported_error]
      rw [show result = (refused options failure, clock) from
        always read writable random fun _ _ => rfl]
      constructor
      · exact ⟨refused_stdout options failure, refused_picture options failure, rfl, always⟩
      constructor
      · rintro ⟨-, unbroken⟩
        have reported : failure.isReported = true := by simpa [breaking] using unbroken
        simp only [refused, reported, if_true]
        exact ⟨rfl, logLines_settingsInvalid _ _⟩
      · rintro (unset | broken)
        · exact absurd unset blank
        · simp only [refused, breaking.mp broken, Bool.false_eq_true, if_false]
          exact ⟨_, rfl⟩
  · intro settings accepted
    constructor
    · exact validate_of_settings accepted
    constructor
    · by_cases blank : options.logLevel = .blank
      · rw [show result = (Outcome.ofBlankLevel, clock) from run_of_blank parsed blank]
        exact Ending.noConfusion
      · rw [show result = carryOut platform options read writable clock random from
          run_of_ne_blank parsed blank]
        exact carryOut_ending_of_ok accepted
    · intro runner prepared
      rcases prepare_of_ok accepted random with ⟨outcome, stopped, -⟩ | ⟨_, ready, kept⟩
      · rw [stopped] at prepared
        cases prepared
      · rw [ready] at prepared
        cases prepared
        exact kept

/-- Files of which one holds settings with `null` for the zoom. -/
def nullZoom (path : Text) : Except FileError (List UInt8) :=
  if path = "c.json" then
    .ok [0x7B, 0x22, 0x7A, 0x6F, 0x6F, 0x6D, 0x22, 0x3A, 0x6E, 0x75, 0x6C, 0x6C, 0x7D]
  else .ok [0x12, 0x00]

/-- A settings file with `null` for the zoom breaks the command off. -/
theorem refused_settings_end_command_null_zoom :
    Options.parse ["rom.ch8", "--config", "c.json"] =
        .ok { rom := "rom.ch8", config := some "c.json" } ∧
      ∃ breakdown,
        (run ⟨1, .byCentres none⟩ ["rom.ch8", "--config", "c.json"] nullZoom (fun _ => .ok ())
          ⟨0, 0, 0, 0, 0, [], false⟩ (RandomSource.cycling #[])).1.ending = .broken breakdown := by
  have parsed : Options.parse ["rom.ch8", "--config", "c.json"] =
      .ok { rom := "rom.ch8", config := some "c.json" } := rfl
  have mistyped : Settings.MistypedDocument (.obj [("zoom", .null)]) := by
    right
    constructor
    · rintro value ⟨⟩
    right
    constructor
    · rintro value ⟨⟩
    left
    exact ⟨.null, rfl, trivial⟩
  have file : BreakingFile 1 (nullZoom "c.json") :=
    ⟨_, ['\x7b', '"', 'z', 'o', 'o', 'm', '"', ':', 'n', 'u', 'l', 'l', '\x7d'], rfl, rfl,
      .inr ⟨_, rfl, mistyped⟩⟩
  have breaking : Options.Breaking { rom := "rom.ch8", config := some "c.json" } 1 nullZoom :=
    .inl ⟨"c.json", rfl, file⟩
  obtain ⟨failure, missing, -⟩ := unreported_settings.mpr breaking
  have ends := refused_settings_end_command ⟨1, .byCentres none⟩ _ _ parsed nullZoom
    (fun _ => .ok ()) ⟨0, 0, 0, 0, 0, [], false⟩ (RandomSource.cycling #[])
  exact ⟨parsed, (ends.1 failure missing).2.2 (.inr breaking)⟩

end Command

end ChipEight
