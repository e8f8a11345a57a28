import LossWindows.Command.Run
import LossWindows.Proofs.Losses.InPlace
import LossWindows.Proofs.Losses.Messages
import LossWindows.Proofs.Losses.Windows
import LossWindows.Proofs.Realization.Buffering

/-!
# How a run ends

Three things can be at fault in a run, and they are looked at in a fixed order: its
arguments, the file that they name, and the width.  Once these are right nothing is left
to go wrong before the report is written, because the sequence numbers of a log ascend.

Nothing is written before that.  What is written goes through a buffer and is taken in
portions, but where standard output has room for all of it, all of it is taken in the end.  So
a run that fails there has written nothing.

The shares and the summary are told last of all before the report, so that only runs which
succeed tell them.

## Main definitions

* `Unreadable` — a file whose content cannot be had or used, and why.
* `Environment.Writes` — a part of a run that writes certain bytes.
* `Environment.HasRoom` — standard output takes whatever a run has to write.
* `Environment.said` — what is said on standard error, apart from why a run fails.
-/

namespace LossWindows.Command

/-! ## The report on a file -/

/-- A file that cannot be opened, or whose content is no text. -/
inductive Unreadable : Except ReadError ByteArray → ReadError → Prop
  | opening (e : ReadError) : Unreadable (.error e) e
  | decoding {bytes : ByteArray} (h : ¬ bytes.IsValidUTF8) : Unreadable (.ok bytes) .notUtf8

theorem unreadable_or_valid (content : Except ReadError ByteArray) :
    (∃ e, Unreadable content e) ∨ ∃ bytes, content = .ok bytes ∧ bytes.IsValidUTF8 := by
  cases content with
  | error e => exact Or.inl ⟨e, .opening e⟩
  | ok bytes =>
    by_cases hvalid : bytes.IsValidUTF8
    · exact Or.inr ⟨bytes, rfl, hvalid⟩
    · exact Or.inl ⟨.notUtf8, .decoding hvalid⟩

section Report

variable {options : Options} {content : Except ReadError ByteArray} {bytes : ByteArray}

/-- Content may be read from its lines. -/
theorem report_ok (options : Options) (bytes : ByteArray) :
    options.report (.ok bytes) = Losses.read bytes >>= options.reportOn := by
  rw [← Losses.readInPlace_eq_read]
  rfl

/-- A file that cannot be read is the fault of the run, whatever its width. -/
theorem report_of_unreadable {e : ReadError} (h : Unreadable content e) :
    (options.report content).value = .error (.reading options.file e) ∧
      (options.report content).Tells (·.level = .debug) := by
  cases h with
  | opening => exact ⟨rfl, Logged.tells_pure _⟩
  | @decoding bytes hvalid =>
    have hread := Losses.value_read_eq_error_iff.2 ⟨hvalid, rfl⟩
    rw [report_ok]
    refine ⟨?_, (Losses.tells_read bytes).bind ?_⟩
    · rw [Logged.value_bind, hread]
      rfl
    · rw [hread]
      exact Logged.tells_pure _

/-- A text can be read, so that a width out of bounds is the fault, even where there are no
drops to lay out. -/
theorem report_of_out_of_bounds (hvalid : bytes.IsValidUTF8)
    (h : options.width = 0 ∨ maxWidth < options.width) :
    (options.report (.ok bytes)).value = .error (.building (.widthOutOfBounds options.width)) ∧
      (options.report (.ok bytes)).Tells (·.level = .debug) := by
  obtain ⟨losses, hread, -⟩ := Losses.value_read_toUTF8 ⟨bytes, hvalid⟩
  have hread : (Losses.read bytes).value = .ok losses := hread
  have hwindows : losses.windows options.width =
      pure (.error (.widthOutOfBounds options.width)) := windowsOf_of_out_of_bounds h _
  have hreport : options.reportOn (.ok losses) =
      pure (.error (.building (.widthOutOfBounds options.width))) := by
    simp [Options.reportOn, hwindows]
  rw [report_ok]
  refine ⟨?_, (Losses.tells_read bytes).bind ?_⟩
  · rw [Logged.value_bind, hread, hreport, Logged.value_pure]
  · rw [hread, hreport]
    exact Logged.tells_pure _

/-- **Nothing else can be at fault.** -/
theorem exists_report (hvalid : bytes.IsValidUTF8)
    (hpos : 0 < options.width) (hle : options.width ≤ maxWidth) :
    ∃ losses windows, (Losses.read bytes).value = .ok losses ∧
      (windowsOf options.width losses.seqs).value = .ok windows ∧
      (options.report (.ok bytes)).value =
        .ok ⟨options.file, losses.tally, windows, options.wire⟩ := by
  obtain ⟨losses, hread, -, hasc, -⟩ := Losses.value_read_toUTF8 ⟨bytes, hvalid⟩
  have hread : (Losses.read bytes).value = .ok losses := hread
  obtain ⟨windows, hwindows, -⟩ := Losses.exists_windows hasc ⟨options.width, hpos, hle⟩
  refine ⟨losses, windows, hread, hwindows, ?_⟩
  rw [report_ok, Logged.value_bind, hread]
  simp [Options.reportOn, hwindows]

/-- Events that are meant for information come with a report. -/
theorem exists_report_of_info {event : Event} (h : event ∈ (options.report content).events)
    (hlevel : event.level = .info) : ∃ report, (options.report content).value = .ok report := by
  have hquiet (htells : (options.report content).Tells (·.level = .debug)) : False := by
    rw [htells event h] at hlevel
    cases hlevel
  rcases unreadable_or_valid content with ⟨e, he⟩ | ⟨bytes, rfl, hvalid⟩
  · exact (hquiet (report_of_unreadable he).2).elim
  · by_cases hwidth : options.width = 0 ∨ maxWidth < options.width
    · exact (hquiet (report_of_out_of_bounds hvalid hwidth).2).elim
    · have hpos : 0 < options.width := by omega
      have hle : options.width ≤ maxWidth := by omega
      obtain ⟨losses, windows, -, -, hreport⟩ := exists_report hvalid hpos hle
      exact ⟨_, hreport⟩

end Report

/-! ## Steps in an environment -/

/-- A part of a run in an environment. -/
abbrev Running := Attempt Activity Ending

namespace Environment

variable {env : Environment} {activity : Activity} {α : Type}

theorem outcome_say (env : Environment) (remark : Remark) (activity : Activity) :
    (liftM (env.host.say remark) : Running PUnit).outcome activity =
      (.ok ⟨⟩, { activity with stderr := activity.stderr ++ [remark] }) := rfl

theorem outcome_open (env : Environment) (name : String) (activity : Activity) :
    (liftM (env.host.open? name) : Running _).outcome activity =
      (.ok (env.files name), { activity with opened := activity.opened ++ [name] }) := rfl

theorem outcome_forM_say (env : Environment) (remark : α → Remark) (l : List α)
    (activity : Activity) :
    (l.forM fun a => liftM (env.host.say (remark a)) : Running PUnit).outcome activity =
      (.ok ⟨⟩, { activity with stderr := activity.stderr ++ l.map remark }) := by
  induction l generalizing activity with
  | nil => simp [List.forM, Attempt.outcome_pure]
  | cons a l ih =>
    rw [List.forM, Attempt.outcome_bind, outcome_say]
    dsimp only
    rw [ih, List.map_cons, List.append_assoc, List.singleton_append]

/-- What is told is shown before the result decides how to go on. -/
theorem outcome_follow (env : Environment) (told : Logged (Except Failure α))
    (activity : Activity) :
    Attempt.outcome (env.host.follow told) activity =
      (told.value.mapError Ending.failure, { activity with
        stderr := activity.stderr ++ (told.events.toList.filter env.shows).map Remark.event }) := by
  have hshown := env.outcome_forM_say Remark.event (told.events.toList.filter env.shows) activity
  rw [Host.follow, Attempt.outcome_bind]
  simp only [Environment.host] at hshown ⊢
  rw [hshown]
  cases told.value <;> rfl

theorem outcome_require_output (x : Buffering PUnit) (activity : Activity) :
    Attempt.outcome (Host.require (output x)) activity =
      ((x.outcome activity.stdout).1.mapError (Ending.failure ∘ Failure.writing),
        { activity with stdout := (x.outcome activity.stdout).2 }) := by
  rw [Host.require, Attempt.outcome_bind]
  have houtput : Attempt.outcome (liftM (output x) : Running _) activity =
      (.ok (x.outcome activity.stdout).1,
        { activity with stdout := (x.outcome activity.stdout).2 }) := rfl
  rw [houtput]
  cases (x.outcome activity.stdout).1 <;> rfl

/-- A part of a run writes certain bytes, through the buffer, and does nothing else. -/
def Writes (env : Environment) (bytes : List UInt8) (x : Running PUnit) : Prop :=
  ∀ activity, activity.stdout.taken.length ≤ env.stdout.limit →
    ∃ result stdout, x.outcome activity =
        (result.mapError (Ending.failure ∘ Failure.writing), { activity with stdout := stdout }) ∧
      Buffered.Written env.stdout activity.stdout bytes result stdout

theorem inSequence (env : Environment) : InSequence env.Writes where
  nil := by
    intro activity h
    exact ⟨.ok ⟨⟩, activity.stdout, rfl, .whole (by simp) h⟩
  append := by
    intro front back x y hx hy activity h
    obtain ⟨result, stdout, houtcome, hwritten⟩ := hx activity h
    rw [Attempt.outcome_bind, houtcome]
    cases result with
    | error e => exact ⟨.error e, stdout, rfl, hwritten.append back⟩
    | ok _ =>
      obtain ⟨result, last, houtcome', hwritten'⟩ :=
        hy { activity with stdout := stdout } hwritten.length_taken_le
      exact ⟨result, last, houtcome', hwritten.trans hwritten'⟩

theorem writes_write (env : Environment) (text : String) :
    env.Writes (Text.encode text.toList) (Host.require (env.host.write text)) := by
  intro activity h
  obtain ⟨result, stdout, hwrite, hwritten⟩ :=
    Buffered.written_write h env.capacity (Text.encode text.toList)
  refine ⟨result, stdout, ?_, hwritten⟩
  rw [Environment.host, outcome_require_output, hwrite]

/-- **A report that is delivered is taken as far as there is room**, and only for want of room
is that a failure. -/
theorem exists_outcome_deliver (env : Environment) (report : Report) {activity : Activity}
    (h : activity.stdout = .empty) :
    ∃ (result : Except WriteError Unit) (stdout : Buffered),
      Attempt.outcome (env.host.deliver report) activity =
        (result.mapError (Ending.failure ∘ Failure.writing), { activity with stdout := stdout }) ∧
      result = (if (Text.encode report.text.toList).length ≤ env.stdout.limit then .ok ⟨⟩
        else .error .nothingTaken) ∧
      stdout.taken = (Text.encode report.text.toList).take env.stdout.limit := by
  have hempty : activity.stdout.taken.length ≤ env.stdout.limit := by simp [h, Buffered.empty]
  obtain ⟨result, written, hwrite, hwritten⟩ :=
    env.inSequence.writeWith env.writes_write report activity hempty
  rw [Report.flatMap_encodeLine, ← Text.encode_toList, h] at hwritten
  rw [Host.deliver, Attempt.outcome_bind, hwrite]
  cases result with
  | error e => exact ⟨.error e, written, rfl, hwritten.taken_eq nofun⟩
  | ok _ =>
    obtain ⟨result, last, hflush, htaken⟩ := hwritten.exists_flush
    have hrequire := outcome_require_output (Buffered.flush env.stdout)
      { activity with stdout := written }
    rw [hflush] at hrequire
    exact ⟨result, last, hrequire, htaken⟩

/-! ## The arguments -/

theorem outcome_options_of_ok {options : Options} (h : env.arguments = .ok options) :
    Attempt.outcome env.host.options activity = (.ok options, activity) := by
  simp only [Host.options, Environment.host, h]
  rfl

theorem outcome_options_of_complaint {notice : Notice} (h : env.arguments = .error notice)
    (hcomplaint : notice.isComplaint = true) :
    Attempt.outcome env.host.options activity = (.error (.exit 1),
      { activity with stderr := activity.stderr ++ [.complaint notice.text] }) := by
  simp only [Host.options, Environment.host, h, hcomplaint]
  rfl

/-- Help is written like a report, but nobody looks whether it was taken. -/
theorem exists_outcome_options_of_help {notice : Notice} (h : env.arguments = .error notice)
    (hcomplaint : notice.isComplaint = false) (hstdout : activity.stdout = .empty)
    (hroom : (Text.encode notice.text.toList).length ≤ env.stdout.limit) :
    ∃ stdout : Buffered, stdout.taken = Text.encode notice.text.toList ∧
      Attempt.outcome env.host.options activity =
        (.error (.exit 0), { activity with stdout := stdout }) := by
  have houtput : Attempt.outcome env.host.options activity =
      (.error (.exit 0), { activity with stdout := ((Buffered.flush env.stdout).outcome
        ((Buffered.write env.stdout env.capacity (Text.encode notice.text.toList)).outcome
          activity.stdout).2).2 }) := by
    simp only [Host.options, Environment.host, h, hcomplaint]
    rfl
  have hempty : Buffered.empty.taken.length ≤ env.stdout.limit := Nat.zero_le _
  obtain ⟨result, written, hwrite, hwritten⟩ :=
    Buffered.written_write hempty env.capacity (Text.encode notice.text.toList)
  cases hwritten with
  | cut hlong _ => exact absurd hlong (Nat.not_lt.2 hroom)
  | whole hall hwhole =>
    obtain ⟨result, last, hflush, -, htaken⟩ := (Buffered.Written.whole hall hwhole).exists_flush
    rw [List.take_of_length_le hroom] at htaken
    refine ⟨last, htaken, ?_⟩
    rw [houtput, hstdout, hwrite, hflush]

/-! ## Whole runs -/

/-- What is said on standard error, apart from why a run fails. -/
def said (env : Environment) (events : List Event) : List Remark :=
  env.warnings.map .warning ++ (events.filter env.shows).map .event

/-- What a run leaves behind, by how its steps end. -/
theorem run_eq (env : Environment) :
    env.run =
      match Attempt.outcome env.host.steps .none with
      | (.ok _, activity) => ⟨0, activity.opened, activity.stderr, activity.stdout.taken⟩
      | (.error (.exit status), activity) =>
        ⟨status, activity.opened, activity.stderr, activity.stdout.taken⟩
      | (.error (.failure failure), activity) =>
        ⟨1, activity.opened, activity.stderr ++ [.failure failure], activity.stdout.taken⟩ := by
  have houtcome : (env.host.steps.run.run .none).run = Attempt.outcome env.host.steps .none := rfl
  rw [run, Host.run, StateT.run_bind, Id.run_bind, houtcome]
  rcases Attempt.outcome env.host.steps .none with ⟨⟨status | failure⟩ | _, activity⟩
  · rfl
  · rfl
  · rfl

/-- Where a run stands when it has warned of the setting of the log, which comes first. -/
def warned (env : Environment) : Activity :=
  ⟨[], env.warnings.map .warning, .empty⟩

theorem outcome_steps (env : Environment) :
    Attempt.outcome env.host.steps .none = Attempt.outcome env.host.analyze env.warned := by
  have hsaid := env.outcome_forM_say Remark.warning env.warnings .none
  rw [Host.steps, Attempt.outcome_bind]
  simp only [Environment.host] at hsaid ⊢
  rw [hsaid]
  rfl

theorem run_of_complaint {notice : Notice} (h : env.arguments = .error notice)
    (hcomplaint : notice.isComplaint = true) :
    env.run = ⟨1, [], env.said [] ++ [.complaint notice.text], []⟩ := by
  rw [run_eq, outcome_steps, Host.analyze, Attempt.outcome_bind,
    outcome_options_of_complaint h hcomplaint]
  simp [said, warned, Buffered.empty]

theorem run_of_help {notice : Notice} (h : env.arguments = .error notice)
    (hcomplaint : notice.isComplaint = false)
    (hroom : (Text.encode notice.text.toList).length ≤ env.stdout.limit) :
    env.run = ⟨0, [], env.said [], Text.encode notice.text.toList⟩ := by
  have hempty : env.warned.stdout = .empty := rfl
  obtain ⟨stdout, htaken, hoptions⟩ := exists_outcome_options_of_help h hcomplaint hempty hroom
  rw [run_eq, outcome_steps, Host.analyze, Attempt.outcome_bind, hoptions]
  simp [said, warned, htaken]

/-- Where a run with proper arguments stands when it knows its report. -/
def reported (env : Environment) (options : Options) : Activity :=
  ⟨[options.file], env.said (options.report (env.files options.file)).events.toList, .empty⟩

theorem outcome_steps_of_ok {options : Options} (h : env.arguments = .ok options) :
    Attempt.outcome env.host.steps .none =
      match (options.report (env.files options.file)).value with
      | .ok report => Attempt.outcome (env.host.deliver report) (env.reported options)
      | .error failure => (.error (.failure failure), env.reported options) := by
  rw [outcome_steps, Host.analyze, Attempt.outcome_bind, outcome_options_of_ok h]
  dsimp only
  rw [Attempt.outcome_bind, outcome_open]
  dsimp only
  rw [Attempt.outcome_bind, outcome_follow]
  cases (options.report (env.files options.file)).value <;> rfl

/-- A run without a report says why and writes nothing. -/
theorem run_of_failure {options : Options} {failure : Failure} (h : env.arguments = .ok options)
    (hreport : (options.report (env.files options.file)).value = .error failure) :
    env.run = ⟨1, [options.file],
      env.said (options.report (env.files options.file)).events.toList ++ [.failure failure],
      []⟩ := by
  rw [run_eq, outcome_steps_of_ok h, hreport]
  rfl

/-- **A run with a report writes all of it where there is room.**  Otherwise it writes as much
as there is room for, and fails. -/
theorem run_of_report {options : Options} {report : Report} (h : env.arguments = .ok options)
    (hreport : (options.report (env.files options.file)).value = .ok report) :
    let text := Text.encode report.text.toList
    let said := env.said (options.report (env.files options.file)).events.toList
    (text.length ≤ env.stdout.limit → env.run = ⟨0, [options.file], said, text⟩) ∧
      (env.stdout.limit < text.length →
        env.run = ⟨1, [options.file], said ++ [.failure (.writing .nothingTaken)],
          text.take env.stdout.limit⟩) := by
  intro text said
  have hempty : (env.reported options).stdout = .empty := rfl
  obtain ⟨result, stdout, hwrite, hresult, htaken⟩ := env.exists_outcome_deliver report hempty
  have hrun := env.run_eq
  rw [outcome_steps_of_ok h, hreport] at hrun
  dsimp only at hrun
  rw [hwrite] at hrun
  constructor
  · intro hroom
    rw [if_pos hroom] at hresult
    rw [hrun, hresult]
    simp only [Except.mapError, reported, htaken, List.take_of_length_le hroom, text, said]
  · intro hlong
    rw [if_neg (Nat.not_le.2 hlong)] at hresult
    rw [hrun, hresult]
    simp only [Except.mapError, reported, htaken, text, said, Function.comp_apply]

/-! ## With room for all output -/

/-- Standard output has room for whatever a run has to write. -/
structure HasRoom (env : Environment) : Prop where
  help : ∀ notice, env.arguments = .error notice → notice.isComplaint = false →
    notice.text.utf8ByteSize ≤ env.stdout.limit
  report : ∀ options report, env.arguments = .ok options →
    (options.report (env.files options.file)).value = .ok report →
    report.text.utf8ByteSize ≤ env.stdout.limit

theorem event_mem_said {event : Event} {events : List Event} :
    .event event ∈ env.said events ↔ event ∈ events ∧ env.shows event = true := by
  simp [said]

namespace HasRoom

theorem run_of_help {notice : Notice} (h : env.HasRoom) (harguments : env.arguments = .error notice)
    (hcomplaint : notice.isComplaint = false) :
    env.run = ⟨0, [], env.said [], Text.encode notice.text.toList⟩ := by
  have hroom := h.help notice harguments hcomplaint
  rw [← Text.length_encode_toList] at hroom
  exact Environment.run_of_help harguments hcomplaint hroom

theorem run_of_report {options : Options} {report : Report} (h : env.HasRoom)
    (harguments : env.arguments = .ok options)
    (hreport : (options.report (env.files options.file)).value = .ok report) :
    env.run = ⟨0, [options.file],
      env.said (options.report (env.files options.file)).events.toList,
      Text.encode report.text.toList⟩ := by
  have hroom := h.report options report harguments hreport
  rw [← Text.length_encode_toList] at hroom
  exact (Environment.run_of_report harguments hreport).1 hroom

/-- **A run that fails writes nothing to standard output.** -/
theorem stdout_run_of_status (h : env.HasRoom) (hstatus : env.run.status ≠ 0) :
    env.run.stdout = [] := by
  cases harguments : env.arguments with
  | error notice =>
    cases hcomplaint : notice.isComplaint with
    | true => rw [run_of_complaint harguments hcomplaint]
    | false =>
      rw [h.run_of_help harguments hcomplaint] at hstatus
      exact absurd rfl hstatus
  | ok options =>
    cases hreport : (options.report (env.files options.file)).value with
    | error failure => rw [run_of_failure harguments hreport]
    | ok report =>
      rw [h.run_of_report harguments hreport] at hstatus
      exact absurd rfl hstatus

theorem status_run_of_info (h : env.HasRoom) {event : Event}
    (hshown : .event event ∈ env.run.stderr) (hlevel : event.level = .info) :
    env.run.status = 0 := by
  cases harguments : env.arguments with
  | error notice =>
    cases hcomplaint : notice.isComplaint with
    | true => simp [run_of_complaint harguments hcomplaint, event_mem_said] at hshown
    | false => rw [h.run_of_help harguments hcomplaint]
  | ok options =>
    cases hreport : (options.report (env.files options.file)).value with
    | error failure =>
      have htold : event ∈ (options.report (env.files options.file)).events := by
        rw [run_of_failure harguments hreport] at hshown
        simp [event_mem_said] at hshown
        exact hshown.1
      obtain ⟨report, hreport'⟩ := exists_report_of_info htold hlevel
      rw [hreport] at hreport'
      cases hreport'
    | ok report => rw [h.run_of_report harguments hreport]

end HasRoom

end Environment

/-- **How a run ends.**  Wrong arguments and asking for help come first, and no file is opened
then; after them comes a file that cannot be read, whatever the width is, and then a width
out of bounds.  Every other run succeeds, with the report on its file as its standard output.
A run that fails writes nothing there, and shows no event that is meant for information,
which is to say neither a share nor the summary.

This is so whatever the arguments come to, what the files hold, which events are shown and in
which portions standard output takes bytes, provided that it has room for all of them. -/
theorem run_ends (env : Environment) (h : env.HasRoom) :
    let outcome := env.run
    (∀ notice, env.arguments = .error notice →
      outcome.opened = [] ∧
      (notice.isComplaint = true →
        outcome.status = 1 ∧ outcome.stderr = env.said [] ++ [.complaint notice.text]) ∧
      (notice.isComplaint = false →
        outcome.status = 0 ∧ outcome.stderr = env.said [] ∧
          outcome.stdout = Text.encode notice.text.toList)) ∧
    (∀ options, env.arguments = .ok options →
      let said := env.said (options.report (env.files options.file)).events.toList
      outcome.opened = [options.file] ∧
      (∀ e, Unreadable (env.files options.file) e →
        outcome.status = 1 ∧ outcome.stderr = said ++ [.failure (.reading options.file e)]) ∧
      (∀ bytes, env.files options.file = .ok bytes → bytes.IsValidUTF8 →
        (¬ (1 ≤ options.width ∧ options.width ≤ 256) →
          outcome.status = 1 ∧ outcome.stderr =
            said ++ [.failure (.building (.widthOutOfBounds options.width))]) ∧
        (1 ≤ options.width ∧ options.width ≤ 256 →
          ∃ losses windows, (Losses.read bytes).value = .ok losses ∧
            (windowsOf options.width losses.seqs).value = .ok windows ∧
            outcome.status = 0 ∧ outcome.stderr = said ∧ outcome.stdout =
              Text.encode
                (Report.mk options.file losses.tally windows options.wire).text.toList))) ∧
    (outcome.status ≠ 0 → outcome.stdout = []) ∧
    (∀ event, .event event ∈ outcome.stderr → event.level = .info → outcome.status = 0) := by
  intro outcome
  refine ⟨?_, ?_, h.stdout_run_of_status, fun _ => h.status_run_of_info⟩
  · intro notice harguments
    cases hcomplaint : notice.isComplaint with
    | true => simp [outcome, Environment.run_of_complaint harguments hcomplaint]
    | false => simp [outcome, h.run_of_help harguments hcomplaint]
  · intro options harguments said
    have hopened : outcome.opened = [options.file] := by
      cases hreport : (options.report (env.files options.file)).value with
      | error failure => simp [outcome, Environment.run_of_failure harguments hreport]
      | ok report => simp [outcome, h.run_of_report harguments hreport]
    refine ⟨hopened, ?_, ?_⟩
    · intro e he
      have hreport : (options.report (env.files options.file)).value =
          .error (.reading options.file e) := (report_of_unreadable he).1
      simp [outcome, said, Environment.run_of_failure harguments hreport]
    · intro bytes hbytes hvalid
      have hmax : maxWidth = 256 := rfl
      refine ⟨?_, ?_⟩
      · intro hwidth
        have hreport := (@report_of_out_of_bounds options bytes hvalid (by omega)).1
        rw [← hbytes] at hreport
        simp [outcome, said, Environment.run_of_failure harguments hreport]
      · intro hwidth
        obtain ⟨losses, windows, hread, hwindows, hreport⟩ :=
          @exists_report options bytes hvalid (by omega) (by omega)
        rw [← hbytes] at hreport
        refine ⟨losses, windows, hread, hwindows, ?_⟩
        simp [outcome, said, h.run_of_report harguments hreport]

/-- A file with an absolute name, whose report fills standard output to the last byte, and a
missing file under a width out of bounds. -/
theorem run_ends_with_exact_room :
    let content := "1 0 1 2 5 3\n1 0 1 2 6 3\n1 0 1 2 20 1\n"
    let report : Report := ⟨"/tmp/report.txt", ⟨3, 1, 0, 2⟩,
      [⟨5, [false, false, true, true], 0⟩, ⟨20, [false, true, true, true], 0⟩], false⟩
    let env : Environment :=
      { arguments := .ok ⟨"/tmp/report.txt", 4, false⟩
        warnings := []
        shows := fun event => event.level = .info
        files := fun name =>
          if name = "/tmp/report.txt" then .ok content.toUTF8 else .error .notFound
        stdout := .stepwise report.text.utf8ByteSize 3 (by decide)
        capacity := 16 }
    let other := { env with arguments := .ok ⟨"missing.txt", 0, true⟩ }
    (env.HasRoom ∧ env.run.status = 0 ∧ env.run.stdout = Text.encode report.text.toList) ∧
      other.HasRoom ∧ other.run.status = 1 ∧ other.run.stdout = [] ∧
        other.run.stderr = [.failure (.reading "missing.txt" .notFound)] := by
  intro content report env other
  have hdrops : Drop.ofText content = [⟨5, 3⟩, ⟨6, 3⟩, ⟨20, 1⟩] := by decide +kernel
  have hread : (Losses.read content.toUTF8).value = .ok ⟨⟨3, 1, 0, 2⟩, [5, 6, 20]⟩ := by
    rw [Losses.value_read_toUTF8_eq_ok_iff, hdrops]
    exact ⟨by decide, by decide, by simp [eq_comm]⟩
  have hwindows : (windowsOf 4 [5, 6, 20]).value = .ok report.windows := by cbv
  have hreport : ((Options.mk "/tmp/report.txt" 4 false).report (.ok content.toUTF8)).value =
      .ok report := by
    rw [report_ok, Logged.value_bind, hread]
    simp [Options.reportOn, Losses.windows, hwindows, report]
  have hroom : env.HasRoom := by
    constructor
    · intro notice harguments
      cases harguments
    · intro options other harguments hother
      obtain rfl := Except.ok.inj harguments
      obtain rfl := Except.ok.inj (hreport.symm.trans hother)
      exact Nat.le_refl _
  have hroom' : other.HasRoom := by
    constructor
    · intro notice harguments
      cases harguments
    · intro options report harguments hother
      obtain rfl := Except.ok.inj harguments
      cases hother
  obtain ⟨-, hends, -, -⟩ := run_ends env hroom
  obtain ⟨-, -, hreadable⟩ := hends ⟨"/tmp/report.txt", 4, false⟩ rfl
  obtain ⟨losses, windows, hread', hwindows', hstatus, -, hstdout⟩ :=
    (hreadable content.toUTF8 rfl content.isValidUTF8).2 (by decide)
  obtain rfl := Except.ok.inj (hread.symm.trans hread')
  obtain rfl := Except.ok.inj (hwindows.symm.trans hwindows')
  obtain ⟨-, hends', hnothing, -⟩ := run_ends other hroom'
  obtain ⟨-, hunreadable, -⟩ := hends' ⟨"missing.txt", 0, true⟩ rfl
  obtain ⟨hstatus', hstderr'⟩ := hunreadable .notFound (.opening .notFound)
  refine ⟨⟨hroom, hstatus, hstdout⟩, hroom', hstatus', hnothing ?_, hstderr'⟩
  rw [hstatus']
  decide

end LossWindows.Command
