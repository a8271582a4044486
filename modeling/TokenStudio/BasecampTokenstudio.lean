import TokenStudio.AttestationProver.Basic
import TokenStudio.CodeLib.Run

/-!
# The ProofGate backend of the Basecamp module

The backend launches the `proofgate` binary for the Basecamp view and reports how each
operation ends.  Its calls (`configureProofgateBinary`, `start`, `cancel`) and the
signals of its `QProcess` come from one event loop, in any order.  A run is a list of
such events.  An event that the process cannot raise in a state leaves the state as it
is.

`OneAtATime` says what the backend is for: operations one after the other, each with
the output that it has written itself and with one ending.  `backend_runs_one_at_a_time`
says that every run of the backend is such a run, as long as no start runs into its
timeout.  A start that does leaves its process behind, and the backend takes what this
process writes for the output of a later operation (`late_process_answers_for_next`).
`launches_and_kills` says what is launched, and which operation is killed after a
cancel.

Texts, files and the environment are arguments.  So is what `waitForStarted` finds.
-/

namespace TokenStudio

/-! ## Arguments -/

/-- What the backend takes from Qt. -/
structure QtText where
  /-- `QString::trimmed`. -/
  trimmed : String → String
  /-- `QString::fromUtf8`. -/
  fromUtf8 : Bytes → String
  /-- `QDir::homePath`. -/
  homePath : String

/-- What the backend finds on the desktop in one call. -/
structure Desktop where
  /-- `QStandardPaths::findExecutable`, which is empty for an unknown name. -/
  findExecutable : String → String
  /-- `QFileInfo::isExecutable`. -/
  isExecutable : String → Bool
  /-- `QFileInfo::isFile`. -/
  isFile : String → Bool
  /-- `QFileInfo::isReadable`. -/
  isReadable : String → Bool
  /-- `QProcessEnvironment::systemEnvironment`. -/
  systemEnvironment : String → Option String

/-- `normalizedPath`. -/
def normalizedPath (Q : QtText) (value : String) : String :=
  match (Q.trimmed value).toList with
  | '~' :: rest => Q.homePath ++ String.ofList rest
  | _ => Q.trimmed value

/-- The flags whose files `validateRequiredInputs` looks at, each where it stands first. -/
def requiredFlags (arguments : List String) : List String :=
  match arguments.head? with
  | some "prove" =>
    ["--gate"] ++ (if "--input" ∈ arguments then ["--input"] else []) ++
      if "--account-snapshot" ∈ arguments then ["--account-snapshot"] else []
  | some "present" => ["--proof", "--challenge", "--presenter-key"]
  | _ => []

/-- The path after a flag, where the flag stands first. -/
def flagPath? (Q : QtText) (arguments : List String) (flag : String) : Option String :=
  (arguments[arguments.idxOf flag + 1]?).map (normalizedPath Q)

/-- `validateRequiredInputs`.  It returns an empty text where this is `none`. -/
def validateRequiredInputs (Q : QtText) (desktop : Desktop) (arguments : List String) :
    Option String :=
  (requiredFlags arguments).findSome? fun flag =>
    (flagPath? Q arguments flag).bind fun path =>
      if desktop.isFile path && desktop.isReadable path then none
      else some ("Required input file is missing or unreadable: " ++ path ++ " (" ++ flag ++ ")")

/-- The program for the name of a binary. -/
def Desktop.resolve (desktop : Desktop) (binary : String) : String :=
  if '/' ∈ binary.toList then binary else desktop.findExecutable binary

/-- The check of `configureProofgateBinary` and `start`. -/
def Desktop.runs (desktop : Desktop) (resolved : String) : Bool :=
  !resolved.isEmpty && desktop.isExecutable resolved

def notExecutableText (binary : String) : String :=
  "ProofGate binary is not executable: " ++ binary

/-! ## The state -/

/-- `QProcess::ProcessState`. -/
inductive ProcessState where
  | notRunning
  | starting
  | running
  deriving DecidableEq, Repr

/-- `QProcess::ExitStatus`. -/
inductive ExitStatus where
  | normalExit
  | crashExit
  deriving DecidableEq, Repr

/-- What a process is started with. -/
structure Launch where
  program : String
  arguments : List String
  environment : String → Option String

/-- The variable `RISC0_DEV_MODE` of a launched process. -/
def Launch.devMode (self : Launch) : EnvVar :=
  match self.environment "RISC0_DEV_MODE" with
  | some text => .value text
  | none => .notPresent

/-- The signal `operationFinished`. -/
structure OperationFinished where
  success : Bool
  exitCode : Int
  output : String
  error : String
  deriving DecidableEq

/-- The properties and members of `TokenstudioProofgateUiBackend`, the state of its
`QProcess`, and what has come out of the calls so far. -/
structure ProofgateBackend where
  proofgateBinary : String
  busy : Bool
  activeOperation : String
  lastOutput : String
  lastError : String
  lastExitCode : Int
  /-- `m_stdout`. -/
  stdout : Bytes
  /-- `m_stderr`. -/
  stderr : Bytes
  processState : ProcessState
  /-- The standard output of the process that was not read yet. -/
  unreadOutput : Bytes
  /-- The same for its standard error. -/
  unreadError : Bytes
  /-- `kBinaryKey` in the settings. -/
  storedBinary : String
  /-- The processes that were started, first one first. -/
  launches : List Launch
  /-- The signals that were emitted. -/
  finished : List OperationFinished
  /-- The number of launches at each `terminate`. -/
  terminated : List Nat
  /-- The timers of `cancel` that run, each with the number of launches when it was set. -/
  timers : List Nat
  /-- Each `kill`: the number of launches when its timer was set, and the number now. -/
  killed : List (Nat × Nat)

/-- The constructor, with the stored name. -/
def ProofgateBackend.create (desktop : Desktop) (stored : String) : ProofgateBackend where
  proofgateBinary :=
    if ¬ stored.isEmpty then stored
    else if (desktop.findExecutable "proofgate").isEmpty then "proofgate"
    else desktop.findExecutable "proofgate"
  busy := false
  activeOperation := ""
  lastOutput := ""
  lastError := ""
  lastExitCode := 0
  stdout := []
  stderr := []
  processState := .notRunning
  unreadOutput := []
  unreadError := []
  storedBinary := stored
  launches := []
  finished := []
  terminated := []
  timers := []
  killed := []

/-! ## The calls -/

/-- `failToStart`. -/
def ProofgateBackend.failToStart (message : String) (s : ProofgateBackend) : ProofgateBackend :=
  if ¬ s.busy then s
  else
    { s with
      lastError := message
      lastExitCode := -1
      busy := false
      activeOperation := ""
      finished := s.finished ++ [⟨false, -1, "", message⟩] }

/-- `drainOutput`. -/
def ProofgateBackend.drainOutput (Q : QtText) (s : ProofgateBackend) : ProofgateBackend :=
  { s with
    stdout := s.stdout ++ s.unreadOutput
    stderr := s.stderr ++ s.unreadError
    unreadOutput := []
    unreadError := []
    lastOutput := Q.fromUtf8 (s.stdout ++ s.unreadOutput)
    lastError := Q.fromUtf8 (s.stderr ++ s.unreadError) }

/-- The signal of an operation that exits with this output. -/
def exitSignal (Q : QtText) (stdout stderr : Bytes) (exitCode : Int) (exitStatus : ExitStatus) :
    OperationFinished :=
  let success := exitStatus = .normalExit && exitCode = 0
  let error := Q.trimmed (Q.fromUtf8 stderr)
  { success
    exitCode
    output := Q.trimmed (Q.fromUtf8 stdout)
    error :=
      if !success && error.isEmpty then
        if exitStatus = .crashExit then "ProofGate process crashed"
        else "ProofGate exited with code " ++ toString exitCode
      else error }

/-- `finish`. -/
def ProofgateBackend.finish (Q : QtText) (exitCode : Int) (exitStatus : ExitStatus)
    (s : ProofgateBackend) : ProofgateBackend :=
  let s := s.drainOutput Q
  let signal := exitSignal Q s.stdout s.stderr exitCode exitStatus
  { s with
    lastOutput := signal.output
    lastError := signal.error
    lastExitCode := exitCode
    busy := false
    activeOperation := ""
    finished := s.finished ++ [signal] }

/-- `configureProofgateBinary`. -/
def ProofgateBackend.configureProofgateBinary (Q : QtText) (desktop : Desktop) (path : String)
    (s : ProofgateBackend) : Bool × ProofgateBackend :=
  let path := normalizedPath Q path
  let resolved := desktop.resolve path
  if s.busy || path.isEmpty then (false, s)
  else if !desktop.runs resolved then (false, { s with lastError := notExecutableText path })
  else (true, { s with proofgateBinary := resolved, storedBinary := resolved, lastError := "" })

/-- What `waitForStarted` finds. -/
inductive Startup where
  | started
  | failed (errorString : String)
  | timedOut (errorString : String)
  deriving DecidableEq

/-- `QProcess::start` and `waitForStarted`, and the signal `errorOccurred` of a process
that fails to start.  A process that is still there is not replaced. -/
def ProofgateBackend.startProcess (launch : Launch) (startup : Startup) (s : ProofgateBackend) :
    Bool × ProofgateBackend :=
  let s :=
    if s.processState = .notRunning then
      { s with
        processState := .starting
        unreadOutput := []
        unreadError := []
        launches := s.launches ++ [launch] }
    else s
  if s.processState = .running then (true, s)
  else
    match startup with
    | .started => (true, { s with processState := .running })
    -- once for the signal, and once for the result
    | .failed message =>
      (false, ({ s with processState := .notRunning }.failToStart message).failToStart message)
    | .timedOut message => (false, s.failToStart message)

/-- The environment of a process that `start` launches. -/
def realProvingEnvironment (systemEnvironment : String → Option String) :
    String → Option String := fun name =>
  if name = "RISC0_DEV_MODE" then some "0" else systemEnvironment name

/-- The state in which `start` launches its process. -/
def ProofgateBackend.begin (Q : QtText) (operation : String) (s : ProofgateBackend) :
    ProofgateBackend :=
  { s with
    stdout := []
    stderr := []
    lastOutput := ""
    lastError := ""
    lastExitCode := 0
    activeOperation := Q.trimmed operation
    busy := true }

/-- `start`. -/
def ProofgateBackend.start (Q : QtText) (desktop : Desktop) (operation : String)
    (arguments : List String) (startup : Startup) (s : ProofgateBackend) :
    Bool × ProofgateBackend :=
  let resolved := desktop.resolve s.proofgateBinary
  if s.busy || arguments.isEmpty then (false, s)
  else if !desktop.runs resolved then
    (false, { s with lastError := notExecutableText s.proofgateBinary })
  else
    match validateRequiredInputs Q desktop arguments with
    | some inputError =>
      (false, { s with lastOutput := "", lastError := inputError, lastExitCode := -1 })
    | none =>
      (s.begin Q operation).startProcess
        ⟨resolved, arguments, realProvingEnvironment desktop.systemEnvironment⟩ startup

/-- `cancel`, which terminates the process and sets a timer. -/
def ProofgateBackend.cancel (s : ProofgateBackend) : Bool × ProofgateBackend :=
  if !s.busy || s.processState = .notRunning then (false, s)
  else
    (true,
      { s with
        terminated := s.terminated ++ [s.launches.length]
        timers := s.timers ++ [s.launches.length] })

/-- The end of the first timer: a process that is there is killed. -/
def ProofgateBackend.graceElapsed (s : ProofgateBackend) : ProofgateBackend :=
  match s.timers with
  | [] => s
  | timer :: timers =>
    if s.processState = .notRunning then { s with timers }
    else { s with timers, killed := s.killed ++ [(timer, s.launches.length)] }

/-! ## Events -/

/-- What happens in the event loop. -/
inductive BackendEvent where
  | configure (desktop : Desktop) (path : String)
  | start (desktop : Desktop) (operation : String) (arguments : List String) (startup : Startup)
  | cancel
  /-- A process that was slow to start has started. -/
  | started
  /-- It has failed to start. -/
  | failedToStart (errorString : String)
  | wrote (output error : Bytes)
  | readyRead
  | exited (exitCode : Int) (exitStatus : ExitStatus)
  | graceElapsed

/-- One event.  The result is the one of a call, and true for the others. -/
def ProofgateBackend.handle (Q : QtText) (s : ProofgateBackend) :
    BackendEvent → Bool × ProofgateBackend
  | .configure desktop path => s.configureProofgateBinary Q desktop path
  | .start desktop operation arguments startup => s.start Q desktop operation arguments startup
  | .cancel => s.cancel
  | .started =>
    (true, if s.processState = .starting then { s with processState := .running } else s)
  | .failedToStart message =>
    (true,
      if s.processState = .starting then
        { s with processState := .notRunning }.failToStart message
      else s)
  | .wrote output error =>
    (true,
      if s.processState = .running then
        { s with
          unreadOutput := s.unreadOutput ++ output
          unreadError := s.unreadError ++ error }
      else s)
  | .readyRead => (true, if s.processState = .running then s.drainOutput Q else s)
  | .exited exitCode exitStatus =>
    (true,
      if s.processState = .running then
        { s with processState := .notRunning }.finish Q exitCode exitStatus
      else s)
  | .graceElapsed => (true, s.graceElapsed)

/-- One event, as an operation of a run. -/
def onEvent (Q : QtText) (event : BackendEvent) : Mutating ProofgateBackend Empty Bool := fun s =>
  (.ok (s.handle Q event).1, (s.handle Q event).2)

/-! ## One operation at a time -/

/-- An operation, and what it has written. -/
structure Operation where
  name : String
  launch : Launch
  stdout : Bytes
  stderr : Bytes

/-- How an operation ends. -/
inductive Ending where
  | failedToStart (errorString : String)
  | exited (exitCode : Int) (exitStatus : ExitStatus)

/-- The operations so far: at most one that runs, and the others with their endings. -/
structure OneAtATime where
  binary : String
  current : Option Operation
  ended : List (Operation × Ending)

/-- The process of an operation, unless the binary cannot be run or a file that the
arguments name cannot be read. -/
def launchFor? (Q : QtText) (desktop : Desktop) (binary : String) (arguments : List String) :
    Option Launch :=
  if arguments ≠ [] ∧ desktop.runs (desktop.resolve binary) ∧
      validateRequiredInputs Q desktop arguments = none then
    some ⟨desktop.resolve binary, arguments, realProvingEnvironment desktop.systemEnvironment⟩
  else none

/-- The operations after an event.  A start in which the process does not start in time
is no event here. -/
def OneAtATime.next (Q : QtText) (a : OneAtATime) : BackendEvent → OneAtATime
  | .configure desktop path =>
    let resolved := desktop.resolve (normalizedPath Q path)
    if a.current.isNone ∧ ¬ (normalizedPath Q path).isEmpty ∧ desktop.runs resolved then
      { a with binary := resolved }
    else a
  | .start desktop operation arguments startup =>
    match a.current, launchFor? Q desktop a.binary arguments, startup with
    | none, some launch, .started => { a with current := some ⟨operation, launch, [], []⟩ }
    | none, some launch, .failed message =>
      { a with ended := a.ended ++ [(⟨operation, launch, [], []⟩, .failedToStart message)] }
    | _, _, _ => a
  | .wrote output error =>
    { a with
      current := a.current.map fun op =>
        { op with stdout := op.stdout ++ output, stderr := op.stderr ++ error } }
  | .exited exitCode exitStatus =>
    match a.current with
    | some op => { a with current := none, ended := a.ended ++ [(op, .exited exitCode exitStatus)] }
    | none => a
  | _ => a

/-- All operations, first one first. -/
def OneAtATime.operations (a : OneAtATime) : List Operation :=
  a.ended.map Prod.fst ++ a.current.toList

/-- The signal for an operation that has ended. -/
def endSignal (Q : QtText) : Operation × Ending → OperationFinished
  | (_, .failedToStart message) => ⟨false, -1, "", message⟩
  | (op, .exited exitCode exitStatus) => exitSignal Q op.stdout op.stderr exitCode exitStatus

/-- The backend shows these operations. -/
structure ProofgateBackend.Shows (Q : QtText) (s : ProofgateBackend) (a : OneAtATime) : Prop where
  binary : s.proofgateBinary = a.binary
  processState : s.processState = if a.current.isSome then .running else .notRunning
  busy : s.busy = a.current.isSome
  activeOperation : s.activeOperation = (a.current.map fun op => Q.trimmed op.name).getD ""
  /-- The output of the operation that runs is in the buffer, as far as it was read. -/
  output : ∀ op, a.current = some op → s.stdout ++ s.unreadOutput = op.stdout
  error : ∀ op, a.current = some op → s.stderr ++ s.unreadError = op.stderr
  finished : s.finished = a.ended.map (endSignal Q)
  launches : s.launches = a.operations.map Operation.launch

/-- A start whose process does not start in time. -/
def BackendEvent.TimesOut : BackendEvent → Prop
  | .start _ _ _ (.timedOut _) => True
  | _ => False

section

variable {Q : QtText} {s : ProofgateBackend} {a : OneAtATime}

/-- An idle backend has no process. -/
theorem ProofgateBackend.Shows.idle (h : s.Shows Q a) (hidle : a.current = none) :
    s.busy = false ∧ s.processState = .notRunning ∧ s.activeOperation = "" := by
  have hbusy := h.busy
  have hprocess := h.processState
  have hactive := h.activeOperation
  rw [hidle] at hbusy hprocess hactive
  exact ⟨hbusy, hprocess, hactive⟩

/-- A busy backend has one that runs. -/
theorem ProofgateBackend.Shows.running (h : s.Shows Q a) {op : Operation}
    (hcurrent : a.current = some op) :
    s.busy = true ∧ s.processState = .running ∧ s.activeOperation = Q.trimmed op.name := by
  have hbusy := h.busy
  have hprocess := h.processState
  have hactive := h.activeOperation
  rw [hcurrent] at hbusy hprocess hactive
  exact ⟨hbusy, hprocess, hactive⟩

/-- A backend after a call that it has refused. -/
def ProofgateBackend.withTexts (s : ProofgateBackend) (output error : String) (exitCode : Int) :
    ProofgateBackend :=
  { s with lastOutput := output, lastError := error, lastExitCode := exitCode }

theorem ProofgateBackend.Shows.withTexts (h : s.Shows Q a) (output error : String)
    (exitCode : Int) : (s.withTexts output error exitCode).Shows Q a :=
  ⟨h.binary, h.processState, h.busy, h.activeOperation, h.output, h.error, h.finished, h.launches⟩

/-- What `start` does in an idle backend. -/
theorem ProofgateBackend.start_of_idle (hbusy : s.busy = false) (desktop : Desktop)
    (operation : String) (arguments : List String) (startup : Startup) :
    (∃ launch, launchFor? Q desktop s.proofgateBinary arguments = some launch ∧
        s.start Q desktop operation arguments startup =
          (s.begin Q operation).startProcess launch startup) ∨
      launchFor? Q desktop s.proofgateBinary arguments = none ∧
        ∃ output error code, s.start Q desktop operation arguments startup =
          (false, s.withTexts output error code) := by
  unfold ProofgateBackend.start launchFor?
  by_cases harguments : arguments = []
  · refine Or.inr ⟨by simp [harguments], s.lastOutput, s.lastError, s.lastExitCode, ?_⟩
    simp [harguments, ProofgateBackend.withTexts]
  by_cases hruns : desktop.runs (desktop.resolve s.proofgateBinary) = true
  · cases hinput : validateRequiredInputs Q desktop arguments with
    | none =>
      refine Or.inl ⟨_, if_pos ⟨harguments, hruns, rfl⟩, ?_⟩
      simp [hbusy, harguments, hruns]
    | some inputError =>
      refine Or.inr ⟨by simp, "", inputError, -1, ?_⟩
      simp [hbusy, harguments, hruns, ProofgateBackend.withTexts]
  · refine Or.inr ⟨by simp [hruns], s.lastOutput, notExecutableText s.proofgateBinary,
      s.lastExitCode, ?_⟩
    simp [hbusy, harguments, hruns, ProofgateBackend.withTexts]

/-- A busy backend refuses to start. -/
theorem ProofgateBackend.start_of_busy (hbusy : s.busy = true) (desktop : Desktop)
    (operation : String) (arguments : List String) (startup : Startup) :
    s.start Q desktop operation arguments startup = (false, s) := by
  simp [ProofgateBackend.start, hbusy]

/-- The state after `failToStart` in a busy backend. -/
theorem ProofgateBackend.failToStart_of_busy (hbusy : s.busy = true) (message : String) :
    s.failToStart message =
      { s with
        lastError := message
        lastExitCode := -1
        busy := false
        activeOperation := ""
        finished := s.finished ++ [⟨false, -1, "", message⟩] } := by
  simp [ProofgateBackend.failToStart, hbusy]

/-- The second report of one failure does nothing. -/
theorem ProofgateBackend.failToStart_failToStart (message message' : String) :
    (s.failToStart message).failToStart message' = s.failToStart message := by
  unfold ProofgateBackend.failToStart
  cases hbusy : s.busy with
  | false => simp [hbusy]
  | true => simp

/-- The state after a launch where there is no process. -/
def ProofgateBackend.launched (launch : Launch) (s : ProofgateBackend) : ProofgateBackend :=
  { s with
    processState := .running
    unreadOutput := []
    unreadError := []
    launches := s.launches ++ [launch] }

/-- A process that starts. -/
theorem ProofgateBackend.startProcess_started (hstate : s.processState = .notRunning)
    (launch : Launch) : s.startProcess launch .started = (true, s.launched launch) := by
  simp only [ProofgateBackend.startProcess, hstate, if_true]
  rfl

/-- A process that fails to start.  The second report does nothing. -/
theorem ProofgateBackend.startProcess_failed (hstate : s.processState = .notRunning)
    (launch : Launch) (message : String) :
    s.startProcess launch (.failed message) =
      (false, { s.launched launch with processState := .notRunning }.failToStart message) := by
  simp only [ProofgateBackend.startProcess, hstate, if_true,
    ProofgateBackend.failToStart_failToStart]
  rfl

/-- A start in an idle backend whose process starts or fails. -/
theorem ProofgateBackend.Shows.startProcess (h : s.Shows Q a) (hidle : a.current = none)
    (operation : String) (launch : Launch) :
    ((s.begin Q operation).startProcess launch .started).2.Shows Q
        { a with current := some ⟨operation, launch, [], []⟩ } ∧
      ∀ message, ((s.begin Q operation).startProcess launch (.failed message)).2.Shows Q
        { a with ended := a.ended ++ [(⟨operation, launch, [], []⟩, .failedToStart message)] } := by
  obtain ⟨binary, current, ended⟩ := a
  obtain rfl : current = none := hidle
  have hstate : (s.begin Q operation).processState = .notRunning := (h.idle rfl).2.1
  have hlaunches : s.launches = ended.map fun e => e.1.launch := by
    rw [h.launches]
    simp [OneAtATime.operations]
  constructor
  · rw [ProofgateBackend.startProcess_started hstate]
    refine ⟨h.binary, rfl, rfl, rfl, ?_, ?_, h.finished, ?_⟩
    · intro op hop
      obtain rfl := Option.some.inj hop
      rfl
    · intro op hop
      obtain rfl := Option.some.inj hop
      rfl
    · show s.launches ++ [launch] = _
      simp [OneAtATime.operations, hlaunches]
  · intro message
    rw [ProofgateBackend.startProcess_failed hstate, ProofgateBackend.failToStart_of_busy rfl]
    refine ⟨h.binary, rfl, rfl, rfl, ?_, ?_, ?_, ?_⟩
    · intro op hop
      cases hop
    · intro op hop
      cases hop
    · show s.finished ++ [_] = _
      simp [h.finished, endSignal]
    · show s.launches ++ [launch] = _
      simp [OneAtATime.operations, hlaunches]

theorem ProofgateBackend.Shows.processState_ne_starting (h : s.Shows Q a) :
    s.processState ≠ .starting := by
  rw [h.processState]
  split <;> simp

/-- A binary is configured between two operations. -/
theorem ProofgateBackend.Shows.configure (h : s.Shows Q a) (desktop : Desktop) (path : String) :
    (s.handle Q (.configure desktop path)).2.Shows Q (a.next Q (.configure desktop path)) := by
  show (s.configureProofgateBinary Q desktop path).2.Shows Q _
  by_cases haccepted : a.current.isNone ∧ ¬ (normalizedPath Q path).isEmpty ∧
      desktop.runs (desktop.resolve (normalizedPath Q path))
  · rw [show a.next Q (.configure desktop path) =
      { a with binary := desktop.resolve (normalizedPath Q path) } from if_pos haccepted]
    obtain ⟨hidle, hpath, hruns⟩ := haccepted
    have hbusy := (h.idle (Option.isNone_iff_eq_none.mp hidle)).1
    have hguard : ¬ (s.busy || (normalizedPath Q path).isEmpty) = true := by
      rw [hbusy]
      exact hpath
    unfold ProofgateBackend.configureProofgateBinary
    rw [if_neg hguard, if_neg (by simp [hruns])]
    exact ⟨rfl, h.processState, h.busy, h.activeOperation, h.output, h.error, h.finished,
      h.launches⟩
  · rw [show a.next Q (.configure desktop path) = a from if_neg haccepted]
    unfold ProofgateBackend.configureProofgateBinary
    by_cases hguard : (s.busy || (normalizedPath Q path).isEmpty) = true
    · rw [if_pos hguard]
      exact h
    · have hruns : (!desktop.runs (desktop.resolve (normalizedPath Q path))) = true := by
        rw [h.busy] at hguard
        simp only [Bool.or_eq_true, not_or, Bool.not_eq_true, Option.isSome_eq_false_iff] at hguard
        simp only [hguard, Bool.false_eq_true, not_false_eq_true, true_and] at haccepted
        simpa using haccepted
      rw [if_neg hguard, if_pos hruns]
      exact h.withTexts s.lastOutput _ s.lastExitCode

/-- An operation is started between two operations. -/
theorem ProofgateBackend.Shows.start (h : s.Shows Q a) {desktop : Desktop} {operation : String}
    {arguments : List String} {startup : Startup}
    (hstartup : ¬ (BackendEvent.start desktop operation arguments startup).TimesOut) :
    (s.handle Q (.start desktop operation arguments startup)).2.Shows Q
      (a.next Q (.start desktop operation arguments startup)) := by
  cases hcurrent : a.current with
  | some op =>
    have hbusy := (h.running hcurrent).1
    simp only [ProofgateBackend.handle, ProofgateBackend.start_of_busy hbusy, OneAtATime.next,
      hcurrent]
    exact h
  | none =>
    have hbusy := (h.idle hcurrent).1
    rw [ProofgateBackend.handle]
    rcases ProofgateBackend.start_of_idle (Q := Q) hbusy desktop operation arguments startup with
      ⟨launch, hlaunch, hstart⟩ | ⟨hnone, output, error, code, hstart⟩
    · rw [hstart]
      rw [h.binary] at hlaunch
      cases startup with
      | started =>
        simp only [OneAtATime.next, hcurrent, hlaunch]
        exact (h.startProcess hcurrent operation launch).1
      | failed message =>
        simp only [OneAtATime.next, hcurrent, hlaunch]
        simpa only [hcurrent] using (h.startProcess hcurrent operation launch).2 message
      | timedOut message => exact absurd trivial hstartup
    · rw [hstart]
      rw [h.binary] at hnone
      simp only [OneAtATime.next, hcurrent, hnone]
      exact h.withTexts output error code

/-- The process writes. -/
theorem ProofgateBackend.Shows.wrote (h : s.Shows Q a) (output error : Bytes) :
    (s.handle Q (.wrote output error)).2.Shows Q (a.next Q (.wrote output error)) := by
  cases hcurrent : a.current with
  | none =>
    have hstate := (h.idle hcurrent).2.1
    have hnext : a.next Q (.wrote output error) = a := by
      simp only [OneAtATime.next, hcurrent, Option.map_none]
      rw [← hcurrent]
    rw [hnext]
    simpa only [ProofgateBackend.handle, hstate, reduceCtorEq, if_false] using h
  | some op =>
    obtain ⟨hbusy, hstate, hactive⟩ := h.running hcurrent
    simp only [ProofgateBackend.handle, if_pos hstate, OneAtATime.next, hcurrent,
      Option.map_some]
    refine ⟨h.binary, hstate, hbusy, hactive, ?_, ?_, h.finished, ?_⟩
    · intro op' hop'
      obtain rfl := Option.some.inj hop'
      show s.stdout ++ (s.unreadOutput ++ output) = op.stdout ++ output
      rw [← List.append_assoc, h.output op hcurrent]
    · intro op' hop'
      obtain rfl := Option.some.inj hop'
      show s.stderr ++ (s.unreadError ++ error) = op.stderr ++ error
      rw [← List.append_assoc, h.error op hcurrent]
    · show s.launches = _
      rw [h.launches]
      simp [OneAtATime.operations, hcurrent]

/-- What was written is read. -/
theorem ProofgateBackend.Shows.drainOutput (h : s.Shows Q a) :
    (s.drainOutput Q).Shows Q a := by
  refine ⟨h.binary, h.processState, h.busy, h.activeOperation, ?_, ?_, h.finished, h.launches⟩
  · intro op hcurrent
    rw [← h.output op hcurrent]
    exact List.append_nil _
  · intro op hcurrent
    rw [← h.error op hcurrent]
    exact List.append_nil _

/-- The process exits, with all that it has written. -/
theorem ProofgateBackend.Shows.exited (h : s.Shows Q a) (exitCode : Int)
    (exitStatus : ExitStatus) :
    (s.handle Q (.exited exitCode exitStatus)).2.Shows Q
      (a.next Q (.exited exitCode exitStatus)) := by
  cases hcurrent : a.current with
  | none =>
    have hstate := (h.idle hcurrent).2.1
    simpa only [ProofgateBackend.handle, hstate, reduceCtorEq, if_false, OneAtATime.next, hcurrent]
      using h
  | some op =>
    obtain ⟨hbusy, hstate, hactive⟩ := h.running hcurrent
    simp only [ProofgateBackend.handle, hstate, if_true, OneAtATime.next, hcurrent]
    refine ⟨h.binary, rfl, rfl, rfl, ?_, ?_, ?_, ?_⟩
    · intro op' hop'
      cases hop'
    · intro op' hop'
      cases hop'
    · show s.finished ++ [exitSignal Q (s.stdout ++ s.unreadOutput) (s.stderr ++ s.unreadError)
        exitCode exitStatus] = _
      rw [h.finished, h.output op hcurrent, h.error op hcurrent, List.map_append]
      rfl
    · show s.launches = _
      rw [h.launches]
      simp [OneAtATime.operations, hcurrent]

/-- One event in a backend that shows its operations. -/
theorem ProofgateBackend.Shows.handle (h : s.Shows Q a) {event : BackendEvent}
    (hevent : ¬ event.TimesOut) : (s.handle Q event).2.Shows Q (a.next Q event) := by
  cases event with
  | configure desktop path => exact h.configure desktop path
  | start desktop operation arguments startup => exact h.start hevent
  | cancel =>
    simp only [ProofgateBackend.handle, ProofgateBackend.cancel]
    split
    · exact h
    · exact ⟨h.binary, h.processState, h.busy, h.activeOperation, h.output, h.error, h.finished,
        h.launches⟩
  | started =>
    simp only [ProofgateBackend.handle, if_neg h.processState_ne_starting]
    exact h
  | failedToStart message =>
    simp only [ProofgateBackend.handle, if_neg h.processState_ne_starting]
    exact h
  | wrote output error => exact h.wrote output error
  | readyRead =>
    simp only [ProofgateBackend.handle]
    split
    · exact h.drainOutput
    · exact h
  | exited exitCode exitStatus => exact h.exited exitCode exitStatus
  | graceElapsed =>
    simp only [ProofgateBackend.handle, ProofgateBackend.graceElapsed]
    split
    · exact h
    · split
      · exact ⟨h.binary, h.processState, h.busy, h.activeOperation, h.output, h.error, h.finished,
          h.launches⟩
      · exact ⟨h.binary, h.processState, h.busy, h.activeOperation, h.output, h.error, h.finished,
          h.launches⟩

end

/-! ## Launches -/

/-- A launch of the `start` of an event: the binary can be run, the files of the
`requiredFlags` can be read, and the environment is the one of the desktop with real
proving.  These are the files after the first `--gate`, `--input` and
`--account-snapshot` of a `prove`, and after the first `--proof`, `--challenge` and
`--presenter-key` of a `present`.  Other commands are launched without a look at files. -/
def Launch.From (Q : QtText) (self : Launch) : BackendEvent → Prop
  | .start desktop _ arguments _ =>
    self.arguments = arguments ∧ arguments ≠ [] ∧ desktop.runs self.program = true ∧
      (∀ flag ∈ requiredFlags arguments, ∀ path, flagPath? Q arguments flag = some path →
        desktop.isFile path = true ∧ desktop.isReadable path = true) ∧
      self.environment = realProvingEnvironment desktop.systemEnvironment
  | _ => False

theorem validateRequiredInputs_eq_none_iff {Q : QtText} {desktop : Desktop}
    {arguments : List String} :
    validateRequiredInputs Q desktop arguments = none ↔
      ∀ flag ∈ requiredFlags arguments, ∀ path, flagPath? Q arguments flag = some path →
        desktop.isFile path = true ∧ desktop.isReadable path = true := by
  simp [validateRequiredInputs, List.findSome?_eq_none_iff]

/-- Real proving is on in every launched process. -/
theorem Launch.From.devModeStatus {Q : QtText} {launch : Launch} {event : BackendEvent}
    (h : launch.From Q event) : devModeStatus launch.devMode = .ok .disabled := by
  cases event with
  | start desktop operation arguments startup =>
    have hmode : launch.devMode = .value "0" := by
      simp [Launch.devMode, h.2.2.2.2, realProvingEnvironment]
    rw [hmode]
    decide
  | _ => exact h.elim

section

variable {Q : QtText} {s : ProofgateBackend} {desktop : Desktop} {operation : String}
  {arguments : List String} {startup : Startup}

theorem launchFor?_from {binary : String} {launch : Launch}
    (h : launchFor? Q desktop binary arguments = some launch) :
    launch.From Q (.start desktop operation arguments startup) := by
  unfold launchFor? at h
  split at h
  · rename_i hruns
    obtain rfl := Option.some.inj h
    exact ⟨rfl, hruns.1, hruns.2.1, validateRequiredInputs_eq_none_iff.mp hruns.2.2, rfl⟩
  · cases h

/-- The launches, the terminations, the timers and the kills. -/
def ProofgateBackend.ledger (s : ProofgateBackend) :
    List Launch × List Nat × List Nat × List (Nat × Nat) :=
  (s.launches, s.terminated, s.timers, s.killed)

@[simp] theorem ProofgateBackend.failToStart_ledger (message : String) :
    (s.failToStart message).ledger = s.ledger := by
  unfold ProofgateBackend.failToStart
  split <;> rfl

/-- A process is launched where there is none. -/
theorem ProofgateBackend.startProcess_ledger (launch : Launch) :
    (s.startProcess launch startup).2.ledger =
      if s.processState = .notRunning then
        (s.launches ++ [launch], s.terminated, s.timers, s.killed)
      else s.ledger := by
  unfold ProofgateBackend.startProcess
  cases hstate : s.processState <;> cases startup <;>
    simp [hstate] <;> rfl

/-- `start` launches at most one process. -/
theorem ProofgateBackend.start_ledger (s : ProofgateBackend) :
    (∃ launch : Launch, launch.From Q (.start desktop operation arguments startup) ∧
        (s.start Q desktop operation arguments startup).2.ledger =
          (s.launches ++ [launch], s.terminated, s.timers, s.killed)) ∨
      (s.start Q desktop operation arguments startup).2.ledger = s.ledger := by
  cases hbusy : s.busy with
  | true =>
    rw [ProofgateBackend.start_of_busy hbusy]
    exact Or.inr rfl
  | false =>
    rcases ProofgateBackend.start_of_idle (Q := Q) hbusy desktop operation arguments startup with
      ⟨launch, hlaunch, hstart⟩ | ⟨-, output, error, code, hstart⟩
    · rw [hstart, ProofgateBackend.startProcess_ledger]
      split
      · exact Or.inl ⟨launch, launchFor?_from hlaunch, rfl⟩
      · exact Or.inr rfl
    · rw [hstart]
      exact Or.inr rfl

/-- What one event adds to the ledger: a launch, a termination with its timer, the end
of a timer, or nothing. -/
theorem ProofgateBackend.handle_ledger (s : ProofgateBackend) (event : BackendEvent) :
    (∃ launch : Launch, launch.From Q event ∧ (s.handle Q event).2.ledger =
        (s.launches ++ [launch], s.terminated, s.timers, s.killed)) ∨
      (s.handle Q event).2.ledger =
        (s.launches, s.terminated ++ [s.launches.length], s.timers ++ [s.launches.length],
          s.killed) ∨
      (∃ timer timers killed, s.timers = timer :: timers ∧
        (killed = s.killed ∨ killed = s.killed ++ [(timer, s.launches.length)]) ∧
        (s.handle Q event).2.ledger = (s.launches, s.terminated, timers, killed)) ∨
      (s.handle Q event).2.ledger = s.ledger := by
  cases event with
  | configure desktop path =>
    simp only [ProofgateBackend.handle, ProofgateBackend.configureProofgateBinary]
    split
    · exact Or.inr (Or.inr (Or.inr rfl))
    · split <;> exact Or.inr (Or.inr (Or.inr rfl))
  | start desktop operation arguments startup =>
    rcases s.start_ledger with hlaunched | hsame
    · exact Or.inl hlaunched
    · exact Or.inr (Or.inr (Or.inr hsame))
  | cancel =>
    simp only [ProofgateBackend.handle, ProofgateBackend.cancel]
    split
    · exact Or.inr (Or.inr (Or.inr rfl))
    · exact Or.inr (Or.inl rfl)
  | graceElapsed =>
    simp only [ProofgateBackend.handle, ProofgateBackend.graceElapsed]
    split
    · exact Or.inr (Or.inr (Or.inr rfl))
    · rename_i timer timers htimers
      split
      · exact Or.inr (Or.inr (Or.inl ⟨timer, timers, _, htimers, Or.inl rfl, rfl⟩))
      · exact Or.inr (Or.inr (Or.inl ⟨timer, timers, _, htimers, Or.inr rfl, rfl⟩))
  | started | wrote | readyRead | exited =>
    refine Or.inr (Or.inr (Or.inr ?_))
    simp only [ProofgateBackend.handle]
    split <;> rfl
  | failedToStart message =>
    refine Or.inr (Or.inr (Or.inr ?_))
    simp only [ProofgateBackend.handle]
    split
    · exact ProofgateBackend.failToStart_ledger message
    · rfl

end

/-! ## Runs -/

/-- A call that launches a process while a timer of this number runs. -/
def Overlaps (calls : List (Call BackendEvent ProofgateBackend Empty Bool)) (timer : Nat) : Prop :=
  ∃ c ∈ calls, timer ∈ c.before.timers ∧ c.before.launches.length < c.after.launches.length

/-- What a run keeps of its launches and its kills. -/
structure KillLedger (Q : QtText) (calls : List (Call BackendEvent ProofgateBackend Empty Bool))
    (s : ProofgateBackend) : Prop where
  launches : ∀ launch ∈ s.launches, ∃ c ∈ calls, launch.From Q c.input
  timers : ∀ timer ∈ s.timers, timer ∈ s.terminated ∧ timer ≤ s.launches.length ∧
    (timer < s.launches.length → Overlaps calls timer)
  killed : ∀ kill ∈ s.killed, kill.1 ∈ s.terminated ∧ kill.1 ≤ kill.2 ∧
    kill.2 ≤ s.launches.length ∧ (kill.1 < kill.2 → Overlaps calls kill.1)

section

variable {Q : QtText} {calls : List (Call BackendEvent ProofgateBackend Empty Bool)}
  {s s' : ProofgateBackend}

theorem Overlaps.append {timer : Nat} (h : Overlaps calls timer)
    (c : Call BackendEvent ProofgateBackend Empty Bool) : Overlaps (calls ++ [c]) timer := by
  obtain ⟨c', hmem, hpending, hlaunched⟩ := h
  exact ⟨c', List.mem_append_left _ hmem, hpending, hlaunched⟩

theorem ProofgateBackend.ledger_eq_iff {launches : List Launch} {terminated timers : List Nat}
    {killed : List (Nat × Nat)} :
    s.ledger = (launches, terminated, timers, killed) ↔
      s.launches = launches ∧ s.terminated = terminated ∧ s.timers = timers ∧
        s.killed = killed := by
  simp [ProofgateBackend.ledger]

/-- One event keeps the ledger. -/
theorem KillLedger.append (h : KillLedger Q calls s) (event : BackendEvent) :
    KillLedger Q (calls ++ [Mutating.call (onEvent Q) event s]) (s.handle Q event).2 := by
  have hlaunches : ∀ launch ∈ s.launches,
      ∃ c ∈ calls ++ [Mutating.call (onEvent Q) event s], launch.From Q c.input := by
    intro launch hlaunch
    obtain ⟨c, hmem, hfrom⟩ := h.launches launch hlaunch
    exact ⟨c, List.mem_append_left _ hmem, hfrom⟩
  have htimers : ∀ timer ∈ s.timers, timer ∈ s.terminated ∧ timer ≤ s.launches.length ∧
      (timer < s.launches.length →
        Overlaps (calls ++ [Mutating.call (onEvent Q) event s]) timer) := by
    intro timer htimer
    obtain ⟨hterminated, hle, hoverlaps⟩ := h.timers timer htimer
    exact ⟨hterminated, hle, fun hlt => (hoverlaps hlt).append _⟩
  have hkilled : ∀ kill ∈ s.killed, kill.1 ∈ s.terminated ∧ kill.1 ≤ kill.2 ∧
      kill.2 ≤ s.launches.length ∧ (kill.1 < kill.2 →
        Overlaps (calls ++ [Mutating.call (onEvent Q) event s]) kill.1) := by
    intro kill hkill
    obtain ⟨hterminated, hle, hnow, hoverlaps⟩ := h.killed kill hkill
    exact ⟨hterminated, hle, hnow, fun hlt => (hoverlaps hlt).append _⟩
  rcases ProofgateBackend.handle_ledger (Q := Q) s event with
    ⟨launch, hfrom, hledger⟩ | hledger | ⟨timer, timers, killed, hpending, hkill, hledger⟩ | hledger
  · -- a launch: every timer that runs now overlaps it
    obtain ⟨hl, ht, htm, hk⟩ := ProofgateBackend.ledger_eq_iff.mp hledger
    have hlength : (s.handle Q event).2.launches.length = s.launches.length + 1 := by
      rw [hl, List.length_append, List.length_singleton]
    refine ⟨?_, ?_, ?_⟩
    · intro launch' hlaunch'
      rw [hl] at hlaunch'
      rcases List.mem_append.mp hlaunch' with hold | hnew
      · exact hlaunches launch' hold
      · rw [List.mem_singleton.mp hnew]
        exact ⟨_, List.mem_append_right _ List.mem_cons_self, hfrom⟩
    · intro timer htimer
      rw [htm] at htimer
      obtain ⟨hterminated, hle, -⟩ := htimers timer htimer
      rw [ht, hlength]
      refine ⟨hterminated, by omega, fun _ => ?_⟩
      exact ⟨_, List.mem_append_right _ List.mem_cons_self, htimer,
        show s.launches.length < (s.handle Q event).2.launches.length by omega⟩
    · intro kill hkill
      rw [hk] at hkill
      obtain ⟨hterminated, hle, hnow, hoverlaps⟩ := hkilled kill hkill
      rw [ht, hlength]
      exact ⟨hterminated, hle, by omega, hoverlaps⟩
  · -- a termination: its timer has the number of the last launch
    obtain ⟨hl, ht, htm, hk⟩ := ProofgateBackend.ledger_eq_iff.mp hledger
    refine ⟨by rw [hl]; exact hlaunches, ?_, ?_⟩
    · intro timer htimer
      rw [htm] at htimer
      rw [hl, ht]
      rcases List.mem_append.mp htimer with hold | hnew
      · obtain ⟨hterminated, hle, hoverlaps⟩ := htimers timer hold
        exact ⟨List.mem_append_left _ hterminated, hle, hoverlaps⟩
      · rw [List.mem_singleton.mp hnew]
        exact ⟨List.mem_append_right _ List.mem_cons_self, Nat.le_refl _,
          fun hlt => absurd hlt (Nat.lt_irrefl _)⟩
    · intro kill hkill
      rw [hk] at hkill
      obtain ⟨hterminated, hle, hnow, hoverlaps⟩ := hkilled kill hkill
      rw [hl, ht]
      exact ⟨List.mem_append_left _ hterminated, hle, hnow, hoverlaps⟩
  · -- the end of a timer
    obtain ⟨hl, ht, htm, hk⟩ := ProofgateBackend.ledger_eq_iff.mp hledger
    rw [hpending] at htimers
    refine ⟨by rw [hl]; exact hlaunches, ?_, ?_⟩
    · intro timer' htimer'
      rw [htm] at htimer'
      rw [hl, ht]
      exact htimers timer' (List.mem_cons_of_mem _ htimer')
    · intro kill hmem
      rw [hk] at hmem
      rw [hl, ht]
      rcases hkill with rfl | rfl
      · exact hkilled kill hmem
      · rcases List.mem_append.mp hmem with hold | hnew
        · exact hkilled kill hold
        · rw [List.mem_singleton.mp hnew]
          obtain ⟨hterminated, hle, hoverlaps⟩ := htimers timer List.mem_cons_self
          exact ⟨hterminated, hle, Nat.le_refl _, hoverlaps⟩
  · obtain ⟨hl, ht, htm, hk⟩ := ProofgateBackend.ledger_eq_iff.mp hledger
    exact ⟨by rw [hl]; exact hlaunches, by rw [hl, ht, htm]; exact htimers,
      by rw [hl, ht, hk]; exact hkilled⟩

/-- Every run keeps the ledger. -/
theorem killLedger_run (Q : QtText) (desktop : Desktop) (stored : String)
    (events : List BackendEvent) :
    KillLedger Q (Mutating.run (onEvent Q) events (.create desktop stored))
      (Mutating.final (onEvent Q) events (.create desktop stored)) := by
  refine Mutating.run_induction (onEvent Q) ?_ ?_ events
  · exact ⟨by simp [ProofgateBackend.create], by simp [ProofgateBackend.create],
      by simp [ProofgateBackend.create]⟩
  · intro calls s event h
    exact h.append event

/-- The operations of a run without timeouts. -/
theorem ProofgateBackend.Shows.final {a : OneAtATime} (h : s.Shows Q a) {events : List BackendEvent}
    (hevents : ∀ event ∈ events, ¬ event.TimesOut) :
    (Mutating.final (onEvent Q) events s).Shows Q (events.foldl (fun a e => a.next Q e) a) := by
  induction events generalizing s a with
  | nil => exact h
  | cons event rest ih =>
    have hrest : ∀ event ∈ rest, ¬ event.TimesOut := fun e he =>
      hevents e (List.mem_cons_of_mem _ he)
    exact ih (h.handle (hevents event List.mem_cons_self)) hrest

theorem ProofgateBackend.shows_create (Q : QtText) (desktop : Desktop) (stored : String) :
    (ProofgateBackend.create desktop stored).Shows Q
      ⟨(ProofgateBackend.create desktop stored).proofgateBinary, none, []⟩ := by
  refine ⟨rfl, rfl, rfl, rfl, ?_, ?_, rfl, rfl⟩
  · intro op hop
    cases hop
  · intro op hop
    cases hop

/-- `start` returns true exactly when it has made an idle backend busy. -/
theorem ProofgateBackend.Shows.start_result {a : OneAtATime} (h : s.Shows Q a) {desktop : Desktop}
    {operation : String} {arguments : List String} {startup : Startup}
    (hstartup : ¬ (BackendEvent.start desktop operation arguments startup).TimesOut) :
    (s.start Q desktop operation arguments startup).1 = true ↔
      s.busy = false ∧ (s.start Q desktop operation arguments startup).2.busy = true := by
  cases hcurrent : a.current with
  | some op =>
    have hbusy := (h.running hcurrent).1
    rw [ProofgateBackend.start_of_busy hbusy]
    simp [hbusy]
  | none =>
    obtain ⟨hbusy, hstate, -⟩ := h.idle hcurrent
    rcases ProofgateBackend.start_of_idle (Q := Q) hbusy desktop operation arguments startup with
      ⟨launch, -, hstart⟩ | ⟨-, output, error, code, hstart⟩
    · have hnone : (s.begin Q operation).processState = .notRunning := hstate
      rw [hstart]
      cases startup with
      | started =>
        rw [ProofgateBackend.startProcess_started hnone]
        exact iff_of_true rfl ⟨hbusy, rfl⟩
      | failed message =>
        rw [ProofgateBackend.startProcess_failed hnone, ProofgateBackend.failToStart_of_busy rfl]
        exact iff_of_false Bool.false_ne_true fun hboth => Bool.false_ne_true hboth.2
      | timedOut message => exact absurd trivial hstartup
    · rw [hstart]
      simp [ProofgateBackend.withTexts, hbusy]

end

/-- The backend runs one operation at a time.  In every run of events in which no start
runs into its timeout, it shows at every moment the operations of `OneAtATime`: each
accepted start is one process, each process that has ended was reported once, in order
and with exactly its own output, and the backend is busy exactly while a process runs.
`start` returns true exactly when it has started one. -/
theorem backend_runs_one_at_a_time (Q : QtText) (desktop : Desktop) (stored : String)
    {events : List BackendEvent} (hevents : ∀ event ∈ events, ¬ event.TimesOut) :
    let start := ProofgateBackend.create desktop stored
    let s := Mutating.final (onEvent Q) events start
    s.Shows Q (events.foldl (fun a e => a.next Q e) ⟨start.proofgateBinary, none, []⟩) ∧
      s.launches.length = s.finished.length + s.busy.toNat ∧
      ∀ c ∈ Mutating.run (onEvent Q) events start,
        ∀ desktop' operation arguments startup,
          c.input = .start desktop' operation arguments startup →
          (c.result = .ok true ↔ c.before.busy = false ∧ c.after.busy = true) := by
  intro start s
  have hstart := ProofgateBackend.shows_create Q desktop stored
  have hshows : s.Shows Q _ := hstart.final hevents
  refine ⟨hshows, ?_, ?_⟩
  · rw [hshows.launches, hshows.finished, hshows.busy]
    simp only [OneAtATime.operations, List.length_map, List.length_append]
    cases (events.foldl (fun a e => OneAtATime.next Q a e)
      ⟨start.proofgateBinary, none, []⟩).current <;> rfl
  · intro c hc desktop' operation arguments startup hinput
    obtain ⟨pre, post, hsplit, hcall⟩ := Mutating.mem_run (onEvent Q) hc
    have hpre : ∀ event ∈ pre, ¬ event.TimesOut := by
      intro event hevent
      apply hevents
      rw [hsplit]
      exact List.mem_append_left _ hevent
    have htimely := hevents c.input (by rw [hsplit]; simp)
    rw [hinput] at hcall htimely
    rw [hcall]
    have hresult := (hstart.final hpre).start_result htimely
    simp only [Mutating.call, onEvent, ProofgateBackend.handle, Outcome.ok.injEq]
    exact hresult

/-- Texts of bytes below 128, without blanks around them. -/
def plainQtText : QtText where
  trimmed text := text
  fromUtf8 bytes := String.ofList (bytes.map fun byte => Char.ofNat byte.toNat)
  homePath := "/home/alice"

/-- A desktop with the binary and one gate file, where proving is not real. -/
def aliceDesktop : Desktop where
  findExecutable name := if name = "proofgate" then "/usr/bin/proofgate" else ""
  isExecutable path := path = "/usr/bin/proofgate"
  isFile path := path = "/home/alice/gate.json"
  isReadable _ := true
  systemEnvironment name := if name = "RISC0_DEV_MODE" then some "1" else none

/-- A second start and a cancel while a proof is made, which ends in time. -/
def proveEvents : List BackendEvent :=
  [.start aliceDesktop "Prove" ["prove", "--gate", "~/gate.json"] .started, .wrote [111] [],
    .readyRead, .start aliceDesktop "Again" ["prove"] .started, .cancel, .wrote [107] [33],
    .exited 0 .normalExit, .graceElapsed]

theorem backend_runs_one_at_a_time_alice :
    (Mutating.final (onEvent plainQtText) proveEvents (.create aliceDesktop "")).finished =
        [⟨true, 0, "ok", "!"⟩] ∧
      (Mutating.final (onEvent plainQtText) proveEvents (.create aliceDesktop "")).busy =
        false := by
  have hevents : ∀ event ∈ proveEvents, ¬ event.TimesOut := by
    simp [proveEvents, BackendEvent.TimesOut]
  have hshows := (backend_runs_one_at_a_time plainQtText aliceDesktop "" hevents).1
  exact ⟨hshows.finished.trans (by decide), hshows.busy.trans (by decide)⟩

/-- Launches and kills.  In every run of events, also with timeouts, each launched process
has real proving on and a program that can be run, and it was asked for by a `start`.  If it
is a `prove` or a `present`, the files of its `requiredFlags` could be read.  Each kill
follows a cancel.  It hits the operation that was cancelled, unless a process was launched
while the timer of the cancel was running. -/
theorem launches_and_kills (Q : QtText) (desktop : Desktop) (stored : String)
    (events : List BackendEvent) :
    let run := Mutating.run (onEvent Q) events (.create desktop stored)
    let s := Mutating.final (onEvent Q) events (.create desktop stored)
    (∀ launch ∈ s.launches, devModeStatus launch.devMode = .ok .disabled ∧
        ∃ event ∈ events, launch.From Q event) ∧
      (∀ kill ∈ s.killed, kill.1 ∈ s.terminated ∧ kill.1 ≤ kill.2 ∧ kill.2 ≤ s.launches.length ∧
        (kill.1 ≠ kill.2 → Overlaps run kill.1)) ∧
      ∀ c ∈ run, c.input = .graceElapsed → ∀ timer timers, c.before.timers = timer :: timers →
        c.after.killed = c.before.killed ++
          if c.before.processState = .notRunning then [] else
            [(timer, c.before.launches.length)] := by
  intro run s
  have hledger : KillLedger Q run s := killLedger_run Q desktop stored events
  refine ⟨?_, ?_, ?_⟩
  · intro launch hlaunch
    obtain ⟨c, hc, hfrom⟩ := hledger.launches launch hlaunch
    refine ⟨hfrom.devModeStatus, c.input, ?_, hfrom⟩
    rw [← Mutating.run_inputs (onEvent Q) events (.create desktop stored)]
    exact List.mem_map_of_mem hc
  · intro kill hkill
    obtain ⟨hterminated, hle, hnow, hoverlaps⟩ := hledger.killed kill hkill
    exact ⟨hterminated, hle, hnow, fun hne => hoverlaps (Nat.lt_of_le_of_ne hle hne)⟩
  · intro c hc hinput timer timers htimers
    obtain ⟨pre, post, -, hcall⟩ := Mutating.mem_run (onEvent Q) hc
    rw [hinput] at hcall
    rw [hcall] at htimers ⊢
    have hpending : (Mutating.final (onEvent Q) pre (.create desktop stored)).timers =
        timer :: timers := htimers
    simp only [Mutating.call, onEvent, ProofgateBackend.handle, ProofgateBackend.graceElapsed,
      hpending]
    split <;> simp

end TokenStudio
