import DisplayPowerMgr.ServiceRequests
import DisplayPowerMgr.SetBrightnessCommand

/-! `ohos-displayManager` from its arguments to the service and back: the dispatch of the command,
the call of the client, and what the exit code tells. -/
namespace DisplayPowerMgr

open SetBrightnessCommand

inductive ToolOutput where
  | lines (text : List String)
  | document (response : CJson)

structure ToolRun where
  calls : List SetBrightnessCall
  output : ToolOutput
  exitCode : ℤ

def CommandRun.toolRun (run : CommandRun) : ToolRun where
  calls := run.calls
  output := .document run.response
  exitCode := run.exitCode

namespace DispatchCommand

def printHelp (prog : String) : ToolRun where
  calls := []
  output := .lines [
    prog ++ " - Display brightness management CLI tool for adjusting screen brightness",
    "",
    "Usage:",
    "  " ++ prog ++ " <command> [options]",
    "",
    "Parameters:",
    "  --help                  Display this help message",
    "",
    "Commands:",
    "  set-brightness          Set display screen brightness"]
  exitCode := 0

def printSubCommandHelp (prog : String) : ToolRun where
  calls := []
  output := .lines [
    prog ++ " set-brightness - Set the brightness of a display device",
    "",
    "Usage:",
    "  " ++ prog ++ " set-brightness --value <brightness> [--continuous]",
    "",
    "Parameters:",
    "  --value <brightness>    Brightness value (required, range: 0-255)",
    "  --continuous            Continuous adjustment mode (optional, default: false)",
    "  --help                  Display this help message"]
  exitCode := 0

def commands (model : DataModel) (client : SetBrightnessCall → Except DisplayErrors Unit) :
    List (String × (List String → CommandRun)) :=
  [("set-brightness", cmdSetBrightness model client)]

def dispatchHelp (prog : String) : List String → ToolRun
  | [] => printHelp prog
  | arg :: _ =>
    (outputError [] "ERR_UNKNOWN_ARG" ("Unexpected argument after --help: " ++ arg ++
      ". '--help' does not accept additional arguments." ++
      " Usage: ohos-displayManager --help")).toolRun

def dispatchTo (handler : List String → CommandRun) (prog cmdName : String) (argv : List String) :
    ToolRun :=
  if argv.contains "--help" then
    if argv.length > 1 then
      (outputError [] "ERR_UNKNOWN_ARG" ("Unexpected arguments with --help." ++
        " '--help' does not accept additional arguments." ++
        " Usage: ohos-displayManager " ++ cmdName ++ " --help")).toolRun
    else printSubCommandHelp prog
  else (handler argv).toolRun

def dispatchCommand (model : DataModel) (client : SetBrightnessCall → Except DisplayErrors Unit) :
    List String → ToolRun
  | [] => (outputError [] "ERR_NO_COMMAND" "No command specified").toolRun
  | [_] => (outputError [] "ERR_NO_COMMAND" "No command specified").toolRun
  | prog :: cmdName :: argv =>
    if cmdName = "--help" then dispatchHelp prog argv
    else
      match (commands model client).lookup cmdName with
      | none =>
        (outputError [] "ERR_UNKNOWN_COMMAND" ("Unknown command: " ++ cmdName ++
          ". Use '--help' to see available commands.")).toolRun
      | some handler => dispatchTo handler prog cmdName argv

/-- How far a call of the client gets: there is no service to connect to, the transport fails, or
the service answers. -/
inductive ServiceLink where
  | noProxy | lost | connected
  deriving DecidableEq, Repr

/-- `DisplayPowerMgrService::SetBrightness` with the error it reports. -/
def reportBrightness (s : DisplayManager) (isSystem : Bool) (call : SetBrightnessCall) :
    DisplayManager × Bool × DisplayErrors :=
  let (s, result) :=
    s.request isSystem (.setBrightness call.value call.displayId call.continuous)
  let (s, displayError) := s.getError
  (s, result, displayError)

def answerOf (result : Bool) (displayError : DisplayErrors) : Except DisplayErrors Unit :=
  if result then .ok () else .error displayError

/-- The call of a client that has not called before, and whose `GetError` follows a failure. A call
that is lost leaves the error that the client starts with. -/
def clientSetBrightness (link : ServiceLink) (isSystem : Bool) (s : DisplayManager)
    (call : SetBrightnessCall) : DisplayManager × Except DisplayErrors Unit :=
  match link with
  | .noProxy => (s, .error .connectionFail)
  | .lost => (s, .error .ok)
  | .connected =>
    let (s, result, displayError) := reportBrightness s isSystem call
    (s, answerOf result displayError)

/-- The tool, as the process that `main` is: its calls reach the service one after the other. -/
def runTool (model : DataModel) (link : ServiceLink) (isSystem : Bool) (s : DisplayManager)
    (argv : List String) : DisplayManager × ToolRun :=
  let run := dispatchCommand model (fun call => (clientSetBrightness link isSystem s call).2) argv
  (run.calls.foldl (fun s call => (clientSetBrightness link isSystem s call).1) s, run)

variable {model : DataModel} {link : ServiceLink} {isSystem : Bool} {s : DisplayManager}
  {client : SetBrightnessCall → Except DisplayErrors Unit} {argv : List String}

/-- The help alone, of the tool or of its command. -/
def AsksForHelp (argv : List String) : Prop :=
  ∃ prog, argv = [prog, "--help"] ∨ argv = [prog, "set-brightness", "--help"]

/-- The command with arguments that it accepts, and no `--help` among them. -/
def AsksFor (model : DataModel) (argv : List String) (level : ℕ) (continuous : Bool) : Prop :=
  ∃ prog args text, argv = prog :: "set-brightness" :: args ∧ "--help" ∉ args ∧
    Accepts model args text continuous ∧ readValue model text = level ∧
    level ≤ BRIGHTNESS_MAX_VALUE

def IsRejected (run : ToolRun) : Prop :=
  ∃ code message, run = (outputError [] code message).toolRun

theorem dispatch_help (h : AsksForHelp argv) :
    (dispatchCommand model client argv).exitCode = 0 ∧
      (dispatchCommand model client argv).calls = [] := by
  rcases h with ⟨prog, rfl | rfl⟩
  · exact ⟨rfl, rfl⟩
  · exact ⟨rfl, rfl⟩

theorem dispatch_setBrightness (prog : String) (args : List String) :
    dispatchCommand model client (prog :: "set-brightness" :: args) =
      dispatchTo (cmdSetBrightness model client) prog "set-brightness" args := by
  rw [dispatchCommand, if_neg (by decide)]
  rfl

theorem dispatch_command (prog : String) {args : List String} (h : "--help" ∉ args) :
    dispatchCommand model client (prog :: "set-brightness" :: args) =
      (cmdSetBrightness model client args).toolRun := by
  rw [dispatch_setBrightness, dispatchTo, if_neg (by simpa using h)]

theorem dispatch_cases (model : DataModel) (client : SetBrightnessCall → Except DisplayErrors Unit)
    (argv : List String) :
    AsksForHelp argv ∨
      (∃ prog args, argv = prog :: "set-brightness" :: args ∧ "--help" ∉ args) ∨
      IsRejected (dispatchCommand model client argv) := by
  rcases argv with _ | ⟨prog, _ | ⟨cmdName, args⟩⟩
  · exact .inr (.inr ⟨_, _, rfl⟩)
  · exact .inr (.inr ⟨_, _, rfl⟩)
  · by_cases hhelp : cmdName = "--help"
    · subst hhelp
      cases args with
      | nil => exact .inl ⟨prog, .inl rfl⟩
      | cons arg args => exact .inr (.inr ⟨_, _, rfl⟩)
    · by_cases hname : cmdName = "set-brightness"
      · subst hname
        by_cases hmem : "--help" ∈ args
        · rw [dispatch_setBrightness, dispatchTo, if_pos (by simpa using hmem)]
          split
          · exact .inr (.inr ⟨_, _, rfl⟩)
          · rename_i hshort
            have hpos := List.length_pos_of_mem hmem
            obtain ⟨arg, rfl⟩ := List.length_eq_one_iff.mp (show args.length = 1 by omega)
            obtain rfl := List.mem_singleton.mp hmem
            exact .inl ⟨prog, .inr rfl⟩
        · exact .inr (.inl ⟨prog, args, rfl, hmem⟩)
      · have hlookup : (commands model client).lookup cmdName = none :=
          List.lookup_eq_none_iff.mpr (by simpa [commands] using hname)
        rw [dispatchCommand, if_neg hhelp, hlookup]
        exact .inr (.inr ⟨_, _, rfl⟩)

/-- The command on accepted arguments asks the client once, exits with what it answers and prints
its error. -/
theorem cmdSetBrightness_accepted {args : List String} {text : String} {continuous : Bool}
    (h : Accepts model args text continuous)
    (hlevel : readValue model text ≤ BRIGHTNESS_MAX_VALUE) :
    (cmdSetBrightness model client args).calls = [⟨readValue model text, 0, continuous⟩] ∧
      ((cmdSetBrightness model client args).exitCode = 0 ↔
        client ⟨readValue model text, 0, continuous⟩ = .ok ()) ∧
      ∀ err, client ⟨readValue model text, 0, continuous⟩ = .error err →
        (cmdSetBrightness model client args).response =
          (outputError [] (clientError err).1 (clientError err).2).response := by
  have hsmall : ¬ (valueRead model text continuous).value > BRIGHTNESS_MAX_VALUE :=
    Nat.not_lt.mpr hlevel
  simp only [cmdSetBrightness, h.parse]
  rw [if_neg (by simp), if_neg (by simp [valueRead]), if_neg hsmall]
  dsimp only [valueRead]
  cases client ⟨readValue model text, 0, continuous⟩ with
  | error err =>
    refine ⟨rfl, iff_of_false (by simp [outputError]) (by simp), ?_⟩
    rintro _ ⟨⟩
    rfl
  | ok _ =>
    refine ⟨rfl, iff_of_true rfl rfl, ?_⟩
    intro err herr
    cases herr

theorem cmdSetBrightness_rejected {args : List String}
    (h : ∀ text continuous, Accepts model args text continuous →
      ¬ readValue model text ≤ BRIGHTNESS_MAX_VALUE) :
    ∃ code message, cmdSetBrightness model client args = outputError [] code message := by
  refine (cmdSetBrightness_cases model client args).resolve_left ?_
  rintro ⟨hunknown, hvalue, hlevel, _⟩
  obtain ⟨text, continuous, haccepts, hread, _⟩ := accepts_of_parse hunknown hvalue
  exact h text continuous haccepts (hread ▸ hlevel)

/-- The arguments ask for help or for a level, or they end with an error and reach nobody. -/
theorem dispatch_outcome (model : DataModel)
    (client : SetBrightnessCall → Except DisplayErrors Unit) (argv : List String) :
    AsksForHelp argv ∨ (∃ level continuous, AsksFor model argv level continuous) ∨
      IsRejected (dispatchCommand model client argv) := by
  rcases dispatch_cases model client argv with h | ⟨prog, args, rfl, hno⟩ | h
  · exact .inl h
  · by_cases hasks : ∃ text continuous, Accepts model args text continuous ∧
        readValue model text ≤ BRIGHTNESS_MAX_VALUE
    · obtain ⟨text, continuous, haccepts, hlevel⟩ := hasks
      exact .inr (.inl ⟨_, continuous, prog, args, text, rfl, hno, haccepts, rfl, hlevel⟩)
    · obtain ⟨code, message, heq⟩ := @cmdSetBrightness_rejected model client args
        fun text continuous haccepts hlevel => hasks ⟨text, continuous, haccepts, hlevel⟩
      rw [dispatch_command prog hno]
      exact .inr (.inr ⟨code, message, congrArg CommandRun.toolRun heq⟩)
  · exact .inr (.inr h)

theorem dispatch_accepted {level : ℕ} {continuous : Bool}
    (h : AsksFor model argv level continuous) :
    (dispatchCommand model client argv).calls = [⟨level, 0, continuous⟩] ∧
      ((dispatchCommand model client argv).exitCode = 0 ↔
        client ⟨level, 0, continuous⟩ = .ok ()) ∧
      ∀ err, client ⟨level, 0, continuous⟩ = .error err →
        (dispatchCommand model client argv).output =
          .document (outputError [] (clientError err).1 (clientError err).2).response := by
  obtain ⟨prog, args, text, rfl, hno, haccepts, rfl, hlevel⟩ := h
  obtain ⟨hcalls, hexit, herror⟩ :=
    cmdSetBrightness_accepted haccepts hlevel
  rw [dispatch_command prog hno]
  exact ⟨hcalls, hexit, fun err h => congrArg ToolOutput.document (herror err h)⟩

theorem answerOf_ok_iff (result : Bool) (displayError : DisplayErrors) :
    answerOf result displayError = .ok () ↔ result = true := by
  cases result with
  | false => simp [answerOf]
  | true => simp [answerOf]

theorem clientSetBrightness_ok_iff (call : SetBrightnessCall) :
    (clientSetBrightness link isSystem s call).2 = .ok () ↔
      link = .connected ∧ (s.request isSystem
        (.setBrightness call.value call.displayId call.continuous)).2 = true := by
  cases link with
  | noProxy => simp [clientSetBrightness]
  | lost => simp [clientSetBrightness]
  | connected =>
    rw [and_iff_right rfl]
    exact answerOf_ok_iff _ _

theorem clientSetBrightness_unreached (h : link ≠ .connected) (call : SetBrightnessCall) :
    (clientSetBrightness link isSystem s call).1 = s := by
  cases link with
  | noProxy => rfl
  | lost => rfl
  | connected => exact absurd rfl h

/-- The exit code tells whether the tool did what it was asked for, and the service goes through
the one request that the arguments ask for or is not touched at all. -/
theorem exit_code_tells (model : DataModel) (link : ServiceLink) (isSystem : Bool)
    (s : DisplayManager) (argv : List String) :
    ((runTool model link isSystem s argv).2.exitCode = 0 ↔
      AsksForHelp argv ∨ ∃ level continuous, AsksFor model argv level continuous ∧
        link = .connected ∧
        (s.request isSystem (.setBrightness level 0 continuous)).2 = true) ∧
    (∀ level continuous, AsksFor model argv level continuous → link = .connected →
      (runTool model link isSystem s argv).1 =
        (s.request isSystem (.setBrightness level 0 continuous)).1.getError.1) ∧
    ((∀ level continuous, AsksFor model argv level continuous → link ≠ .connected) →
      (runTool model link isSystem s argv).1 = s) := by
  have houtcome := dispatch_outcome model
    (fun call => (clientSetBrightness link isSystem s call).2) argv
  refine ⟨⟨?_, ?_⟩, ?_, ?_⟩
  · intro hexit
    rcases houtcome with hhelp | ⟨level, continuous, hasks⟩ | ⟨code, message, heq⟩
    · exact .inl hhelp
    · obtain ⟨hlink, hdone⟩ :=
        (clientSetBrightness_ok_iff _).mp ((dispatch_accepted hasks).2.1.mp hexit)
      exact .inr ⟨level, continuous, hasks, hlink, hdone⟩
    · rw [runTool, heq] at hexit
      cases hexit
  · rintro (hhelp | ⟨level, continuous, hasks, hlink, hdone⟩)
    · exact (dispatch_help hhelp).1
    · exact (dispatch_accepted hasks).2.1.mpr ((clientSetBrightness_ok_iff _).mpr ⟨hlink, hdone⟩)
  · rintro level continuous hasks rfl
    rw [runTool, (dispatch_accepted hasks).1]
    rfl
  · intro hnone
    rcases houtcome with hhelp | ⟨level, continuous, hasks⟩ | ⟨code, message, heq⟩
    · rw [runTool, (dispatch_help hhelp).2]
      rfl
    · rw [runTool, (dispatch_accepted hasks).1]
      exact clientSetBrightness_unreached (hnone level continuous hasks) _
    · rw [runTool, heq]
      rfl

/-- A tool that the service denies says so, one that it refuses repeats the error that stands in
the shared cell, whoever left it there. -/
theorem refusal_repeats_cell {level : ℕ} {continuous : Bool}
    (hasks : AsksFor model argv level continuous)
    (hrefused : (s.request isSystem (.setBrightness level 0 continuous)).2 = false) :
    (runTool model .connected isSystem s argv).2.output =
      let err := if isSystem then s.lastError else .systemApiDenied
      .document (outputError [] (clientError err).1 (clientError err).2).response := by
  have hanswer : (clientSetBrightness .connected isSystem s ⟨level, 0, continuous⟩).2 =
      answerOf (s.request isSystem (.setBrightness level 0 continuous)).2
        (s.request isSystem (.setBrightness level 0 continuous)).1.lastError := rfl
  have hcell : (s.request isSystem (.setBrightness level 0 continuous)).1.lastError =
      if isSystem then s.lastError else .systemApiDenied := by
    cases isSystem with
    | false => rfl
    | true => rfl
  rw [hrefused, hcell] at hanswer
  exact (dispatch_accepted hasks).2.2 _ hanswer

end DispatchCommand

end DisplayPowerMgr
