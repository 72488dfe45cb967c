import DisplayPowerMgr.ConfigParserBase
import DisplayPowerMgr.Library.Strtoul
import DisplayPowerMgr.MultiScreen

/-! `ohos-displayManager set-brightness`: the loop over the arguments, the checks, and the call of
the client. -/
namespace DisplayPowerMgr

open Strtoul

/-- The width of `unsigned long` on the system the tool is built for. -/
inductive DataModel where
  | ilp32 | lp64
  deriving DecidableEq, Repr

def DataModel.ULONG_MAX : DataModel → ℕ
  | .ilp32 => 2 ^ 32 - 1
  | .lp64 => 2 ^ 64 - 1

def DisplayErrors.code : DisplayErrors → ℤ
  | .ok => 0
  | .permissionDenied => 201
  | .systemApiDenied => 202
  | .paramInvalid => 401
  | .connectionFail => 4700101
  | .stateChangeFailed => 4700102
  | .registrationFailed => 4700103

structure SetBrightnessCall where
  value : ℕ
  displayId : ℕ
  continuous : Bool
  deriving DecidableEq, Repr

structure SetBrightnessArgs where
  hasValue : Bool := false
  hasContinuous : Bool := false
  value : ℕ := 0
  continuous : Bool := false
  unknownArg : String := ""
  deriving DecidableEq, Repr

/-- What a command does: its calls of the client, the document it prints, its exit code. -/
structure CommandRun where
  calls : List SetBrightnessCall
  response : CJson
  exitCode : ℤ

namespace SetBrightnessCommand

def BRIGHTNESS_MAX_VALUE : ℕ := 255

def UNKNOWN_ARG_HELP_SUFFIX : String :=
  ". Use 'ohos-displayManager set-brightness --help' for usage information."

def FALLBACK_SUGGESTION : String :=
  "Run 'ohos-displayManager --help' to see available commands and usage."

def outputSuccess (calls : List SetBrightnessCall) (data : CJson) : CommandRun where
  calls := calls
  response := .object [("type", .string "result"), ("status", .string "success"), ("data", data)]
  exitCode := 0

def outputError (calls : List SetBrightnessCall) (code message : String) : CommandRun where
  calls := calls
  response := .object [("type", .string "result"), ("status", .string "failed"),
    ("data", .string ""), ("errCode", .string code), ("errMsg", .string message),
    ("suggestion", .string FALLBACK_SUGGESTION)]
  exitCode := 1

/-- `strtoul`, narrowed to 32 bits. -/
def readValue (model : DataModel) (text : String) : ℕ :=
  (strtoul model.ULONG_MAX text.toList).1 % 2 ^ 32

/-- Where `strtoul` stopped. -/
def endPtr (model : DataModel) (text : String) : List Char :=
  (strtoul model.ULONG_MAX text.toList).2

def takeValue (model : DataModel) (args : SetBrightnessArgs) (text : String) :
    SetBrightnessArgs :=
  let args := { args with hasValue := true, value := readValue model text }
  if endPtr model text = text.toList ∨ endPtr model text ≠ [] then
    { args with unknownArg := text }
  else args

def takeContinuous (args : SetBrightnessArgs) : SetBrightnessArgs :=
  { args with hasContinuous := true, continuous := true }

/-- The loop from one argument on. A value that is no number is noted and the loop goes on; every
other fault ends it. The `--value` that ends the arguments has no value and is unknown. -/
def parseFrom (model : DataModel) (args : SetBrightnessArgs) : List String → SetBrightnessArgs
  | [] => args
  | "--value" :: text :: argv =>
    if args.hasValue then { args with unknownArg := "--value" }
    else parseFrom model (takeValue model args text) argv
  | "--continuous" :: argv =>
    if args.hasContinuous then { args with unknownArg := "--continuous" }
    else parseFrom model (takeContinuous args) argv
  | arg :: _ => { args with unknownArg := arg }

def parseSetBrightnessArgs (model : DataModel) (argv : List String) : SetBrightnessArgs :=
  parseFrom model {} argv

def clientError (err : DisplayErrors) : String × String :=
  match err with
  | .permissionDenied =>
    ("ERR_PERMISSION_DENIED",
      "Permission denied: system application identity is required to set brightness.")
  | .systemApiDenied =>
    ("ERR_SYSTEM_API_DENIED",
      "System API access denied: system-level permission is required.")
  | .paramInvalid =>
    ("ERR_ARG_INVALID", "Invalid parameter: brightness value is not valid. " ++
      "Please check the brightness value (0-255).")
  | .connectionFail =>
    ("ERR_INTERNAL_ERROR", "Failed to connect to display manager service." ++
      " Please check if the service is running and try again later.")
  | err =>
    ("ERR_INTERNAL_ERROR", "Set brightness failed with internal error code: " ++
      toString err.code ++ ". Please check system logs for details or try again later.")

/-- `client` is what the client answers to a call, with `GetError` when it failed. -/
def cmdSetBrightness (model : DataModel) (client : SetBrightnessCall → Except DisplayErrors Unit)
    (argv : List String) : CommandRun :=
  let args := parseSetBrightnessArgs model argv
  if args.unknownArg ≠ "" then
    outputError [] "ERR_UNKNOWN_ARG" ("Unknown or invalid argument: " ++ args.unknownArg ++
      ". Supported arguments: --value <brightness>, --continuous" ++ UNKNOWN_ARG_HELP_SUFFIX)
  else if !args.hasValue then
    outputError [] "ERR_ARG_MISSING"
      ("Missing required parameter: --value is required to specify brightness level." ++
        " Example: ohos-displayManager set-brightness --value 128")
  else if args.value > BRIGHTNESS_MAX_VALUE then
    outputError [] "ERR_ARG_OUT_OF_RANGE" ("Brightness value " ++ toString args.value ++
      " is out of range, must be between 0 and 255. Example: --value 128")
  else
    let call : SetBrightnessCall := ⟨args.value, 0, args.continuous⟩
    match client call with
    | .error err => outputError [call] (clientError err).1 (clientError err).2
    | .ok () => outputSuccess [call] (.object [("value", .number args.value),
        ("continuous", .bool args.continuous),
        ("message", .string "Brightness set successfully")])

/-- `--value text`, and `--continuous` at most once, in either order. -/
inductive ValueOnce : List String → String → Bool → Prop
  | alone (text : String) : ValueOnce ["--value", text] text false
  | before (text : String) : ValueOnce ["--value", text, "--continuous"] text true
  | after (text : String) : ValueOnce ["--continuous", "--value", text] text true

/-- The arguments that set `level`: the value is a decimal numeral of a number up to 255. -/
def Grammar (argv : List String) (level : ℕ) (continuous : Bool) : Prop :=
  ∃ text, ValueOnce argv text continuous ∧ Numeral text.toList ∧ number text.toList = level ∧
    level ≤ BRIGHTNESS_MAX_VALUE

/-- The command calls the client exactly for the grammar, with the number and the option, and
otherwise answers with an error and calls nothing. -/
structure FollowsGrammar (argv : List String) (run : CommandRun) : Prop where
  calls : ∀ level continuous, run.calls = [⟨level, 0, continuous⟩] ↔ Grammar argv level continuous
  rejects : (∀ level continuous, ¬ Grammar argv level continuous) →
    ∃ code message, run = outputError [] code message

/-- The arguments that slip through: behind a value whose lower 32 bits are a level there is an
empty argument, or there is nothing and `strtoul` read the value to its end although it is not a
numeral of a level. -/
def Slips (model : DataModel) (argv : List String) : Prop :=
  ∃ front text continuous back, ValueOnce front text continuous ∧ argv = front ++ back ∧
    readValue model text ≤ BRIGHTNESS_MAX_VALUE ∧
    ((∃ more, back = "" :: more) ∨
      back = [] ∧ endPtr model text = [] ∧
        ¬ (Numeral text.toList ∧ number text.toList ≤ BRIGHTNESS_MAX_VALUE))

variable {model : DataModel} {args last : SetBrightnessArgs} {argv back : List String}

/-- The options read one after the other, each at most once, and the arguments left behind them. -/
inductive Reads (model : DataModel) :
    SetBrightnessArgs → List String → SetBrightnessArgs → List String → Prop
  | done (args : SetBrightnessArgs) (argv : List String) : Reads model args argv args argv
  | value {args last : SetBrightnessArgs} {text : String} {argv back : List String} :
      args.hasValue = false → Reads model (takeValue model args text) argv last back →
        Reads model args ("--value" :: text :: argv) last back
  | continuous {args last : SetBrightnessArgs} {argv back : List String} :
      args.hasContinuous = false → Reads model (takeContinuous args) argv last back →
        Reads model args ("--continuous" :: argv) last back

theorem Reads.parse (h : Reads model args argv last back) :
    parseFrom model args argv = parseFrom model last back := by
  induction h with
  | done => rfl
  | value hfirst _ ih =>
    rw [parseFrom, if_neg (by simp [hfirst])]
    exact ih
  | continuous hfirst _ ih =>
    rw [parseFrom, if_neg (by simp [hfirst])]
    exact ih

theorem parseFrom_reads (model : DataModel) (args : SetBrightnessArgs) (argv : List String) :
    ∃ last back, Reads model args argv last back ∧
      (back = [] ∧ parseFrom model args argv = last ∨
        ∃ arg more, back = arg :: more ∧
          parseFrom model args argv = { last with unknownArg := arg }) := by
  induction args, argv using parseFrom.induct model with
  | case1 args => exact ⟨args, [], .done _ _, Or.inl ⟨rfl, by rw [parseFrom]⟩⟩
  | case2 args text argv htwice =>
    exact ⟨args, _, .done _ _, Or.inr ⟨_, _, rfl, by rw [parseFrom, if_pos htwice]⟩⟩
  | case3 args text argv hfirst ih =>
    obtain ⟨last, back, hreads, hend⟩ := ih
    refine ⟨last, back, .value (by simpa using hfirst) hreads, ?_⟩
    rwa [parseFrom, if_neg hfirst]
  | case4 args argv htwice =>
    exact ⟨args, _, .done _ _, Or.inr ⟨_, _, rfl, by rw [parseFrom, if_pos htwice]⟩⟩
  | case5 args argv hfirst ih =>
    obtain ⟨last, back, hreads, hend⟩ := ih
    refine ⟨last, back, .continuous (by simpa using hfirst) hreads, ?_⟩
    rwa [parseFrom, if_neg hfirst]
  | case6 args arg more hvalue hcontinuous =>
    refine ⟨args, _, .done _ _, Or.inr ⟨arg, more, rfl, ?_⟩⟩
    rw [parseFrom]
    · exact hvalue
    · exact hcontinuous

def valueRead (model : DataModel) (text : String) (continuous : Bool) : SetBrightnessArgs where
  hasValue := true
  hasContinuous := continuous
  value := readValue model text
  continuous := continuous
  unknownArg := if endPtr model text = [] then "" else text

theorem endPtr_empty : endPtr model "" = [] := by
  simp [endPtr, strtoul, sign]

theorem takeValue_start (text : String) : takeValue model {} text = valueRead model text false := by
  rw [takeValue, valueRead]
  by_cases hend : endPtr model text = []
  · rw [if_pos hend, hend]
    by_cases hempty : text = ""
    · subst hempty
      rfl
    · rw [if_neg]
      rintro (hnil | hmore)
      · exact hempty (String.toList_eq_nil_iff.mp hnil.symm)
      · exact hmore rfl
  · rw [if_neg hend, if_pos (Or.inr hend)]

theorem takeContinuous_takeValue (text : String) :
    takeContinuous (takeValue model {} text) = valueRead model text true := by
  rw [takeValue_start]
  rfl

theorem takeValue_takeContinuous (text : String) :
    takeValue model (takeContinuous {}) text = valueRead model text true := by
  rw [← takeContinuous_takeValue, takeValue, takeValue]
  split <;> rfl

/-- Reading that met a value went through one of the forms of the grammar. -/
theorem Reads.valueOnce (h : Reads model {} argv last back) (hvalue : last.hasValue = true) :
    ∃ front text continuous, ValueOnce front text continuous ∧ argv = front ++ back ∧
      last = valueRead model text continuous := by
  cases h with
  | done => cases hvalue
  | value _ h =>
    rw [takeValue_start] at h
    cases h with
    | done => exact ⟨_, _, _, .alone _, rfl, rfl⟩
    | value htwice _ => cases htwice
    | continuous _ h =>
      cases h with
      | done => exact ⟨_, _, _, .before _, rfl, rfl⟩
      | value htwice _ => cases htwice
      | continuous htwice _ => cases htwice
  | continuous _ h =>
    cases h with
    | done => cases hvalue
    | value _ h =>
      rw [takeValue_takeContinuous] at h
      cases h with
      | done => exact ⟨_, _, _, .after _, rfl, rfl⟩
      | value htwice _ => cases htwice
      | continuous htwice _ => cases htwice
    | continuous htwice _ => cases htwice

theorem ValueOnce.reads {front : List String} {text : String} {continuous : Bool}
    (h : ValueOnce front text continuous) (back : List String) :
    Reads model {} (front ++ back) (valueRead model text continuous) back := by
  cases h with
  | alone =>
    apply Reads.value rfl
    rw [takeValue_start]
    exact .done _ _
  | before =>
    apply Reads.value rfl
    rw [takeValue_start]
    exact .continuous rfl (.done _ _)
  | after =>
    apply Reads.continuous rfl
    apply Reads.value rfl
    rw [takeValue_takeContinuous]
    exact .done _ _

/-- The arguments in which no fault is noted: behind one of the forms of the grammar there is an
empty argument, or nothing and the value was read to its end. -/
def Accepts (model : DataModel) (argv : List String) (text : String) (continuous : Bool) : Prop :=
  ∃ front back, ValueOnce front text continuous ∧ argv = front ++ back ∧
    ((∃ more, back = "" :: more) ∨ back = [] ∧ endPtr model text = [])

theorem accepts_of_parse (hunknown : (parseSetBrightnessArgs model argv).unknownArg = "")
    (hvalue : (parseSetBrightnessArgs model argv).hasValue = true) :
    ∃ text continuous, Accepts model argv text continuous ∧
      (parseSetBrightnessArgs model argv).value = readValue model text ∧
      (parseSetBrightnessArgs model argv).continuous = continuous := by
  rw [parseSetBrightnessArgs] at hunknown hvalue ⊢
  obtain ⟨last, back, hreads, ⟨hback, hparse⟩ | ⟨arg, more, hback, hparse⟩⟩ :=
    parseFrom_reads model {} argv
  · rw [hparse] at hunknown hvalue ⊢
    obtain ⟨front, text, continuous, honce, hargv, rfl⟩ := hreads.valueOnce hvalue
    have hend : endPtr model text = [] := by
      by_contra hend
      simp only [valueRead, if_neg hend] at hunknown
      subst hunknown
      exact hend endPtr_empty
    exact ⟨text, continuous, ⟨front, back, honce, hargv, Or.inr ⟨hback, hend⟩⟩, rfl, rfl⟩
  · rw [hparse] at hunknown hvalue ⊢
    obtain ⟨front, text, continuous, honce, hargv, rfl⟩ := hreads.valueOnce hvalue
    obtain rfl : arg = "" := hunknown
    exact ⟨text, continuous, ⟨front, back, honce, hargv, Or.inl ⟨more, hback⟩⟩, rfl, rfl⟩

theorem Accepts.parse {text : String} {continuous : Bool}
    (h : Accepts model argv text continuous) :
    parseSetBrightnessArgs model argv =
      { valueRead model text continuous with unknownArg := "" } := by
  obtain ⟨front, back, honce, rfl, hend⟩ := h
  rw [parseSetBrightnessArgs, (honce.reads back).parse]
  rcases hend with ⟨more, rfl⟩ | ⟨rfl, hend⟩
  · rw [parseFrom] <;> simp
  · rw [parseFrom, valueRead, if_pos hend]

theorem cmdSetBrightness_cases (model : DataModel)
    (client : SetBrightnessCall → Except DisplayErrors Unit) (argv : List String) :
    ((parseSetBrightnessArgs model argv).unknownArg = "" ∧
        (parseSetBrightnessArgs model argv).hasValue = true ∧
        (parseSetBrightnessArgs model argv).value ≤ BRIGHTNESS_MAX_VALUE ∧
        (cmdSetBrightness model client argv).calls =
          [⟨(parseSetBrightnessArgs model argv).value, 0,
            (parseSetBrightnessArgs model argv).continuous⟩]) ∨
      ∃ code message, cmdSetBrightness model client argv = outputError [] code message := by
  simp only [cmdSetBrightness]
  generalize parseSetBrightnessArgs model argv = args
  by_cases hunknown : args.unknownArg = ""
  · rw [if_neg (not_not_intro hunknown)]
    cases hvalue : args.hasValue with
    | false => exact Or.inr ⟨_, _, rfl⟩
    | true =>
      rw [if_neg (by simp)]
      by_cases hlevel : args.value ≤ BRIGHTNESS_MAX_VALUE
      · rw [if_neg (by omega)]
        refine Or.inl ⟨hunknown, rfl, hlevel, ?_⟩
        split <;> rfl
      · rw [if_pos (by omega)]
        exact Or.inr ⟨_, _, rfl⟩
  · rw [if_pos hunknown]
    exact Or.inr ⟨_, _, rfl⟩

/-- The client is called for what is accepted and has a level for its value. -/
theorem calls_iff (model : DataModel) (client : SetBrightnessCall → Except DisplayErrors Unit)
    (argv : List String) (level : ℕ) (continuous : Bool) :
    (cmdSetBrightness model client argv).calls = [⟨level, 0, continuous⟩] ↔
      ∃ text, Accepts model argv text continuous ∧ readValue model text = level ∧
        level ≤ BRIGHTNESS_MAX_VALUE := by
  constructor
  · intro hcalls
    rcases cmdSetBrightness_cases model client argv with
      ⟨hunknown, hvalue, hlevel, hpassed⟩ | ⟨code, message, hfailed⟩
    · obtain ⟨text, continuous', haccepts, hread, hoption⟩ := accepts_of_parse hunknown hvalue
      rw [hcalls, hread, hoption] at hpassed
      obtain ⟨rfl, _, rfl⟩ := SetBrightnessCall.mk.inj (List.cons.inj hpassed).1
      exact ⟨text, haccepts, rfl, hread ▸ hlevel⟩
    · rw [hfailed] at hcalls
      cases hcalls
  · rintro ⟨text, haccepts, rfl, hlevel⟩
    have hparse := haccepts.parse
    simp only [cmdSetBrightness, hparse]
    have hsmall : ¬ (valueRead model text continuous).value > BRIGHTNESS_MAX_VALUE :=
      Nat.not_lt.mpr hlevel
    rw [if_neg (by simp), if_neg (by simp [valueRead]), if_neg hsmall]
    split <;> rfl

theorem ValueOnce.forms {text : String} {continuous : Bool} (h : ValueOnce argv text continuous) :
    argv = ["--value", text] ∨ argv = ["--value", text, "--continuous"] ∨
      argv = ["--continuous", "--value", text] := by
  cases h with
  | alone => exact Or.inl rfl
  | before => exact Or.inr (Or.inl rfl)
  | after => exact Or.inr (Or.inr rfl)

theorem ValueOnce.unique {text text' : String} {continuous continuous' : Bool}
    (h : ValueOnce argv text continuous) (h' : ValueOnce argv text' continuous') :
    text = text' := by
  rcases h.forms with rfl | rfl | rfl <;> rcases h'.forms with heq | heq | heq <;> simp_all

theorem ValueOnce.no_empty_behind {front more : List String} {text text' : String}
    {continuous continuous' : Bool} (h : ValueOnce front text continuous) :
    ¬ ValueOnce (front ++ "" :: more) text' continuous' := by
  intro h'
  rcases h.forms with rfl | rfl | rfl <;> rcases h'.forms with heq | heq | heq <;> simp at heq

theorem readValue_numeral (model : DataModel) {text : String} (hnumeral : Numeral text.toList)
    (hlevel : number text.toList ≤ BRIGHTNESS_MAX_VALUE) :
    readValue model text = number text.toList ∧ endPtr model text = [] := by
  have hsmall : number text.toList ≤ 255 := hlevel
  have hfits : number text.toList ≤ model.ULONG_MAX := by
    cases model
    all_goals
      simp only [DataModel.ULONG_MAX]
      omega
  rw [readValue, endPtr, strtoul_numeral hnumeral hfits]
  exact ⟨Nat.mod_eq_of_lt (by omega), rfl⟩

theorem Grammar.accepts {level : ℕ} {continuous : Bool} (h : Grammar argv level continuous) :
    ∃ text, Accepts model argv text continuous ∧ readValue model text = level ∧
      level ≤ BRIGHTNESS_MAX_VALUE := by
  obtain ⟨text, honce, hnumeral, rfl, hlevel⟩ := h
  obtain ⟨hread, hend⟩ := readValue_numeral model hnumeral hlevel
  exact ⟨text, ⟨argv, [], honce, (List.append_nil _).symm, Or.inr ⟨rfl, hend⟩⟩, hread, hlevel⟩

def AlwaysFollowsGrammar : Prop :=
  ∀ model client argv, FollowsGrammar argv (cmdSetBrightness model client argv)

/-- The command follows the grammar for all arguments but those that slip through. -/
theorem follows_grammar_iff (model : DataModel)
    (client : SetBrightnessCall → Except DisplayErrors Unit) (argv : List String) :
    FollowsGrammar argv (cmdSetBrightness model client argv) ↔ ¬ Slips model argv := by
  constructor
  · rintro hfollows ⟨front, text, continuous, back, honce, rfl, hlevel, hslip⟩
    have hends : (∃ more, back = "" :: more) ∨ back = [] ∧ endPtr model text = [] := by
      rcases hslip with hempty | ⟨hback, hend, _⟩
      · exact Or.inl hempty
      · exact Or.inr ⟨hback, hend⟩
    have hcalls := (calls_iff model client (front ++ back) (readValue model text) continuous).mpr
      ⟨text, ⟨front, back, honce, rfl, hends⟩, rfl, hlevel⟩
    obtain ⟨text', honce', hnumeral, hnumber, hlevel'⟩ := (hfollows.calls _ _).mp hcalls
    rcases hslip with ⟨more, rfl⟩ | ⟨rfl, _, hno⟩
    · exact honce.no_empty_behind honce'
    · rw [List.append_nil] at honce'
      obtain rfl := honce.unique honce'
      exact hno ⟨hnumeral, hnumber ▸ hlevel'⟩
  · intro hno
    have hgrammar (level : ℕ) (continuous : Bool)
        (hcalls : (cmdSetBrightness model client argv).calls = [⟨level, 0, continuous⟩]) :
        Grammar argv level continuous := by
      obtain ⟨text, ⟨front, back, honce, hargv, hends⟩, rfl, hlevel⟩ :=
        (calls_iff model client argv level continuous).mp hcalls
      rcases hends with hempty | ⟨rfl, hend⟩
      · exact absurd ⟨front, text, continuous, back, honce, hargv, hlevel, Or.inl hempty⟩ hno
      · by_cases hnumeral : Numeral text.toList ∧ number text.toList ≤ BRIGHTNESS_MAX_VALUE
        · rw [List.append_nil] at hargv
          exact ⟨text, hargv ▸ honce, hnumeral.1,
            (readValue_numeral model hnumeral.1 hnumeral.2).1.symm, hlevel⟩
        · exact absurd ⟨front, text, continuous, [], honce, hargv, hlevel,
            Or.inr ⟨rfl, hend, hnumeral⟩⟩ hno
    refine ⟨fun level continuous => ⟨hgrammar level continuous, ?_⟩, ?_⟩
    · intro h
      exact (calls_iff model client argv level continuous).mpr h.accepts
    · intro hnone
      rcases cmdSetBrightness_cases model client argv with ⟨_, _, _, hcalls⟩ | hfailed
      · exact absurd (hgrammar _ _ hcalls) (hnone _ _)
      · exact hfailed

/-- The narrowing cuts a number down to a level. -/
example : (cmdSetBrightness .lp64 (fun _ => .ok ()) ["--value", "4294967296"]).calls =
    [⟨0, 0, false⟩] := by
  decide

/-- A later empty argument takes back that a value was no number. -/
example : (cmdSetBrightness .ilp32 (fun _ => .ok ()) ["--value", "12abc", ""]).calls =
    [⟨12, 0, false⟩] := by
  decide

/-- An empty value sets the brightness to 0. -/
theorem empty_value_accepted : ¬ AlwaysFollowsGrammar := by
  intro h
  have hcalls : (cmdSetBrightness .lp64 (fun _ => .ok ()) ["--value", ""]).calls =
      [⟨0, 0, false⟩] := by decide
  obtain ⟨text, honce, hnumeral, _⟩ := ((h .lp64 _ ["--value", ""]).calls 0 false).mp hcalls
  obtain rfl : text = "" := honce.unique (.alone "")
  exact hnumeral.1 rfl

end SetBrightnessCommand

end DisplayPowerMgr
