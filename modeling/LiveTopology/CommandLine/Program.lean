import LiveTopology.CommandLine.EnvFile
import LiveTopology.CommandLine.Options
import LiveTopology.CommandLine.Session

/-!
This module contains the program from its first log line to its exit code, as far as it does not
depend on when things happen.
-/

namespace LiveTopology

inductive Failure where
  | settings (error : Settings.Error)
  /-- The lines of the console cannot be read. -/
  | input (reason : String)
  | feedLost
  deriving DecidableEq, Repr

namespace Failure

def message : Failure → String
  | .settings error => s!"invalid configuration: {error.message}"
  | .input reason => s!"stdin read failed: {reason}"
  | .feedLost => "event channel closed and reconnect is disabled"

def detail : Settings.Error → String
  | .parse name value =>
    "Parse \x7b var: " ++ Text.quote name ++ ", value: " ++ Text.quote value ++ " \x7d"
  | .url given => "InvalidUrl(" ++ Text.quote given ++ ")"
  | .zoom min max =>
    let write := fun x => Text.quote (Decimal.Layout.full.write x)
    "InvalidZoom \x7b min: " ++ write min ++ ", max: " ++ write max ++ " \x7d"
  | .delays d =>
    "InvalidBackoff \x7b initial: " ++ toString d.initial.toNat ++ ", max: "
      ++ toString d.max.toNat ++ " \x7d"

def report : Failure → String
  | .settings error => s!"Error: Config({detail error})"
  | .input _ => "Error: Stdin"
  | .feedLost => "Error: ChannelClosed"

end Failure

inductive Ending where
  | done
  | usage (usage : Options.Usage)
  | failed (failure : Failure)
  deriving DecidableEq, Repr

def Ending.code : Ending → Nat
  | .done | .usage .help => 0
  | .usage _ => 2
  | .failed _ => 1

def Outcome.ending : Outcome → Ending
  | .done => .done
  | .unreadable => .failed (.input "stream did not contain valid UTF-8")
  | .feedLost => .failed .feedLost

/-- What the program knows when it starts: its settings, and whether it may open the feed again. -/
structure Launch where
  settings : Settings
  noReconnect : Bool
  deriving DecidableEq, Repr

namespace Launch

def envFileLog (fault : Option EnvFile.Fault) : List Log.Record :=
  fault.toList.map fun fault => .warn "failed to load .env" [("error", fault.message)]

/--
Prepares the program. A file of variables stands in for those that the environment does not set.
-/
def prepare (args : List String) (environment : Settings.Lookup) (envFile : Option String)
    : List Log.Record × Except Ending Launch :=
  let (lookup, fault) :=
    match envFile with
    | none => (environment, none)
    | some text => EnvFile.load environment text
  (envFileLog fault,
    match Options.parse args with
    | .error usage => .error (.usage usage)
    | .ok options =>
      match options.settings lookup with
      | .error error => .error (.failed (.settings error))
      | .ok settings => .ok ⟨settings, options.noReconnect⟩)

variable {η : Type}

def start (l : Launch) (dice : Dice) : Session η × List (Effect η) :=
  let (view, effects) := View.activate l.settings .empty
  (.start view l.settings.delays dice l.noReconnect,
    .log (.info "starting topology view"
      [("url", l.settings.serverUrl), ("map", l.settings.map)]) :: effects)

def finish (s : Session η) : View η × List (Effect η) :=
  s.view.teardown

end Launch

end LiveTopology
