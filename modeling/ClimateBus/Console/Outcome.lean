import ClimateBus.Settings.Files
import ClimateBus.Supervisor

/-!
How a run of the console ends: its exit code, and the text shown to the user.

A failure is told as a chain of causes, outermost first: notes on what was being done, then the
error of the library, then what that error arose from. The outermost error of the library decides
the exit code (`Causes.code`); notes have no say in it.
-/
namespace ClimateBus

inductive ExitCode where
  | success
  | general
  | invalidArguments
  | connectionFailed
  | timeout
  | permissionDenied
  | settings
  | protocol
  | unitNotPresent
  | portNotFound
  | interrupted
  deriving DecidableEq, Repr

namespace ExitCode

def all : List ExitCode := [
  .success, .general, .invalidArguments, .connectionFailed, .timeout, .permissionDenied, .settings,
  .protocol, .unitNotPresent, .portNotFound, .interrupted]

def value : ExitCode → UInt8
  | .success => 0
  | .general => 1
  | .invalidArguments => 2
  | .connectionFailed => 3
  | .timeout => 4
  | .permissionDenied => 7
  | .settings => 8
  | .protocol => 9
  | .unitNotPresent => 12
  | .portNotFound => 14
  | .interrupted => 130

def description : ExitCode → String
  | .success => "Success"
  | .general => "General error or gateway busy"
  | .invalidArguments => "Invalid arguments or command"
  | .connectionFailed => "Connection failed"
  | .timeout => "Gateway timeout"
  | .permissionDenied => "Permission denied"
  | .settings => "Configuration error"
  | .protocol => "Protocol error (framing or CRC)"
  | .unitNotPresent => "Unit not present"
  | .portNotFound => "Port not found"
  | .interrupted => "Interrupted"

def describe (n : UInt8) : String :=
  ((all.find? fun c => c.value == n).map description).getD "Unknown error"

def table : String :=
  String.intercalate "\n" ("Exit Codes:" :: all.map fun c =>
    "  " ++ Blank.padLeft 3 (toString c.value.toNat) ++ "  " ++ c.description)

end ExitCode

inductive LibraryError where
  | transport (e : TransportError)
  | gateway (e : GatewayError)
  | supervisor (e : SupervisorError)
  | command (e : CommandError)
  | settings (e : SettingsError)
  deriving DecidableEq, Repr

def TransportError.exitCode : TransportError → ExitCode
  | .portNotFound _ => .portNotFound
  | .permissionDenied _ => .permissionDenied
  | .connectionFailed _ | .io _ => .connectionFailed
  | .timeout _ _ => .timeout
  | .framing _ | .checkMismatch _ _ => .protocol
  | .invalidArgument _ | .invalidSize _ => .invalidArguments

/-- What the error arose from, outermost first. -/
def TransportError.origins : TransportError → List String
  | .io detail => [detail]
  | _ => []

def GatewayError.exitCode : GatewayError → ExitCode
  | .bus e => e.exitCode
  | .invalidUnit _ => .invalidArguments
  | .unitNotPresent _ => .unitNotPresent

def GatewayError.origins : GatewayError → List String
  | .bus e => e.origins
  | _ => []

def SupervisorError.exitCode : SupervisorError → ExitCode
  | .busy _ => .general
  | .gateway e => e.exitCode
  | .command _ => .invalidArguments

def SupervisorError.origins : SupervisorError → List String
  | .gateway e => e.origins
  | _ => []

def SettingsError.origins : SettingsError → List String
  | .noDirectory => []
  | .io _ detail | .parse _ detail | .serialize detail => [detail]

namespace LibraryError

def exitCode : LibraryError → ExitCode
  | .transport e => e.exitCode
  | .gateway e => e.exitCode
  | .supervisor e => e.exitCode
  | .command _ => .invalidArguments
  | .settings _ => .settings

def message : LibraryError → String
  | .transport e => e.message
  | .gateway e => e.message
  | .supervisor e => e.message
  | .command e => e.message
  | .settings e => e.message

def origins : LibraryError → List String
  | .transport e => e.origins
  | .gateway e => e.origins
  | .supervisor e => e.origins
  | .command _ => []
  | .settings e => e.origins

end LibraryError

inductive Cause where
  | note (text : String)
  | error (e : LibraryError)
  deriving DecidableEq, Repr

def Cause.message : Cause → String
  | .note text => text
  | .error e => e.message

/-- The code this link stands for, if it has a say in it. Each kind of error is known by itself, a
supervisor's together with what it wraps. -/
def Cause.exitCode? : Cause → Option ExitCode
  | .note _ => none
  | .error (.transport e) => some e.exitCode
  | .error (.gateway e) => some e.exitCode
  | .error (.supervisor (.busy _)) => some .general
  | .error (.supervisor (.gateway e)) => some e.exitCode
  | .error (.supervisor (.command _)) => some .invalidArguments
  | .error (.command _) => some .invalidArguments
  | .error (.settings _) => some .settings

/-- A chain of causes, outermost first. -/
abbrev Causes := List Cause

namespace Causes

def ofError (e : LibraryError) : Causes := .error e :: e.origins.map .note

/-- Says what was being done when the failure arose. -/
def during (what : String) (cs : Causes) : Causes := .note what :: cs

def message (cs : Causes) : String := String.intercalate ": " (cs.map Cause.message)

/-- The code of the outermost error in the chain. -/
def exitCode (cs : Causes) : ExitCode := (cs.findSome? Cause.exitCode?).getD .general

end Causes

inductive Outcome where
  | success (message : Option String)
  | failure (code : UInt8) (message : String)
  deriving DecidableEq, Repr

namespace Outcome

def ofError (e : LibraryError) : Outcome := .failure e.exitCode.value e.message

def ofCauses (cs : Causes) : Outcome := .failure cs.exitCode.value cs.message

def invalidArguments (message : String) : Outcome :=
  .failure ExitCode.invalidArguments.value message

def code : Outcome → UInt8
  | .success _ => ExitCode.success.value
  | .failure code _ => code

def message : Outcome → Option String
  | .success message => message
  | .failure _ message => some message

def succeeded : Outcome → Bool
  | .success _ => true
  | .failure _ _ => false

end Outcome

end ClimateBus
