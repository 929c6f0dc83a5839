import PullDecoration.CommandLine.Run
import Std.Time.DateTime.Timestamp

/-! The program: it reads the files of a command, runs the command, and writes what the run has to say. It
opens no connections, so every request stays without a reply. -/
namespace PullDecoration
namespace CommandLine

/-- The number of an error, which may be given with a minus sign. -/
def magnitude (n : UInt32) : UInt32 := if n ≤ 4095 then n else UInt32.neg n

def readFile (path : String) : IO (Except FileError String) := do
  try
    return .ok (← IO.FS.readFile path)
  catch
    | .noFileOrDirectory _ n _ | .permissionDenied _ n _ | .inappropriateType _ n _
    | .invalidArgument _ n _ | .resourceExhausted _ n _ | .otherError n _ =>
      return .error ((FileError.ofNumber? (magnitude n)).getD .missing)
    | .userError _ => return .error .notText
    | _ => return .error .missing

/-- The files of a command and the password of the environment. -/
def surroundings (command : Command) : IO Surroundings := do
  let files ← command.paths.mapM fun path => return (path, ← readFile path)
  let find (path : String) : Except FileError String :=
    match files.find? (·.1 = path) with
    | some (_, found) => found
    | none => .error .missing
  return ⟨find, ← IO.getEnv "PR_DECORATOR_PASSWORD"⟩

theorem clockStart_valid : Date.clockStart.isValid ∧ 0 < 1440 ∧ 0 ≤ 60 ∧ 0 < 1000000000 := by decide

/-- The start of 1970, for clocks that are set too early. -/
def clockStart : Timestamp := ⟨Date.clockStart, 0, 0, 0, clockStart_valid⟩

/-- A new run that starts now, and ends now because it waits for nothing. -/
def occasion : IO Decoration.Occasion := do
  let octets ← IO.getRandomBytes 32
  let clock ← Std.Time.Timestamp.now
  let now := (Timestamp.ofClock? clock.val.second.val.toNat clock.val.nano.val.toNat).getD clockStart
  return ⟨.ofDrawn fun i => (octets.data[i]?.map UInt8.toNat).getD 0, now, now⟩

def write (ending : Ending) : IO UInt32 := do
  (← IO.getStdout).putStr ending.output
  (← IO.getStderr).putStr ending.complaint
  return ending.code

end CommandLine
end PullDecoration

open PullDecoration CommandLine in
def main (arguments : List String) : IO UInt32 := do
  match Command.ofArguments arguments with
  | .error stop => write stop.ending
  | .ok command =>
    let exchange := command.run pageLimit (← occasion) (← surroundings command)
    match (Http.Server.unreachable.run exchange ()).1 with
    | some ending => write ending
    | none => return Ending.inputCode
