import Companion.CommandLine.Program
import Companion.Seed

/-!
# Main — the program on a real file system

The outer layer: the operations on files, the environment, a seed and the terminal are the system's;
all else is `program`.
-/

namespace Companion.Main

/-- An action whose failure is a reason in words. -/
def attempt {α : Type} (action : IO α) : IO (Except String α) := do
  match ← action.toBaseIO with
  | .ok a => pure (.ok a)
  | .error e => pure (.error (toString e))

/-- Whether an action says so; one that fails does not. -/
def affirms (action : IO Bool) : IO Bool := do
  match ← action.toBaseIO with
  | .ok answer => pure answer
  | .error _ => pure false

instance : FileSystem IO where
  isPresent path := affirms do (← IO.FS.realPath path).pathExists
  isFile path := affirms do
    match (← (← IO.FS.realPath path).metadata).type with
    | .file => pure true
    | _ => pure false
  read path := attempt (IO.FS.readBinFile path)
  createDirectories path :=
    attempt (if path.isEmpty then pure () else IO.FS.createDirAll path)
  write path text := attempt (IO.FS.writeFile path text)

/-- The variable that an entry of the environment holds. -/
def binding? (entry : List Char) : Option (String × String) :=
  match entry.dropWhile (· != '=') with
  | _ :: value => some (String.ofList (entry.takeWhile (· != '=')), String.ofList value)
  | [] => none

/-- The variables of the environment. -/
def environment : IO Environment.Variables := do
  match ← attempt (IO.FS.readBinFile "/proc/self/environ") with
  | .ok bytes =>
    let text := (String.fromUTF8? bytes).getD ""
    pure ((Text.pieces (Char.ofNat 0) text.toList).filterMap binding?)
  | .error _ => pure []

/-- A seed that is new in each run. -/
def seed : IO Seed := do
  let bytes ← IO.getRandomBytes 8
  pure ⟨bytes.data.foldl (fun n b => n * 256 + b.toUInt64) 0⟩

/-- The program as a process. -/
def run (words : List String) : IO UInt32 := do
  let output ← IO.getStdout
  let errors ← IO.getStderr
  let env ← environment
  let style := Style.ofTerminal (← output.isTty) env
  let ending ← program style words env (← seed).tokens
  errors.putStr ending.errors
  output.putStr ending.output
  output.flush
  pure (UInt32.ofNat ending.status)

end Companion.Main

/-- Runs the program. -/
def main (words : List String) : IO UInt32 := Companion.Main.run words
