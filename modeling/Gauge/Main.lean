import Gauge.Command.Run
import Std.Time.DateTime.Timestamp

/-! # The program

The world of a terminal: the system's clock in universal time, its files, and the standard streams.
-/
namespace Gauge.Terminal

def now : IO Instant := do
  let n := (← Std.Time.Timestamp.now).toNanosecondsSinceUnixEpoch.val
  pure (.ofEpoch (n / 1000000000) (n % 1000000000).toNat)

def read (path : String) : IO (Option String) := do
  try some <$> IO.FS.readFile path
  catch _ => pure none

def makeFolder (path : String) : IO (Option StorageError) := do
  try
    IO.FS.createDirAll path
    pure none
  catch e => pure (some (.system (toString e)))

def environment : IO (List (String × String)) := do
  let entries := ((← read "/proc/self/environ").getD "").splitOn "\x00"
  pure (entries.filterMap fun e =>
    match e.splitOn "=" with
    | name :: value@(_ :: _) => some (name, String.intercalate "=" value)
    | _ => none)

def fraction : IO Float := do
  let n ← IO.rand 0 (Nat.pow 2 53 - 1)
  pure (n.toFloat / (Nat.pow 2 53).toFloat)

def print : Line → IO Unit
  | .plain s => IO.println s
  | .record s => do IO.println ((← now).stamp ++ " " ++ s)
  | .reading t s => IO.println (t.timeText ++ " " ++ s)

def world : IO (World IO) := do
  let environment ← environment
  pure
    { environment, now, fraction, print, read, makeFolder
      logFilter := environment.lookup "RUST_LOG"
      complain := fun line => IO.eprintln line
      pause := fun milliseconds => IO.sleep (min milliseconds (Nat.pow 2 32 - 1)).toUInt32 }

partial def pollForever (w : World IO) (done : Nat) (p : Polling IO) : IO Unit := do
  let p ← p.pass w done
  w.pause p.interval
  pollForever w (done + 1) p

end Gauge.Terminal

def main (args : List String) : IO UInt32 := do
  IO.setRandSeed (← IO.monoNanosNow)
  let w ← Gauge.Terminal.world
  match ← Gauge.Arguments.run w args with
  | .exit status => pure status.toUInt32
  | .endless polling => do
    Gauge.Terminal.pollForever w 0 polling
    pure 0
