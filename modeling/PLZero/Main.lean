import PLZero.Command.Run

/-! The command as a program: it takes the arguments, the environment and the files from the
system, and writes the response to the standard streams. -/
namespace PLZero
set_option autoImplicit false

/-- The number of an error of the system, and what the system calls it. -/
def systemError? : IO.Error → Option (Nat × String)
  | .otherError n what | .resourceBusy n what | .resourceVanished n what
  | .unsupportedOperation n what | .hardwareFault n what | .unsatisfiedConstraints n what
  | .illegalOperation n what | .protocolError n what | .timeExpired n what
  | .alreadyExists _ n what | .interrupted _ n what | .noFileOrDirectory _ n what
  | .invalidArgument _ n what | .permissionDenied _ n what | .resourceExhausted _ n what
  | .inappropriateType _ n what | .noSuchThing _ n what => some (n.toNat, what)
  | .unexpectedEof | .userError _ => none

def readFailureOf (e : IO.Error) : ReadFailure :=
  match systemError? e with
  | some (2, _) => .notFound
  | some (20, _) => .notDirectory
  | some (21, _) => .isDirectory
  | some (36, _) => .nameTooLong
  | some (n, what) => .other (what ++ " (os error " ++ n.repr ++ ")")
  | none => .other e.toString

/-- A file is opened before it is looked at, so that an error has the number and the words that the
system itself gives it. -/
def readBytes (path : String) : IO ByteArray := do
  (← IO.FS.Handle.mk path .read).readBinToEnd

def readFile (path : String) : IO (Except ReadFailure String) := do
  match ← (readBytes path).toBaseIO with
  | .ok content => return decodeText content
  | .error e => return .error (readFailureOf e)

/-- The files that a command line names. -/
def filesOf : Request → List String
  | .run i => i.config.toList ++ [i.input]
  | _ => []

def runProgram (args : List String) : IO UInt32 := do
  let env : Environment :=
    ⟨← IO.getEnv "PL0C_CONFIG", ← IO.getEnv "PL0C_VERBOSE", ← IO.getEnv "RUST_LOG"⟩
  let files := filesOf (.ofArguments args env)
  let contents ← files.mapM fun path => return (path, ← readFile path)
  let read : ReadFile := fun path => (contents.lookup path).getD (.error .notFound)
  let time := (← IO.monoMsNow).repr ++ "ms"
  let r := runCommand args env read time
  IO.print r.output
  IO.eprint r.errors
  return r.code.toUInt32

end PLZero

def main (args : List String) : IO UInt32 := PLZero.runProgram args
