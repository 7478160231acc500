import SqlStatement.Run

/-!
# The command line

The program itself: it reads the file that the arguments name, and shows what
the run shows.
-/

namespace SqlStatement

/-- The number of a system error, which some calls report as a negative number in 32 bits. -/
def systemNumber (code : UInt32) : Nat :=
  if code.toNat < Nat.pow 2 31 then code.toNat else Nat.pow 2 32 - code.toNat

def ReadError.ofNumber (code : UInt32) (description : String) : ReadError :=
  match systemNumber code with
  | 2 => .notFound
  | 13 => .other "Permission denied (os error 13)"
  | 20 => .notDirectory
  | 21 => .isDirectory
  | 36 => .nameTooLong
  | _ => .other description

def ReadError.ofSystem : IO.Error → ReadError
  | .noFileOrDirectory _ code description => .ofNumber code description
  | .permissionDenied _ code description => .ofNumber code description
  | .inappropriateType _ code description => .ofNumber code description
  | .invalidArgument _ code description => .ofNumber code description
  | error => .other (toString error)

def readSource (path : String) : IO (Except ReadError String) := do
  try
    return textOfBytes (← IO.FS.readBinFile path)
  catch error =>
    return .error (ReadError.ofSystem error)

end SqlStatement

open SqlStatement in
def main (words : List String) : IO UInt32 := do
  let arguments := "sqlkit" :: words
  let source ←
    match Command.ofArguments arguments with
    | .ok (.render options) => readSource options.config
    | _ => pure (.ok "")
  let outcome := run (.ofFiles fun _ => source) arguments
  IO.print outcome.stdout
  IO.eprint outcome.stderr
  match outcome.error with
  | none => return 0
  | some error =>
    IO.eprintln ("error: " ++ error.message)
    return 1
