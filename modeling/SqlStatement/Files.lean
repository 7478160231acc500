import SqlStatement.Text.Pieces

/-!
# Reading files by path

A directory is given by the files written into it.  A path is followed component
by component, to write and to read; what lies outside is not known, except that
it consists of directories as far as `..` and the root lead.
-/

namespace SqlStatement

inductive ReadError where
  | notFound
  | notDirectory
  | isDirectory
  | nameTooLong
  /-- The path holds the character of code point zero. -/
  | nulInPath
  /-- The bytes are not a text in UTF-8. -/
  | notText
  /-- Something else, told by the system. -/
  | other (description : String)
  deriving DecidableEq

namespace ReadError

def message : ReadError → String
  | notFound => "No such file or directory (os error 2)"
  | notDirectory => "Not a directory (os error 20)"
  | isDirectory => "Is a directory (os error 21)"
  | nameTooLong => "File name too long (os error 36)"
  | nulInPath => "file name contained an unexpected NUL byte"
  | notText => "stream did not contain valid UTF-8"
  | other description => description

end ReadError

def textOfBytes (bytes : ByteArray) : Except ReadError String :=
  match String.fromUTF8? bytes with
  | some text => .ok text
  | none => .error .notText

/--
A directory: the files and the directories in it and below it, each with the
names that lead to it.  Of two files at one place, the first one counts.
-/
structure Directory where
  files : List (List String × ByteArray) := []
  directories : List (List String) := []

namespace Directory

def components (path : String) : List String :=
  (Text.pieces '/' path.toList).map String.ofList

def file? (directory : Directory) (place : List String) : Option ByteArray :=
  directory.files.lookup place

def hasDirectory (directory : Directory) (place : List String) : Bool :=
  directory.directories.contains place

def above? : List String → Option (List String)
  | [] => none
  | first :: rest => some (first :: rest).dropLast

/--
Write a file, and make the directories on the way to it from a place.  A path
that leads out of the directory changes nothing.
-/
def write (directory : Directory) (bytes : ByteArray) (place : List String) :
    List String → Directory
  | [] => directory
  | [name] => { directory with files := (place ++ [name], bytes) :: directory.files }
  | name :: rest =>
      if name = "" ∨ name = "." then write directory bytes place rest
      else if name = ".." then
        match above? place with
        | some above => write directory bytes above rest
        | none => directory
      else
        let next := place ++ [name]
        write { directory with directories := next :: directory.directories } bytes next rest

def ofFiles (files : List (String × ByteArray)) : Directory :=
  files.foldl (fun directory (path, bytes) => directory.write bytes [] (components path)) {}

def longestName : Nat :=
  255

def longestPath : Nat :=
  4095

/-- Follow components from a place, which is none outside of the directory. -/
def follow (directory : Directory) : Option (List String) → List String → Except ReadError ByteArray
  | _, [] => .error .isDirectory
  | here, name :: rest =>
      if name = "" ∨ name = "." then follow directory here rest
      else if name = ".." then follow directory (here.bind above?) rest
      else if longestName < name.utf8ByteSize then .error .nameTooLong
      else
        match here with
        | none => .error .notFound
        | some place =>
            let next := place ++ [name]
            match directory.file? next with
            | some bytes => if rest.isEmpty then .ok bytes else .error .notDirectory
            | none =>
                if directory.hasDirectory next then follow directory (some next) rest
                else .error .notFound

def bytes (directory : Directory) (path : String) : Except ReadError ByteArray :=
  if '\x00' ∈ path.toList then .error .nulInPath
  else if path = "" then .error .notFound
  else if longestPath < path.utf8ByteSize then .error .nameTooLong
  else
    let start := if path.toList.head? = some '/' then none else some []
    directory.follow start (components path)

def text (directory : Directory) (path : String) : Except ReadError String := do
  textOfBytes (← directory.bytes path)

end Directory

end SqlStatement
