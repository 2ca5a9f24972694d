/-!
# Files

How files are named, what can be wrong with them, and what is asked of a file
system: whether something is at a path, and what text is there.
-/

namespace CatalogBrowser

/-! ## Paths

A path is a text of names separated by slashes. Empty names do not count,
so slashes may be repeated; a slash at the end asks for a directory. -/

/-- **A path, taken apart.** -/
structure FilePath where
  /-- Whether it leads from the root of the file system. -/
  isAbsolute : Bool
  /-- The names on the way. -/
  names : List String
  /-- Whether it ends in a slash. -/
  wantsDirectory : Bool
deriving Repr, Inhabited

namespace FilePath

/-- Takes a path apart. -/
def ofString (path : String) : FilePath where
  isAbsolute := path.startsWith "/"
  names := (path.splitOn "/").filter fun name => !name.isEmpty
  wantsDirectory := path.endsWith "/"

/-- A path without the names that do not matter: a dot that is not the first
name. -/
def simplified (path : FilePath) : FilePath :=
  match path.names with
  | [] => path
  | name :: names =>
    let rest := names.filter (· ≠ ".")
    { path with
      names := if path.isAbsolute && name = "." then rest else name :: rest
      wantsDirectory := false }

/-- **The path of the directory something is in**, if its path tells. -/
def parent? (path : FilePath) : Option FilePath :=
  match path.simplified.names with
  | [] => none
  | names => some ⟨path.isAbsolute, names.dropLast, false⟩

/-- Whether a path has no names at all and leads nowhere. -/
def isEmpty (path : FilePath) : Bool := !path.isAbsolute && path.names.isEmpty

end FilePath

/-! ## Faults

Why a file could not be read or opened, in the words of the operating
system, which come with its error number. -/

/-- **Why a file could not be read or opened.** -/
inductive FileFault where
  | notFound
  | alreadyExists
  | notADirectory
  | isADirectory
  | nameTooLong
  /-- The path holds a character no path can hold. -/
  | zeroInPath
  /-- The file was read, but is not text. -/
  | notText
  /-- Anything else, in the words it was reported with. -/
  | other (message : String)
deriving DecidableEq, Repr, Inhabited

/-- The wording of a fault. -/
def FileFault.message : FileFault → String
  | notFound => "No such file or directory (os error 2)"
  | alreadyExists => "File exists (os error 17)"
  | notADirectory => "Not a directory (os error 20)"
  | isADirectory => "Is a directory (os error 21)"
  | nameTooLong => "File name too long (os error 36)"
  | zeroInPath => "file name contained an unexpected NUL byte"
  | notText => "stream did not contain valid UTF-8"
  | other message => message

/-! ## Views

Reading a configuration or a catalog asks the file system two things: whether
something is at a path, and what text is there. A **view** answers both, for
every path. -/

/-- **The answers of a file system.** -/
structure FileView where
  /-- Whether something is at a path. -/
  holds : String → Bool
  /-- The text of the file at a path. -/
  readText : String → Except FileFault String

/-- The text that bytes are the UTF-8 form of. -/
def textOfBytes (bytes : ByteArray) : Except FileFault String :=
  match String.fromUTF8? bytes with
  | some text => .ok text
  | none => .error .notText

/-- The view of a file system without files. -/
def FileView.empty : FileView := ⟨fun _ => false, fun _ => .error .notFound⟩

/-- A view in which one path is answered differently. -/
def FileView.override (view : FileView) (path : String) (holds : Bool)
    (readText : Except FileFault String) : FileView where
  holds p := if p = path then holds else view.holds p
  readText p := if p = path then readText else view.readText p

end CatalogBrowser
