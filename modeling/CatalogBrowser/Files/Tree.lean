import CatalogBrowser.Files.Basic

/-!
# Trees of files

A **file tree** holds files and directories below a working directory.
Nothing is known of what lies outside, except that it is a directory too.

A path is followed name by name. Every name but the last must lead to a
directory, and a name that leads nowhere, or is too long, ends the walk.
-/

namespace CatalogBrowser

/-- What is at a path. -/
inductive FileNode where
  | file (bytes : ByteArray)
  | directory
deriving Inhabited

/-- **The files and directories below a working directory.** The directories
that something lies in are not listed. -/
structure FileTree where
  /-- The files, with the names that lead to them. -/
  files : List (List String × ByteArray)
  /-- The directories. -/
  directories : List (List String)
deriving Inhabited

namespace FileTree

/-- Where a walk has come to: a place in the tree, or outside of it. -/
abbrev Place := Option (List String)

/-- What is at a place. -/
def node? (t : FileTree) : Place → Option FileNode
  | none => some .directory
  | some names =>
    match t.files.lookup names with
    | some bytes => some (.file bytes)
    | none =>
      if names.isEmpty || t.directories.any names.isPrefixOf
          || t.files.any (names.isPrefixOf ·.1) then some .directory
      else none

/-- Whether a directory is at a place. -/
def isDirectory (t : FileTree) (place : Place) : Bool :=
  match t.node? place with
  | some .directory => true
  | _ => false

/-- The most bytes a name may have. -/
def nameLimit : Nat := 255

/-- The most bytes a path may have. -/
def pathLimit : Nat := 4095

/-- The place a name leads to, whether or not anything is there. -/
def step (t : FileTree) (place : Place) (name : String) : Except FileFault Place :=
  if !t.isDirectory place then .error .notADirectory
  else if name = "." then .ok place
  else if nameLimit < name.utf8ByteSize then .error .nameTooLong
  else
    match place with
    | none => if name = ".." then .ok none else .error .notFound
    | some names =>
      if name = ".." then .ok (if names.isEmpty then none else some names.dropLast)
      else .ok (some (names ++ [name]))

/-- Follows names to something that is there. -/
def follow (t : FileTree) (place : Place) : List String → Except FileFault Place
  | [] => .ok place
  | name :: names => do
    let next ← t.step place name
    if (t.node? next).isSome then t.follow next names else .error .notFound

/-- Where a path begins, if its text can be a path. -/
def origin (path : String) : Except FileFault Place :=
  if path.any (· = '\x00') then .error .zeroInPath
  else if path.isEmpty then .error .notFound
  else if pathLimit < path.utf8ByteSize then .error .nameTooLong
  else .ok (if (FilePath.ofString path).isAbsolute then none else some [])

/-- **What a path leads to.** -/
def find (t : FileTree) (path : String) : Except FileFault FileNode := do
  let place ← t.follow (← origin path) (FilePath.ofString path).names
  match t.node? place with
  | some (.file bytes) =>
    if (FilePath.ofString path).wantsDirectory then .error .notADirectory else .ok (.file bytes)
  | some .directory => .ok .directory
  | none => .error .notFound

/-- **The bytes of the file at a path.** -/
def read (t : FileTree) (path : String) : Except FileFault ByteArray := do
  match ← t.find path with
  | .file bytes => .ok bytes
  | .directory => .error .isADirectory

/-- The view of a tree. -/
def view (t : FileTree) : FileView where
  holds path := (t.find path).isOk
  readText path := t.read path >>= textOfBytes

/-! ## Writing -/

/-- Makes one directory. -/
def makeDirectory (t : FileTree) (path : FilePath) : Except FileFault FileTree := do
  let start : Place := if path.isAbsolute then none else some []
  let place ← t.follow start path.names.dropLast
  match path.names.getLast? with
  | none => .error (if path.isAbsolute then .alreadyExists else .notFound)
  | some name =>
    let target ← t.step place name
    if (t.node? target).isSome then .error .alreadyExists
    else
      match target with
      | some names => .ok { t with directories := names :: t.directories }
      | none => .error .notFound

/-- Whether a path leads to a directory. -/
def leadsToDirectory (t : FileTree) (path : FilePath) : Bool :=
  match t.follow (if path.isAbsolute then none else some []) path.names with
  | .ok place => t.isDirectory place
  | .error _ => false

/-- Makes a directory if it is not there yet. -/
def ensureDirectory (t : FileTree) (path : FilePath) : Except FileFault FileTree :=
  match t.makeDirectory path with
  | .ok t => .ok t
  | .error fault => if t.leadsToDirectory path then .ok t else .error fault

/-- **Makes a directory and those it lies in**, given an upper bound on how
many they are. -/
def ensureDirectories (t : FileTree) (path : FilePath) : Nat → Except FileFault FileTree
  | 0 => .ok t
  | fuel + 1 =>
    if path.isEmpty then .ok t
    else
      match t.ensureDirectory path with
      | .error .notFound => do
        match path.parent? with
        | some parent => (← t.ensureDirectories parent fuel).ensureDirectory path
        | none => .error .notFound
      | result => result

/-- **Appends bytes to a file**, which is made if it is not there yet. -/
def append (t : FileTree) (path : String) (bytes : ByteArray) : Except FileFault FileTree := do
  let start ← origin path
  let parts := FilePath.ofString path
  let place ← t.follow start parts.names.dropLast
  match parts.names.getLast? with
  | none => .error .isADirectory
  | some name =>
    let target ← t.step place name
    match t.node? target, target with
    | some (.file old), some names =>
      if parts.wantsDirectory then .error .notADirectory
      else
        .ok { t with files := t.files.map fun (key, kept) =>
          if key = names then (key, old ++ bytes) else (key, kept) }
    | none, some names =>
      if parts.wantsDirectory then .error .isADirectory
      else .ok { t with files := (names, bytes) :: t.files }
    | _, _ => .error .isADirectory

/-- Appends bytes to a file, after making the directories it lies in. -/
def appendWithin (t : FileTree) (path : String) (bytes : ByteArray) :
    Except FileFault FileTree := do
  let t ←
    match (FilePath.ofString path).parent? with
    | some parent =>
      if path.any (· = '\x00') && !parent.isEmpty then .error .zeroInPath
      else t.ensureDirectories parent (parent.names.length + 1)
    | none => .ok t
  t.append path bytes

end FileTree

end CatalogBrowser
