import CssInline.Loader.Path

/-! Modules read from a tree of files. -/

namespace CssInline

/-- Files by their paths from the working directory. A directory is there when a file is in it. -/
structure FileTree where
  files : List (List (List Char) × ByteArray)

namespace FileTree

def ofList (files : List (String × ByteArray)) : FileTree :=
  ⟨files.map fun file =>
    ((Path.components file.1.toList).filter fun component => !Path.isIdle component, file.2)⟩

inductive Entry where
  | file (content : ByteArray)
  | directory

/-- What is at `place`, a list of names. -/
def entry? (tree : FileTree) (place : List (List Char)) : Option Entry :=
  match tree.files.lookup place with
  | some content => some (.file content)
  | none =>
    if place.isEmpty || tree.files.any fun file => place.isPrefixOf file.1 then some .directory
    else none

/-- A directory on the way: below the working directory, or so many levels above it. Nothing is
known above it but the directories themselves. -/
inductive Place where
  | below (names : List (List Char))
  | above (levels : Nat)

def walk (tree : FileTree) : Place → List (List Char) → Except LoadError Entry
  | _, [] => .ok .directory
  | place, component :: rest =>
    if Path.isIdle component then tree.walk place rest
    else
      match place with
      | .above levels =>
        if component = ['.', '.'] then tree.walk (.above (levels + 1)) rest
        else .error .fileNotFound
      | .below names =>
        if component = ['.', '.'] then
          if names.isEmpty then tree.walk (.above 1) rest
          else tree.walk (.below names.dropLast) rest
        else
          match tree.entry? (names ++ [component]) with
          | none => .error .fileNotFound
          | some .directory => tree.walk (.below (names ++ [component])) rest
          | some (.file content) =>
            if rest.isEmpty then .ok (.file content) else .error .notDirectory

def find (tree : FileTree) (path : List Char) : Except LoadError Entry :=
  if path.contains '\x00' then .error .nulInPath
  else if path.isEmpty then .error .fileNotFound
  else tree.walk (if Path.isAbsolute path then .above 0 else .below []) (Path.components path)

def read (tree : FileTree) (path : String) : Except LoadError String := do
  match ← tree.find path.toList with
  | .directory => throw .isDirectory
  | .file content =>
    match String.fromUTF8? content with
    | some source => return source
    | none => throw .notUnicode

/-- Loads the file that the path names, bare paths from `root`. -/
def loader (tree : FileTree) (root : Option String) : Loader := fun filename path =>
  match Path.resolve root filename path with
  | .error failure => { opened := none, source := .error failure }
  | .ok file => { opened := some file, source := tree.read file }

end FileTree

end CssInline
