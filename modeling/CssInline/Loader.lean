/-! Where the source of a style module comes from. -/

namespace CssInline

inductive LoadError where
  | unregistered (path : String)
  /-- The path has no place without a module root. -/
  | bareSpecifier (path : String)
  | fileNotFound
  | isDirectory
  | notDirectory
  | notUnicode
  | nulInPath
deriving DecidableEq

def LoadError.text : LoadError → String
  | .unregistered path => "no module registered for `" ++ path ++ "`"
  | .bareSpecifier path =>
    "cannot resolve bare specifier `" ++ path ++ "` without a module root"
  | .fileNotFound => "No such file or directory (os error 2)"
  | .isDirectory => "Is a directory (os error 21)"
  | .notDirectory => "Not a directory (os error 20)"
  | .notUnicode => "stream did not contain valid UTF-8"
  | .nulInPath => "file name contained an unexpected NUL byte"

/-- What became of asking for a module: the file that was opened for it, if the request got that
far, and its source. -/
structure Fetch where
  opened : Option String
  source : Except LoadError String

/-- Given the name of the file that refers to the module and the path it gives. -/
abbrev Loader := (filename : String) → (path : String) → Fetch

/-- Modules kept in memory under the paths that refer to them. -/
structure Modules where
  entries : List (String × String)

namespace Modules

def empty : Modules := ⟨[]⟩

def lookup? (modules : Modules) (path : String) : Option String :=
  modules.entries.lookup path

/-- The last insertion for a path counts. -/
def insert (modules : Modules) (path source : String) : Modules :=
  ⟨(path, source) :: modules.entries⟩

def ofList (entries : List (String × String)) : Modules :=
  entries.foldl (fun modules entry => modules.insert entry.1 entry.2) empty

def loader (modules : Modules) : Loader := fun _ path =>
  { opened := none
    source :=
      match modules.lookup? path with
      | some source => .ok source
      | none => .error (.unregistered path) }

end Modules

end CssInline
