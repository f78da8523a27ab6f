import SceneLogic.Definitions

/-!
# Definitions in folders

A folder of definition files is taken over file by file, in the order of the names, with the
folders in it at their places. Only files whose names end in `.ron` count. The first file that
fails ends it; what came before it stays.
-/

namespace SceneLogic

/-- A file with its text, or a folder with what it holds, in the order of the names. -/
inductive FileTree where
  | file (text : String)
  | folder (entries : List (String × FileTree))

instance : Inhabited FileTree := ⟨.folder []⟩

namespace FileTree

/-- What is found along a path, given by the names on it, from a place in a tree. The folders
around the place are given from the nearest on. Empty names and single dots stay in place, and two
dots lead to the folder around. All names but the last must lead to folders. -/
def walk? (around : List FileTree) : FileTree → List String → Option FileTree
  | t, [] => some t
  | .file _, _ :: _ => none
  | .folder entries, name :: rest =>
    if name = "" ∨ name = "." then walk? around (.folder entries) rest
    else if name = ".." then
      match around with
      | [] => none
      | t :: around => walk? around t rest
    else (Dict.get? entries name).bind fun t => walk? (.folder entries :: around) t rest

/-- What is found along a path from the root. -/
def find? : FileTree → List String → Option FileTree :=
  walk? []

/-- Puts an entry at its place in the order of the names, instead of the one of the same name. -/
def insertByName (name : String) (t : FileTree) :
    List (String × FileTree) → List (String × FileTree)
  | [] => [(name, t)]
  | e :: rest =>
    if e.1 = name then (name, t) :: rest
    else if name < e.1 then (name, t) :: e :: rest
    else e :: insertByName name t rest

/-- Puts a tree at the end of a path of names. Folders that are missing on the way are made. -/
def put (added : FileTree) : List String → FileTree → FileTree
  | [], _ => added
  | name :: rest, t =>
    let entries :=
      match t with
      | .file _ => []
      | .folder entries => entries
    let inner := (Dict.get? entries name).getD (.folder [])
    .folder (insertByName name (put added rest inner) entries)

/-- The names on a written path. -/
def splitPath (path : String) : List String :=
  path.splitOn "/"

/-- The path of names that leads to the same place without staying in place or turning back. -/
def direct (path : List String) : List String :=
  let back := path.foldl
    (fun back name =>
      if name = "" ∨ name = "." then back
      else if name = ".." then back.tail
      else name :: back) []
  back.reverse

/-- Makes all folders along a path. -/
def makeFolders (t : FileTree) (path : List String) : FileTree :=
  ((List.range (path.length + 1)).map fun n => direct (path.take n)).foldl
    (fun t names => put ((t.find? names).getD default) names t) t

/-- The tree of some folders, and of some files with their texts. -/
def ofPaths (folders : List String) (files : List (String × String)) : FileTree :=
  let t := folders.foldl (fun t path => t.makeFolders (splitPath path)) default
  files.foldl
    (fun t f =>
      let path := splitPath f.1
      put (.file f.2) (direct path) (t.makeFolders path.dropLast)) t

end FileTree

/-- The file name ends in `.ron`, after at least one other character. -/
def isDefinitionName (name : String) : Bool :=
  ".ron".toList.isSuffixOf name.toList && 4 < name.length

namespace Definitions

mutual

/-- Takes over a file, or all files of a folder. -/
def loadTree : FileTree → Loading Unit
  | .file text => load text
  | .folder entries => loadEntries entries

/-- Takes over the entries of a folder, in order, up to the first that fails. -/
def loadEntries : List (String × FileTree) → Loading Unit
  | [] => return
  | (name, t) :: rest => do
    match t with
    | .file text => if isDefinitionName name then loadTree (.file text)
    | .folder entries => loadTree (.folder entries)
    loadEntries rest

end

/-- Takes over the folder at a path. -/
def loadFolder (t : FileTree) (path : String) : Loading Unit :=
  match t.find? (FileTree.splitPath path) with
  | some (.folder entries) => loadEntries entries
  | _ => throw .unreadable

/-- Takes over the file at a path, whatever its name. -/
def loadFile (t : FileTree) (path : String) : Loading Unit :=
  match t.find? (FileTree.splitPath path) with
  | some (.file text) => loadTree (.file text)
  | _ => throw .unreadable

end Definitions

end SceneLogic
