import Std.Data.TreeMap
import Std.Data.TreeSet
import Retrieval.Text.Lines

namespace Retrieval

/-- Files and folders by the names on the way to them from the root. The way to a file leads through
folders; paths start in the current folder. All names are UTF-8: one that is not is no `String`. -/
structure Storage where
  files : Std.TreeMap (List String) ByteArray
  folders : Std.TreeSet (List String)
  current : List String

namespace Storage

def split (path : String) : List String :=
  (Text.Lines.splitOn '/' path.toList).map String.ofList

def names (path : String) : List String :=
  (split path).filter fun n => n != "" && n != "."

def addFolder (s : Storage) (place : List String) : Storage :=
  { s with
    folders := (List.range (place.length + 1)).foldl (fun fs n => fs.insert (place.take n))
      s.folders }

def addFile (s : Storage) (place : List String) (content : ByteArray) : Storage :=
  let s := s.addFolder place.dropLast
  { s with files := s.files.insert place content }

def empty (current : List String) : Storage :=
  addFolder ⟨∅, ∅, current⟩ current

/-- What is in the current folder, by path. A path that ends in a slash is an empty folder. -/
def ofList (current : List String) (entries : List (String × ByteArray)) : Storage :=
  entries.foldl (fun s (path, content) =>
    let place := current ++ names path
    if path.endsWith "/" then s.addFolder place else s.addFile place content) (empty current)

/-- One name further; nothing is inside a file. -/
def enter (s : Storage) (place : List String) (name : String) : Option (List String) :=
  if place ∉ s.folders then none
  else if name = "" ∨ name = "." then some place
  else if name = ".." then some place.dropLast
  else
    let place := place ++ [name]
    if place ∈ s.files ∨ place ∈ s.folders then some place else none

def start (s : Storage) (path : String) : List String :=
  if path.startsWith "/" then [] else s.current

def resolve? (s : Storage) (path : String) : Option (List String) :=
  if path = "" then none else (split path).foldlM s.enter (s.start path)

def isFolder (s : Storage) (path : String) : Bool :=
  match s.resolve? path with
  | some place => place ∈ s.folders
  | none => false

def file? (s : Storage) (path : String) : Option ByteArray := do
  s.files[← s.resolve? path]?

def text? (s : Storage) (path : String) : Option String := do
  String.fromUTF8? (← s.file? path)

def join (path : String) (names : List String) : String :=
  path ++ (if path.endsWith "/" then "" else "/") ++ "/".intercalate names

/-- The files in a folder and all folders below, in order, each by the path that leads through the
folder. -/
def walk (s : Storage) (path : String) : List String :=
  match s.resolve? path with
  | none => []
  | some place =>
    (s.files.keys.filter place.isPrefixOf).map fun p => join path (p.drop place.length)

/-- What follows the last point in the name that a path ends in, unless nothing else comes before
that point. -/
def extension? (path : String) : Option String :=
  match (names path).getLast? with
  | none | some ".." => none
  | some name =>
    match (Text.Lines.splitOn '.' name.toList).reverse with
    | [] | [_] | [_, []] => none
    | e :: _ => some (String.ofList e)

def place (s : Storage) (path : String) : List String :=
  (names path).foldl (fun at_ name => if name = ".." then at_.dropLast else at_ ++ [name])
    (s.start path)

end Storage

end Retrieval
