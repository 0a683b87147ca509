import EnvBundle.World.Files

/-!
A world of listed files and directories. A path is walked from the root or from the current
directory; whatever has something listed below it is a directory.
-/
namespace EnvBundle

structure FileTree where
  /-- The names from the root down, and what is there. -/
  listed : List (List Bytes × Node)
  current : List Bytes
  accountHome : Option Path

namespace FileTree

/-- The first entry of a place counts. -/
def node? (tree : FileTree) (place : List Bytes) : Option Node :=
  match tree.listed.find? fun entry => entry.1 == place with
  | some entry => some entry.2
  | none =>
    if tree.listed.any fun entry => place.isPrefixOf entry.1 then some .directory else none

/-- The longest path, in bytes. -/
def pathLimit : Nat := 4095

/-- Goes through the parts of a path. Every part, an empty one included, has to start from a
directory. -/
def walk (tree : FileTree) (place : List Bytes) : List Bytes → Except SystemFault Node
  | [] =>
    match tree.node? place with
    | some node => .ok node
    | none => .error .absent
  | part :: rest =>
    match tree.node? place with
    | none => .error .absent
    | some (.folder _) =>
      if part = [] ∨ part = [46] then tree.walk place rest
      else if part = [46, 46] then tree.walk place.dropLast rest
      else if Path.nameLimit < part.length then .error .nameTooLong
      else tree.walk (place ++ [part]) rest
    | some _ => .error .belowFile

def look (tree : FileTree) (path : Path) : Except SystemFault Node :=
  if 0 ∈ path then .error .nulInPath
  else if path = [] then .error .absent
  else if pathLimit < path.length then .error .nameTooLong
  else
    let start := if path.head? = some Path.separator then [] else tree.current
    tree.walk start (Path.parts path)

/-- The world with these files and no others. -/
def world (tree : FileTree) : World := ⟨tree.look, tree.accountHome⟩

end FileTree

end EnvBundle
