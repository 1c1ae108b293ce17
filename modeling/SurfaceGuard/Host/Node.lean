import SurfaceGuard.Host.Errno

/-!
# Nodes

A file system is a tree: a directory has entries, each a name with the node it leads to,
and every other node is a leaf.  Beside its content a node has a serial number, by which it
can be told from a later node at the same place, its permissions, and the time of its last
change.

Names are byte strings.  A node is reached along a list of names; looking up and changing
the node at such a location are recursions on the location.
-/

namespace SurfaceGuard

/-- The names that lead from the root to a node. -/
abbrev Location := List Bytes

/-- What a node can be used for. -/
inductive Permission where
  | read
  | write
  /-- To run a file, or to look up a name in a directory. -/
  | search
  deriving DecidableEq, Repr

/-- The devices of a system. -/
inductive Device where
  | null
  | zero
  | full
  | terminal
  /-- Whatever the descriptor of the process that opens the device leads to. -/
  | descriptor (number : Nat)
  deriving DecidableEq, Repr

/-- What a system keeps about a node beside its content. -/
structure Attributes where
  serial : Nat
  mode : Nat
  /-- The time of the last change, in nanoseconds since 1970, exactly.  A program that asks for it
  in milliseconds gets a floating-point number near it, so that times less than a microsecond apart
  may look the same to it; here they are told apart. -/
  modified : Int
  deriving DecidableEq, Repr

/-- A node of a file system. -/
inductive Node where
  | directory (attributes : Attributes) (entries : List (Bytes × Node))
  | file (attributes : Attributes) (content : Bytes)
  /-- A program that is part of the system. -/
  | program (attributes : Attributes) (name : Bytes)
  | device (attributes : Attributes) (kind : Device)

namespace Node

/-- What is kept about a node beside its content. -/
def attributes : Node → Attributes
  | directory a _ => a
  | file a _ => a
  | program a _ => a
  | device a _ => a

/-- The node with other attributes. -/
def withAttributes (a : Attributes) : Node → Node
  | directory _ entries => directory a entries
  | file _ content => file a content
  | program _ name => program a name
  | device _ kind => device a kind

/-- When the node was last changed. -/
def modified (n : Node) : Int := n.attributes.modified

/-- The node, changed at a time. -/
def touched (time : Int) (n : Node) : Node := n.withAttributes { n.attributes with modified := time }

/-- Is the node a directory? -/
def isDirectory : Node → Bool
  | directory .. => true
  | _ => false

/-- Is the node a regular file? -/
def isFile : Node → Bool
  | file .. => true
  | program .. => true
  | _ => false

/-- How many bytes a node holds; a directory and a program count as holding some. -/
def size : Node → Nat
  | file _ content => content.length
  | device .. => 0
  | _ => 4096

/-- May the owner of the node use it so? -/
def allows (n : Node) : Permission → Bool
  | .read => n.attributes.mode / 0o400 % 2 == 1
  | .write => n.attributes.mode / 0o200 % 2 == 1
  | .search => n.attributes.mode / 0o100 % 2 == 1

/-! ## Entries -/

/-- The entries of a node; only a directory has any. -/
def entries : Node → List (Bytes × Node)
  | directory _ entries => entries
  | _ => []

/-- The node under a name. -/
def entry? (n : Node) (name : Bytes) : Option Node := n.entries.lookup name

/-- The names of the entries, in ascending order. -/
def names (n : Node) : List Bytes := Ascii.sort (n.entries.map Prod.fst)

/-- Entries with a node under a name, which takes the place of the one that was there. -/
def putEntry (name : Bytes) (child : Node) : List (Bytes × Node) → List (Bytes × Node)
  | [] => [(name, child)]
  | e :: rest => if e.1 = name then (name, child) :: rest else e :: putEntry name child rest

/-- The directory with a node under a name. -/
def withEntry (name : Bytes) (child : Node) (time : Int) : Node → Node
  | directory a entries => directory { a with modified := time } (putEntry name child entries)
  | n => n

/-- The directory without the node under a name. -/
def withoutEntry (name : Bytes) (time : Int) : Node → Node
  | directory a entries => directory { a with modified := time } (entries.filter (·.1 ≠ name))
  | n => n

/-! ## Locations -/

/-- The node at a location below a node. -/
def find? : Node → Location → Option Node
  | n, [] => some n
  | n, name :: rest => (n.entry? name).bind fun child => child.find? rest

/-- The node with a change made to the one at a location below it; nothing changes where there is
none. -/
def change (f : Node → Node) : Location → Node → Node
  | [], n => f n
  | name :: rest, directory a entries =>
    directory a (entries.map fun e => if e.1 = name then (e.1, change f rest e.2) else e)
  | _ :: _, n => n

/-- The node with another one at a location below it, where directories are made on the way if there are
none. -/
def withNode (inner : Node) (onTheWay : Attributes) : Location → Node → Node
  | [], _ => inner
  | name :: rest, n =>
    let child := (n.entry? name).getD (directory onTheWay [])
    withEntry name (withNode inner onTheWay rest child) n.modified n

end Node

end SurfaceGuard
