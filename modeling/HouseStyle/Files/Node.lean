/-!
Contract: files and directories as a tree of nodes.

Owns: nodes, what lies at a place below a node, putting an entry at a place, and the files below a
node.
Does not own: paths and the ways in which following one fails, which `Files.Tree` treats.

A place is the list of names that leads to it from a node.
-/

namespace HouseStyle

/-- A file with its octets, or a directory with its entries by name. -/
inductive Node where
  | file (octets : List UInt8)
  | directory (children : List (String × Node))

namespace Node

/-- The directory without entries. -/
def emptyDirectory : Node :=
  .directory []

def child? (node : Node) (name : String) : Option Node :=
  match node with
  | .file _ => none
  | .directory children => children.lookup name

def at? : Node → List String → Option Node
  | node, [] => some node
  | node, name :: rest =>
    match node.child? name with
    | some child => at? child rest
    | none => none

/-- Entries with the one under the name set; a new name comes last. -/
def setEntry (name : String) (entry : Node) : List (String × Node) → List (String × Node)
  | [] => [(name, entry)]
  | (other, node) :: rest =>
    if other = name then (name, entry) :: rest else (other, node) :: setEntry name entry rest

/-- A node with an entry at a place; directories on the way are made as needed. -/
def put (entry : Node) : List String → Node → Node
  | [], _ => entry
  | name :: rest, .directory children =>
    let child := (children.lookup name).getD emptyDirectory
    .directory (setEntry name (put entry rest child) children)
  | name :: rest, .file _ => .directory [(name, put entry rest emptyDirectory)]

mutual

def files : Node → List (List String × List UInt8)
  | .file octets => [([], octets)]
  | .directory children => filesOfEntries children

def filesOfEntries : List (String × Node) → List (List String × List UInt8)
  | [] => []
  | (name, node) :: rest =>
    (files node).map (fun (place, octets) => (name :: place, octets)) ++ filesOfEntries rest

end

mutual

/-- The places below a node in the order of a listing: the names in a directory come before what is
inside them. -/
def places : Node → List (List String)
  | .file _ => []
  | .directory children => children.map (fun entry => [entry.1]) ++ placesOfEntries children

def placesOfEntries : List (String × Node) → List (List String)
  | [] => []
  | (name, node) :: rest =>
    (places node).map (fun place => name :: place) ++ placesOfEntries rest

end

mutual

/-- The directories below a node, itself among them, each before those inside it. -/
def directories : Node → List (List String)
  | .file _ => []
  | .directory children => [] :: directoriesOfEntries children

def directoriesOfEntries : List (String × Node) → List (List String)
  | [] => []
  | (name, node) :: rest =>
    (directories node).map (fun place => name :: place) ++ directoriesOfEntries rest

end

theorem lookup_setEntry (name : String) (entry : Node) (entries : List (String × Node)) :
    (setEntry name entry entries).lookup name = some entry := by
  induction entries with
  | nil => simp [setEntry]
  | cons head rest ih =>
    obtain ⟨other, node⟩ := head
    by_cases same : other = name
    · simp [setEntry, same]
    · have apart : (name == other) = false := by
        simp only [beq_eq_false_iff_ne, ne_eq]
        exact fun equal => same equal.symm
      simp [setEntry, same, List.lookup_cons, apart, ih]

/-- What was put at a place is there. -/
theorem at?_put (entry : Node) (place : List String) (node : Node) :
    at? (put entry place node) place = some entry := by
  induction place generalizing node with
  | nil => simp [put, at?]
  | cons name rest ih =>
    cases node with
    | file octets => simp [put, at?, child?, ih]
    | directory children => simp [put, at?, child?, lookup_setEntry, ih]

end Node

end HouseStyle
