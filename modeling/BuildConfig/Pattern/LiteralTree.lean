namespace BuildConfig.Pattern

mutual

/-- Literals that share their starts. -/
inductive LiteralTree where
  | node (edges : Edges)

/-- The ways on from a place in literals. A stop is where a literal ends; the literals after a stop
come later in the choice and share nothing with those before it. -/
inductive Edges where
  | done
  | stop (rest : Edges)
  | edge (byte : UInt8) (next : LiteralTree) (rest : Edges)

end

namespace Edges

def hasStop : Edges → Bool
  | .done => false
  | .stop _ => true
  | .edge _ _ rest => rest.hasStop

def hasEdge : Edges → Bool
  | .done => false
  | .stop rest => rest.hasEdge
  | .edge _ _ _ => true

/-- Changes what comes after a byte, among the edges after the last stop; they are in order. -/
def update (byte : UInt8) (change : LiteralTree → LiteralTree) : Edges → Edges
  | .done => .edge byte (change (.node .done)) .done
  | .stop rest => .stop (rest.update byte change)
  | .edge found next rest =>
    if rest.hasStop || found < byte then .edge found next (rest.update byte change)
    else if found = byte then .edge found (change next) rest
    else .edge byte (change (.node .done)) (.edge found next rest)

/-- Ends a literal here. -/
def addStop : Edges → Edges
  | .done => .stop .done
  | .stop rest => .stop rest.addStop
  | .edge byte next rest => .edge byte next rest.addStop

end Edges

namespace LiteralTree

/-- Adds a literal. A place without ways on does not need to be marked twice. -/
def insert : List UInt8 → LiteralTree → LiteralTree
  | [], .node edges =>
    if edges.hasStop && !edges.hasEdge then .node edges else .node edges.addStop
  | byte :: rest, .node edges => .node (edges.update byte (insert rest))

def ofTexts (texts : List (List UInt8)) : LiteralTree :=
  texts.foldl (fun tree text => tree.insert text) (.node .done)

end LiteralTree

/-- How many states an automaton has for literals, with how many transitions and successors in their
lists. -/
structure TreeSize where
  states : Nat
  transitions : Nat
  successors : Nat

namespace TreeSize

def add (a b : TreeSize) : TreeSize :=
  ⟨a.states + b.states, a.transitions + b.transitions, a.successors + b.successors⟩

/-- A state for edges between stops, which a choice leads to. The transition of a single edge
needs no list. -/
def ofEdges (count : Nat) : TreeSize :=
  if count = 0 then ⟨0, 0, 0⟩
  else if count = 1 then ⟨1, 0, 1⟩
  else ⟨1, count, 1⟩

end TreeSize

mutual

/-- A place with ways on is a choice; one without is the end of all literals. -/
def LiteralTree.size : LiteralTree → TreeSize
  | .node edges => if edges.hasEdge then .add ⟨1, 0, 0⟩ (edges.size 0) else ⟨0, 0, 0⟩

/-- The edges from here on, with the number of edges since the last stop. -/
def Edges.size (count : Nat) : Edges → TreeSize
  | .done => .ofEdges count
  | .stop rest => .add (.ofEdges count) (.add ⟨0, 0, 1⟩ (rest.size 0))
  | .edge _ next rest => .add next.size (rest.size (count + 1))

end

end BuildConfig.Pattern
