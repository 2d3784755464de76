set_option autoImplicit false

namespace StackCall

-- Keys that came into one map together have one stamp, and no others have it.
structure Stamp where
  round : Nat
  place : Nat
  deriving DecidableEq

-- The pages on which the keys of a map lie. Adding a key writes the pages on the way to its place
-- anew and leaves the others as they were, so a map and those made from it have pages in common.
mutual
inductive Pages where
  | empty
  | page (stamp : Stamp) (row : Row)
inductive Row where
  | last (child : Pages)
  | entry (child : Pages) (key : String) (rest : Row)
end

def pageCapacity : Nat := 64

inductive Growth where
  | whole (pages : Pages)
  | halves (left : Pages) (middle : String) (right : Pages)

namespace Row

def keyCount : Row → Nat
  | .last _ => 0
  | .entry _ _ rest => rest.keyCount + 1

def split : Nat → Row → Option (Row × String × Row)
  | _, .last _ => none
  | 0, .entry child key rest => some (.last child, key, rest)
  | count + 1, .entry child key rest =>
      (rest.split count).map fun (left, middle, right) => (.entry child key left, middle, right)

def written (stamp : Stamp) (row : Row) : Growth :=
  if row.keyCount ≤ pageCapacity then .whole (.page stamp row)
  else
    match row.split (pageCapacity / 2) with
    | some (left, middle, right) => .halves (.page stamp left) middle (.page stamp right)
    | none => .whole (.page stamp row)

end Row

mutual
def Pages.grow (stamp : Stamp) (fresh : String) : Pages → Growth
  | .empty => .halves .empty fresh .empty
  | .page _ row => (row.grow stamp fresh).written stamp
def Row.grow (stamp : Stamp) (fresh : String) : Row → Row
  | .last child =>
      match child.grow stamp fresh with
      | .whole grown => .last grown
      | .halves left middle right => .entry left middle (.last right)
  | .entry child key rest =>
      if fresh < key then
        match child.grow stamp fresh with
        | .whole grown => .entry grown key rest
        | .halves left middle right => .entry left middle (.entry right key rest)
      else .entry child key (rest.grow stamp fresh)
end

-- Adds a key that is not there. When the page at the top is halved, a page with the key taken out
-- comes on top of the halves.
def Pages.add (stamp : Stamp) (pages : Pages) (fresh : String) : Pages :=
  match pages.grow stamp fresh with
  | .whole grown => grown
  | .halves left middle right => .page stamp (.entry left middle (.last right))

mutual
def Pages.keys : Pages → List String
  | .empty => []
  | .page _ row => row.keys
def Row.keys : Row → List String
  | .last child => child.keys
  | .entry child key rest => child.keys ++ key :: rest.keys
end

inductive Stop where
  | page (stamp : Stamp) (row : Row)
  | key (name : String)

def Pages.stops : Pages → List Stop
  | .empty => []
  | .page stamp row => [.page stamp row]

def Row.stops : Row → List Stop
  | .last child => child.stops
  | .entry child key rest => child.stops ++ .key key :: rest.stops

def Row.firstKey? : Row → Option String
  | .last _ => none
  | .entry _ key _ => some key

mutual
def Pages.weight : Pages → Nat
  | .empty => 0
  | .page _ row => row.weight + 1
def Row.weight : Row → Nat
  | .last child => child.weight
  | .entry child _ rest => child.weight + (rest.weight + 1)
end

def Stop.weight : Stop → Nat
  | .page _ row => row.weight + 1
  | .key _ => 1

def walkWeight : List Stop → Nat
  | [] => 0
  | stop :: rest => stop.weight + walkWeight rest

theorem walk_weight_append (front back : List Stop) :
    walkWeight (front ++ back) = walkWeight front + walkWeight back := by
  induction front with
  | nil => rw [List.nil_append, walkWeight, Nat.zero_add]
  | cons stop rest ih => rw [List.cons_append, walkWeight, walkWeight, ih, Nat.add_assoc]

theorem walk_weight_pages (pages : Pages) : walkWeight pages.stops = pages.weight := by
  cases pages with
  | empty => rw [Pages.stops, Pages.weight]; rfl
  | page stamp row => rw [Pages.stops, Pages.weight]; rfl

theorem walk_weight_row (row : Row) : walkWeight row.stops = row.weight := by
  cases row with
  | last child => rw [Row.stops, Row.weight, walk_weight_pages]
  | entry child key rest =>
      rw [Row.stops, Row.weight, walk_weight_append, walk_weight_pages, walkWeight,
        walk_weight_row rest, Stop.weight, Nat.add_comm 1]

-- The keys on pages that two walks come to at the same time. Of two pages the walks go into the one
-- with the lesser first key, or into both; they pass over a page that is the same in both.
def commonKeys : List Stop → List Stop → List String
  | .page stamp row :: left, .page other line :: right =>
      match row.firstKey?, line.firstKey? with
      | some first, some second =>
          if first = second then
            if stamp = other then row.keys ++ commonKeys left right
            else commonKeys (row.stops ++ left) (line.stops ++ right)
          else if first < second then commonKeys (row.stops ++ left) (.page other line :: right)
          else commonKeys (.page stamp row :: left) (line.stops ++ right)
      | _, _ => []
  | .page _ row :: left, .key name :: right => commonKeys (row.stops ++ left) (.key name :: right)
  | .key name :: left, .page _ line :: right => commonKeys (.key name :: left) (line.stops ++ right)
  | .key _ :: left, .key _ :: right => commonKeys left right
  | [], _ => []
  | _, [] => []
termination_by left right => walkWeight left + walkWeight right
decreasing_by
  all_goals
    simp only [walkWeight, walk_weight_append, walk_weight_row, Stop.weight]
    omega

def Pages.common (left right : Pages) : List String := commonKeys left.stops right.stops

end StackCall
