import StackCall.Binding
import StackCall.Pages

set_option autoImplicit false

namespace StackCall

def longest : List String → Nat
  | [] => 0
  | name :: rest => max name.length (longest rest)

def freshName (names : List String) : String :=
  String.ofList (List.replicate (longest names + 1) '\x00')

-- Names that came into a map together, in the order in which they were added. The round is not
-- known as long as the map is a literal that a function makes anew whenever it is called.
structure Batch where
  round : Option Nat
  place : Nat
  names : List String

namespace Batch

def toValue (batch : Batch) : Value :=
  let round : Value :=
    match batch.round with
    | some round => .long (Int64.ofNat round)
    | none => .null
  .list (round :: .long (Int64.ofNat batch.place) :: batch.names.map .string)

def ofValue? : Value → Option Batch
  | .list (round :: .long place :: names) =>
      some ⟨round.long?.map Int64.toNatClampNeg, place.toNatClampNeg, names.filterMap Value.string?⟩
  | _ => none

def stamp (batch : Batch) : Stamp := ⟨batch.round.getD 0, batch.place⟩

end Batch

-- A value does not tell where it comes from, so a map that is followed through many calls carries
-- its history in an entry of its own, the mark, which binding and copying leave alone.
abbrev History := List Batch

namespace History

def toValue (history : History) : Value := .list (history.map Batch.toValue)

def ofMap (mark : String) (entries : Dict Value) : History :=
  match entries.get? mark with
  | some (.list batches) => batches.filterMap Batch.ofValue?
  | _ => []

def pages (history : History) : Pages :=
  history.foldl (fun pages batch => batch.names.foldl (Pages.add batch.stamp) pages) .empty

-- The history after a round. Literals belong to the round; names that are new in the map came in
-- the given order. No literal has the place 0.
def after (history : History) (round : Nat) (order : List String) (entries : Dict Value) :
    History :=
  let settled : History :=
    history.map fun batch => { batch with round := some (batch.round.getD round) }
  let known := settled.flatMap Batch.names
  match order.filter fun name => entries.contains name && !known.contains name with
  | [] => settled
  | fresh => settled ++ [⟨some round, 0, fresh⟩]

end History

def Declaration.bindingOrder (declaration : Declaration) : List String :=
  (declaration.required.reverse ++ declaration.optional).map Parameter.name

mutual
-- Brings the marks up to date after a round in which names were bound in the given order. All new
-- maps of a round are copies of the one that was bound.
def Value.settle (mark : String) (round : Nat) (order : List String) : Value → Value
  | .list items => .list (settleItems mark round order items)
  | .map entries =>
      let history := (History.ofMap mark entries).after round order entries
      .map (Entries.insert (settleEntries mark round order entries) mark history.toValue)
  | value => value
def settleItems (mark : String) (round : Nat) (order : List String) : List Value → List Value
  | [] => []
  | value :: rest => value.settle mark round order :: settleItems mark round order rest
def settleEntries (mark : String) (round : Nat) (order : List String) {bound : Option String} :
    Entries Value bound → Entries Value bound
  | .nil => .nil
  | .cons key above value rest =>
      .cons key above (value.settle mark round order) (settleEntries mark round order rest)
end

def Stack.settle (mark : String) (round : Nat) (order : List String) (stack : Stack) : Stack :=
  ⟨settleItems mark round order stack.levels⟩

-- The names of the entries that two marked maps share. The marks are never compared.
def sharedNames (mark : String) (left right : Dict Value) : List String :=
  mark :: (History.ofMap mark left).pages.common (History.ofMap mark right).pages

end StackCall
