set_option autoImplicit false

namespace StackCall

def Above : Option String → String → Prop
  | none, _ => True
  | some bound, key => bound < key

-- Entries in ascending order of their keys, all of which come after the bound.
inductive Entries (α : Type) : Option String → Type
  | nil {bound : Option String} : Entries α bound
  | cons {bound : Option String} (key : String) (above : Above bound key) (value : α)
      (rest : Entries α (some key)) : Entries α bound

abbrev Dict (α : Type) := Entries α none

theorem above_trans {bound : Option String} {lower key : String} (above : Above bound lower)
    (less : lower < key) : Above bound key := by
  cases bound with
  | none => trivial
  | some first => exact String.lt_trans above less

theorem key_after {name key : String} (different : ¬ name = key) (notBefore : ¬ name < key) :
    key < name :=
  Std.lt_of_le_of_ne (String.not_lt.mp notBefore) (Ne.symm different)

namespace Entries

variable {α β : Type}

def get? (name : String) {bound : Option String} : Entries α bound → Option α
  | .nil => none
  | .cons key _ value rest => if name = key then some value else rest.get? name

def toList {bound : Option String} : Entries α bound → List (String × α)
  | .nil => []
  | .cons key _ value rest => (key, value) :: rest.toList

def map (f : α → β) {bound : Option String} : Entries α bound → Entries β bound
  | .nil => .nil
  | .cons key above value rest => .cons key above (f value) (rest.map f)

def weaken {bound : Option String} {key : String} (above : Above bound key) :
    Entries α (some key) → Entries α bound
  | .nil => .nil
  | .cons next after value rest => .cons next (above_trans above after) value rest

def insertAbove (name : String) (value : α) {bound : Option String} (above : Above bound name) :
    Entries α bound → Entries α bound
  | .nil => .cons name above value .nil
  | .cons key keyAbove held rest =>
      if same : name = key then .cons key keyAbove value rest
      else if before : name < key then .cons name above value (.cons key before held rest)
      else .cons key keyAbove held (insertAbove name value (key_after same before) rest)

def erase (name : String) {bound : Option String} : Entries α bound → Entries α bound
  | .nil => .nil
  | .cons key above value rest =>
      if name = key then rest.weaken above else .cons key above value (rest.erase name)

def contains (name : String) {bound : Option String} (entries : Entries α bound) : Bool :=
  (entries.get? name).isSome

def keys {bound : Option String} (entries : Entries α bound) : List String :=
  entries.toList.map Prod.fst

def size {bound : Option String} (entries : Entries α bound) : Nat :=
  entries.toList.length

def isEmpty {bound : Option String} : Entries α bound → Bool
  | .nil => true
  | .cons .. => false

theorem get?_bound {key name : String} (entries : Entries α (some key)) (upTo : ¬ key < name) :
    entries.get? name = none := by
  cases entries with
  | nil => rfl
  | cons next after value rest =>
      have different : ¬ name = next := fun same => upTo (same ▸ after)
      rw [get?, if_neg different]
      exact get?_bound rest fun before => upTo (String.lt_trans after before)

theorem get?_weaken {bound : Option String} {key : String} (above : Above bound key)
    (entries : Entries α (some key)) (name : String) :
    (entries.weaken above).get? name = entries.get? name := by
  cases entries <;> rfl

theorem get?_insert_above {bound : Option String} (name : String) (value : α)
    (above : Above bound name) (entries : Entries α bound) (other : String) :
    (entries.insertAbove name value above).get? other =
      if other = name then some value else entries.get? other := by
  cases entries with
  | nil => rfl
  | cons key keyAbove held rest =>
      by_cases same : name = key
      · subst name
        rw [insertAbove, dif_pos rfl, get?, get?]
        by_cases found : other = key
        · rw [if_pos found, if_pos found]
        · rw [if_neg found, if_neg found, if_neg found]
      · by_cases before : name < key
        · rw [insertAbove, dif_neg same, dif_pos before]
          rfl
        · rw [insertAbove, dif_neg same, dif_neg before, get?, get?]
          by_cases found : other = key
          · have different : ¬ other = name := fun equal => same (equal ▸ found)
            rw [if_pos found, if_neg different, if_pos found]
          · rw [if_neg found, if_neg found]
            exact get?_insert_above name value _ rest other

theorem get?_erase {bound : Option String} (name : String) (entries : Entries α bound)
    (other : String) :
    (entries.erase name).get? other = if other = name then none else entries.get? other := by
  cases entries with
  | nil => simp only [erase, get?, ite_self]
  | cons key above value rest =>
      by_cases same : name = key
      · subst name
        rw [erase, if_pos rfl, get?_weaken, get?]
        by_cases found : other = key
        · rw [if_pos found, found]
          exact get?_bound rest (String.lt_irrefl key)
        · rw [if_neg found, if_neg found]
      · rw [erase, if_neg same, get?, get?]
        by_cases found : other = key
        · have different : ¬ other = name := fun equal => same (equal ▸ found)
          rw [if_pos found, if_neg different, if_pos found]
        · rw [if_neg found, if_neg found]
          exact get?_erase name rest other

theorem ext {bound : Option String} {left right : Entries α bound}
    (agree : ∀ name, left.get? name = right.get? name) : left = right := by
  cases left with
  | nil =>
      cases right with
      | nil => rfl
      | cons key above value rest =>
          have found := agree key
          rw [get?, get?, if_pos rfl] at found
          exact nomatch found
  | cons key above value rest =>
      cases right with
      | nil =>
          have found := agree key
          rw [get?, get?, if_pos rfl] at found
          exact nomatch found
      | cons next nextAbove held others =>
          have atKey := agree key
          have atNext := agree next
          rw [get?, get?, if_pos rfl] at atKey
          rw [get?, get?, if_pos (rfl : next = next)] at atNext
          have same : key = next := by
            by_cases equal : key = next
            · exact equal
            · rw [if_neg equal] at atKey
              rw [if_neg (Ne.symm equal)] at atNext
              by_cases before : key < next
              · rw [get?_bound others (String.lt_asymm before)] at atKey
                exact nomatch atKey
              · rw [get?_bound rest before] at atNext
                exact nomatch atNext
          subst next
          rw [if_pos rfl] at atKey
          have sameValue : value = held := Option.some.inj atKey
          have sameRest : rest = others := by
            apply ext
            intro name
            by_cases found : name = key
            · rw [found, get?_bound rest (String.lt_irrefl key),
                get?_bound others (String.lt_irrefl key)]
            · have step := agree name
              rwa [get?, get?, if_neg found, if_neg found] at step
          rw [sameValue, sameRest]

def insert (dict : Dict α) (name : String) (value : α) : Dict α :=
  dict.insertAbove name value trivial

def insertNew (dict : Dict α) (name : String) (value : α) : Dict α :=
  if dict.contains name then dict else dict.insert name value

theorem get?_insert (dict : Dict α) (name : String) (value : α) (other : String) :
    (dict.insert name value).get? other = if other = name then some value else dict.get? other :=
  @get?_insert_above α none name value trivial dict other

theorem get?_insert_new (dict : Dict α) (name : String) (value : α) (other : String) :
    (dict.insertNew name value).get? other =
      if other = name then some ((dict.get? name).getD value) else dict.get? other := by
  rw [insertNew, contains]
  cases found : dict.get? name with
  | none => exact get?_insert dict name value other
  | some held =>
      rw [Option.isSome_some, if_pos rfl]
      by_cases same : other = name
      · rw [if_pos same, same, found, Option.getD_some]
      · rw [if_neg same]

end Entries

namespace Dict

variable {α : Type}

def empty : Dict α := .nil

-- The entries of a list; of two entries with one key the later one stands.
def ofList (entries : List (String × α)) : Dict α :=
  entries.foldl (fun dict entry => dict.insert entry.1 entry.2) empty

end Dict

end StackCall
