import StackCall.Dict

set_option autoImplicit false

namespace StackCall

namespace Entries

variable {α : Type}

theorem keys_cons {bound : Option String} (key : String) (above : Above bound key) (value : α)
    (rest : Entries α (some key)) : (cons key above value rest).keys = key :: rest.keys := rfl

theorem mem_keys_iff {bound : Option String} (entries : Entries α bound) (name : String) :
    name ∈ entries.keys ↔ (entries.get? name).isSome = true := by
  induction entries with
  | nil => simp [keys, toList, get?]
  | cons key above value rest ih =>
      rw [keys_cons, List.mem_cons, ih, get?]
      by_cases same : name = key
      · simp only [same, if_pos, true_or, Option.isSome_some]
      · simp only [same, if_false, false_or]

theorem lt_of_mem_keys {key name : String} (entries : Entries α (some key))
    (member : name ∈ entries.keys) : key < name := by
  by_cases less : key < name
  · exact less
  · have found := (mem_keys_iff entries name).mp member
    rw [get?_bound entries less] at found
    exact nomatch found

theorem keys_ascending {bound : Option String} (entries : Entries α bound) :
    entries.keys.Pairwise (· < ·) := by
  induction entries with
  | nil => exact .nil
  | cons key above value rest ih =>
      exact .cons (fun name member => lt_of_mem_keys rest member) ih

theorem keys_nodup {bound : Option String} (entries : Entries α bound) : entries.keys.Nodup :=
  entries.keys_ascending.imp Std.ne_of_lt

theorem mem_to_list_of_get? {bound : Option String} {entries : Entries α bound}
    {name : String} {value : α} (found : entries.get? name = some value) :
    (name, value) ∈ entries.toList := by
  induction entries with
  | nil => cases found
  | cons key above held rest ih =>
      rw [get?] at found
      by_cases same : name = key
      · rw [if_pos same] at found
        rw [same, ← Option.some.inj found]
        exact List.mem_cons_self
      · rw [if_neg same] at found
        exact List.mem_cons_of_mem _ (ih found)

theorem get?_map {β : Type} (f : α → β) {bound : Option String} (entries : Entries α bound)
    (name : String) : (entries.map f).get? name = (entries.get? name).map f := by
  induction entries with
  | nil => rfl
  | cons key above value rest ih =>
      rw [map, get?, get?]
      by_cases same : name = key
      · rw [if_pos same, if_pos same, Option.map_some]
      · rw [if_neg same, if_neg same, ih]

end Entries

namespace Dict

variable {α : Type}

theorem get?_empty (name : String) : (empty : Dict α).get? name = none := rfl

-- The induction moves the front entry into the dictionary, where any later entry of its name
-- takes its place; so the list is searched from its end, and the dictionary last.
theorem get?_foldl_insert (entries : List (String × α)) (dict : Dict α) (name : String) :
    (entries.foldl (fun dict entry => dict.insert entry.1 entry.2) dict).get? name =
      (entries.reverse.lookup name).or (dict.get? name) := by
  induction entries generalizing dict with
  | nil => rfl
  | cons entry rest ih =>
      rw [List.foldl_cons, ih, Entries.get?_insert, List.reverse_cons, List.lookup_append,
        Option.or_assoc]
      congr 1
      obtain ⟨key, value⟩ := entry
      by_cases same : name = key
      · rw [if_pos same, same, List.lookup_cons_self]
        rfl
      · rw [if_neg same, List.lookup_cons, beq_false_of_ne same]
        rfl

theorem get?_of_list (entries : List (String × α)) (name : String) :
    (ofList entries).get? name = entries.reverse.lookup name := by
  rw [ofList, get?_foldl_insert, get?_empty, Option.or_none]

theorem get?_of_list_eq_none_iff (entries : List (String × α)) (name : String) :
    (ofList entries).get? name = none ↔ name ∉ entries.map Prod.fst := by
  rw [get?_of_list, List.lookup_eq_none_iff]
  simp only [List.mem_reverse, List.mem_map, not_exists, not_and, bne_iff_ne, ne_eq]
  exact ⟨fun absent entry member same => absent entry member same.symm,
    fun absent entry member same => absent entry member same.symm⟩

theorem get?_of_list_of_mem {entries : List (String × α)} {name : String} {value : α}
    (distinct : (entries.map Prod.fst).Nodup) (member : (name, value) ∈ entries) :
    (ofList entries).get? name = some value := by
  rw [get?_of_list, List.lookup_eq_some_iff]
  obtain ⟨later, earlier, split⟩ := List.append_of_mem (List.mem_reverse.mpr member)
  refine ⟨later, earlier, split, ?_⟩
  intro entry entryLater
  have parts : ((later ++ (name, value) :: earlier).map Prod.fst).Nodup := by
    rw [← split, List.map_reverse]
    exact (List.reverse_perm _).nodup_iff.mpr distinct
  rw [List.map_append, List.map_cons, List.nodup_append] at parts
  have different := parts.2.2 entry.1 (List.mem_map_of_mem entryLater) name (by simp)
  simpa using Ne.symm different

theorem of_list_to_list (dict : Dict α) : ofList dict.toList = dict := by
  apply Entries.ext
  intro name
  cases found : dict.get? name with
  | some value =>
      exact get?_of_list_of_mem dict.keys_nodup (Entries.mem_to_list_of_get? found)
  | none =>
      rw [get?_of_list_eq_none_iff]
      intro member
      have present := (dict.mem_keys_iff name).mp member
      rw [found] at present
      cases present

end Dict

end StackCall
