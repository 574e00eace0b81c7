import PluginNaming.Ordered.Sorted

set_option autoImplicit false

namespace PluginNaming.Ordered

open Std

variable {α β : Type} [Ord α]

abbrev Table (α β : Type) := List (α × β)

namespace Table

def set (key : α) (value : β) : Table α β → Table α β
  | [] => [(key, value)]
  | first :: rest =>
      match compare key first.1 with
      | .lt => (key, value) :: first :: rest
      | .eq => (key, value) :: rest
      | .gt => first :: set key value rest

def find? (key : α) : Table α β → Option β
  | [] => none
  | first :: rest => if compare key first.1 = .eq then some first.2 else find? key rest

def has (key : α) (table : Table α β) : Bool :=
  (table.find? key).isSome

def keys (table : Table α β) : List α :=
  table.map Prod.fst

def ofEntries (entries : List (α × β)) : Table α β :=
  entries.foldl (fun table entry => table.set entry.1 entry.2) []

theorem find_set_self [LawfulEqOrd α] (key : α) (value : β) (table : Table α β) :
    (table.set key value).find? key = some value := by
  induction table with
  | nil => simp [set, find?]
  | cons first rest hypothesis =>
      unfold set
      split
      · simp [find?]
      · simp [find?]
      · rename_i greater
        simp [find?, greater, hypothesis]

theorem find_set_other [LawfulEqOrd α] (key other : α) (value : β) (table : Table α β)
    (different : other ≠ key) : (table.set key value).find? other = table.find? other := by
  have apart : compare other key ≠ .eq := by simpa using different
  induction table with
  | nil => simp [set, find?, apart]
  | cons first rest hypothesis =>
      unfold set
      split
      · simp [find?, apart]
      · rename_i same
        have equal := LawfulEqCmp.eq_of_compare same
        simp [find?, apart, ← equal]
      · simp [find?, hypothesis]

end Table

end PluginNaming.Ordered
