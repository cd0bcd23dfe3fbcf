/-!
Values kept per light id. The order of the entries carries no meaning.
-/

set_option autoImplicit false

namespace LightShow

structure LightTable (β : Type) where
  entries : List (String × β) := []
  /-- A light has at most one value. -/
  distinct : (entries.map (·.1)).Nodup := by simp
  deriving Repr

namespace LightTable

variable {β : Type}

def empty : LightTable β := {}

def get? (table : LightTable β) (light : String) : Option β :=
  (table.entries.find? fun entry => entry.1 = light).map (·.2)

def erase (table : LightTable β) (light : String) : LightTable β where
  entries := table.entries.filter fun entry => entry.1 ≠ light
  distinct := table.distinct.sublist (List.filter_sublist.map _)

def insert (table : LightTable β) (light : String) (value : β) : LightTable β where
  entries := (light, value) :: (table.erase light).entries
  distinct := by
    rw [List.map_cons, List.nodup_cons]
    exact ⟨by simp [erase], (table.erase light).distinct⟩

def size (table : LightTable β) : Nat :=
  table.entries.length

def isEmpty (table : LightTable β) : Bool :=
  table.entries.isEmpty

def lights (table : LightTable β) : List String :=
  table.entries.map (·.1)

/-- Later pairs win over earlier ones of the same light. -/
def ofList (pairs : List (String × β)) : LightTable β :=
  pairs.foldl (fun table pair => table.insert pair.1 pair.2) empty

@[simp]
theorem get?_empty (light : String) : (empty : LightTable β).get? light = none := rfl

@[simp]
theorem get?_erase_self (table : LightTable β) (light : String) :
    (table.erase light).get? light = none := by
  simp [get?, erase, List.find?_filter]

@[simp]
theorem get?_erase_of_ne (table : LightTable β) {light other : String} (h : other ≠ light) :
    (table.erase light).get? other = table.get? other := by
  rw [get?, erase, List.find?_filter, get?]
  congr 2
  funext entry
  by_cases hentry : entry.1 = other <;> simp [hentry, h]

@[simp]
theorem get?_insert_self (table : LightTable β) (light : String) (value : β) :
    (table.insert light value).get? light = some value := by
  simp [get?, insert]

@[simp]
theorem get?_insert_of_ne (table : LightTable β) {light other : String} (value : β)
    (h : other ≠ light) : (table.insert light value).get? other = table.get? other := by
  rw [← get?_erase_of_ne table h]
  simp [get?, insert, Ne.symm h]

end LightTable

end LightShow
