/-!
Lists of entries by key. An entry keeps its place when its value is replaced, and a new key goes to
the end, so the order of the keys is the order in which they first came.
-/
namespace Counterpart.Keyed

variable {κ α : Type} [DecidableEq κ]

def set (key : κ) (value : α) : List (κ × α) → List (κ × α)
  | [] => [(key, value)]
  | (k, v) :: rest => if k = key then (k, value) :: rest else (k, v) :: set key value rest

def get? (key : κ) : List (κ × α) → Option α
  | [] => none
  | (k, v) :: rest => if k = key then some v else get? key rest

def keys (entries : List (κ × α)) : List κ := entries.map (·.1)

def ofList (entries : List (κ × α)) : List (κ × α) :=
  entries.foldl (fun sofar entry => set entry.1 entry.2 sofar) []

theorem get?_set_self (key : κ) (value : α) (entries : List (κ × α)) :
    get? key (set key value entries) = some value := by
  induction entries with
  | nil => simp [set, get?]
  | cons entry rest ih =>
    obtain ⟨k, v⟩ := entry
    by_cases same : k = key <;> simp [set, get?, same, ih]

theorem get?_set_of_ne {key other : κ} (different : other ≠ key) (value : α) (entries : List (κ × α)) :
    get? other (set key value entries) = get? other entries := by
  induction entries with
  | nil => simp [set, get?, Ne.symm different]
  | cons entry rest ih =>
    obtain ⟨k, v⟩ := entry
    by_cases same : k = key
    · subst same; simp [set, get?, Ne.symm different]
    · by_cases found : k = other
      · subst found; simp [set, get?, different]
      · simp [set, get?, same, found, ih]

theorem keys_set (key : κ) (value : α) (entries : List (κ × α)) :
    keys (set key value entries) = if key ∈ keys entries then keys entries else keys entries ++ [key] := by
  induction entries with
  | nil => simp [set, keys]
  | cons entry rest ih =>
    obtain ⟨k, v⟩ := entry
    by_cases same : k = key
    · subst same; simp [set, keys]
    · simp only [keys] at ih
      simp only [set, same, if_false, keys, List.map_cons, ih, List.mem_cons, Ne.symm same, false_or]
      split <;> simp [*]

end Counterpart.Keyed
