/-!
# Tables

A finite map as a list of entries with distinct keys. `get?` reads a table, and each operation is
described by what it does to `get?`.
-/
namespace Gasometer

/-- Keys of which every one but the first of its kind is left out are distinct. -/
theorem nodup_eraseDups {κ : Type} [BEq κ] [LawfulBEq κ] : ∀ l : List κ, l.eraseDups.Nodup
  | [] => List.nodup_nil
  | k :: r => by
    rw [List.eraseDups_cons]
    exact List.nodup_cons.2 ⟨by simp [List.mem_eraseDups], nodup_eraseDups _⟩
termination_by l => l.length
decreasing_by exact Nat.lt_succ_of_le (List.length_filter_le _ _)

/-- A finite map from `κ` to `ν`. -/
structure Table (κ ν : Type) [DecidableEq κ] where
  entries : List (κ × ν)
  nodup : (entries.map Prod.fst).Nodup

namespace Table

variable {κ ν : Type} [DecidableEq κ]

def lookup (k : κ) : List (κ × ν) → Option ν
  | [] => none
  | (k', v) :: r => if k' = k then some v else lookup k r

/-- Sets the value of a key in a list of entries that has it. -/
def overwrite (k : κ) (v : ν) : List (κ × ν) → List (κ × ν)
  | [] => []
  | (k', v') :: r => if k' = k then (k, v) :: r else (k', v') :: overwrite k v r

theorem map_fst_overwrite (k : κ) (v : ν) (l : List (κ × ν)) :
    (overwrite k v l).map Prod.fst = l.map Prod.fst := by
  induction l with
  | nil => rfl
  | cons e r ih =>
    obtain ⟨k', v'⟩ := e
    by_cases h : k' = k <;> simp [overwrite, h, ih]

theorem lookup_eq_none {k : κ} {l : List (κ × ν)} : lookup k l = none ↔ k ∉ l.map Prod.fst := by
  induction l with
  | nil => simp [lookup]
  | cons e r ih =>
    obtain ⟨k', v'⟩ := e
    by_cases h : k' = k
    · simp [lookup, h]
    · simp only [lookup, h, if_false, ih, List.map_cons, List.mem_cons, not_or]
      exact ⟨fun hr => ⟨fun he => h he.symm, hr⟩, fun hr => hr.2⟩

theorem lookup_overwrite (k k' : κ) (v : ν) (l : List (κ × ν)) :
    lookup k' (overwrite k v l) =
      if k = k' then (lookup k l).map fun _ => v else lookup k' l := by
  induction l with
  | nil => simp [lookup, overwrite]
  | cons e r ih =>
    obtain ⟨k₁, v₁⟩ := e
    by_cases h : k₁ = k <;> by_cases h' : k = k' <;> by_cases h'' : k₁ = k' <;>
      simp_all [lookup, overwrite]

def empty : Table κ ν := ⟨[], List.nodup_nil⟩

instance : Inhabited (Table κ ν) := ⟨empty⟩

def get? (t : Table κ ν) (k : κ) : Option ν := lookup k t.entries

def insert (t : Table κ ν) (k : κ) (v : ν) : Table κ ν :=
  if h : (t.get? k).isSome then
    ⟨overwrite k v t.entries, by rw [map_fst_overwrite]; exact t.nodup⟩
  else
    ⟨(k, v) :: t.entries, by
      have : lookup k t.entries = none := by simpa [get?] using h
      simp only [List.map_cons, List.nodup_cons]
      exact ⟨lookup_eq_none.1 this, t.nodup⟩⟩

def erase (t : Table κ ν) (k : κ) : Table κ ν :=
  ⟨t.entries.filter (fun e => decide (e.1 ≠ k)),
    t.nodup.sublist (List.Sublist.map _ List.filter_sublist)⟩

def size (t : Table κ ν) : Nat := t.entries.length

def keys (t : Table κ ν) : List κ := t.entries.map Prod.fst

def merge (t new : Table κ ν) : Table κ ν :=
  new.entries.foldr (fun e t => t.insert e.1 e.2) t

def same [DecidableEq ν] (s t : Table κ ν) : Bool :=
  s.size == t.size && s.entries.all fun e => t.get? e.1 == some e.2

@[simp] theorem get?_empty (k : κ) : (empty : Table κ ν).get? k = none := rfl

theorem get?_insert (t : Table κ ν) (k k' : κ) (v : ν) :
    (t.insert k v).get? k' = if k = k' then some v else t.get? k' := by
  unfold insert
  split
  · rename_i h
    obtain ⟨w, hw⟩ := Option.isSome_iff_exists.1 h
    have hw' : lookup k t.entries = some w := hw
    simp only [get?, lookup_overwrite, hw', Option.map_some]
  · simp only [get?, lookup]

@[simp] theorem get?_insert_self (t : Table κ ν) (k : κ) (v : ν) :
    (t.insert k v).get? k = some v := by simp [get?_insert]

theorem lookup_filter_ne (k k' : κ) (l : List (κ × ν)) :
    lookup k' (l.filter fun e => decide (e.1 ≠ k)) =
      if k = k' then none else lookup k' l := by
  induction l with
  | nil => simp [lookup]
  | cons e r ih =>
    obtain ⟨k₁, v₁⟩ := e
    by_cases h : k₁ = k <;> by_cases h' : k = k' <;> by_cases h'' : k₁ = k' <;>
      simp_all [lookup]

theorem get?_erase (t : Table κ ν) (k k' : κ) :
    (t.erase k).get? k' = if k = k' then none else t.get? k' :=
  lookup_filter_ne k k' t.entries

theorem get?_merge (t new : Table κ ν) (k : κ) :
    (t.merge new).get? k = (new.get? k).or (t.get? k) := by
  unfold merge get?
  generalize new.entries = l
  induction l with
  | nil => simp [lookup]
  | cons e r ih =>
    obtain ⟨k₁, v₁⟩ := e
    have := get?_insert (List.foldr (fun e t => insert t e.1 e.2) t r) k₁ k v₁
    simp only [get?] at this
    simp only [List.foldr_cons, this, lookup]
    split <;> simp_all

end Table
end Gasometer
