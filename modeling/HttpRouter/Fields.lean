/-!
# Fields

An association list that keeps the order in which its keys first came: setting a key that is there replaces its value in
place, setting a new one adds it at the end (`keys_set`). Headers, parameters, attributes and mappings are all kept
this way.
-/

namespace HttpRouter

/-- Keys with their values, in the order in which the keys came. -/
abbrev Fields (κ ν : Type) := List (κ × ν)

namespace Fields

variable {κ ν : Type} [BEq κ]

/-- The value of a key. -/
def get? (key : κ) : Fields κ ν → Option ν
  | [] => none
  | (k, v) :: rest => if key == k then some v else get? key rest

/-- Sets a key. -/
def set (key : κ) (value : ν) : Fields κ ν → Fields κ ν
  | [] => [(key, value)]
  | (k, v) :: rest => if key == k then (k, value) :: rest else (k, v) :: set key value rest

/-- Sets a key unless it is there. -/
def setDefault (key : κ) (value : ν) (fields : Fields κ ν) : Fields κ ν :=
  if (fields.get? key).isSome then fields else fields.set key value

section Laws

variable [LawfulBEq κ]

@[simp] theorem get?_set_self (key : κ) (value : ν) (fields : Fields κ ν) :
    Fields.get? key (Fields.set key value fields) = some value := by
  induction fields with
  | nil => simp [Fields.set, Fields.get?]
  | cons p rest ih =>
    obtain ⟨k, v⟩ := p
    by_cases h : key = k
    · simp [Fields.set, Fields.get?, h]
    · simp [Fields.set, Fields.get?, h, ih]

theorem get?_set_of_ne {key other : κ} (h : other ≠ key) (value : ν) (fields : Fields κ ν) :
    Fields.get? other (Fields.set key value fields) = Fields.get? other fields := by
  induction fields with
  | nil => simp [Fields.set, Fields.get?, h]
  | cons p rest ih =>
    obtain ⟨k, v⟩ := p
    by_cases hk : key = k
    · subst hk
      simp [Fields.set, Fields.get?, h]
    · by_cases ho : other = k
      · simp [Fields.set, Fields.get?, hk, ho]
      · simp [Fields.set, Fields.get?, hk, ho, ih]

/-- **Setting a key keeps the order of the keys**; a new one comes last. -/
theorem keys_set (key : κ) (value : ν) (fields : Fields κ ν) :
    (Fields.set key value fields).map (·.1) =
      if (Fields.get? key fields).isSome then fields.map (·.1) else fields.map (·.1) ++ [key] := by
  induction fields with
  | nil => simp [Fields.set, Fields.get?]
  | cons p rest ih =>
    obtain ⟨k, v⟩ := p
    by_cases h : key = k
    · simp [Fields.set, Fields.get?, h]
    · simp only [Fields.set, Fields.get?, beq_iff_eq, h, if_false, List.map_cons, ih]
      split <;> simp

/-- Setting a default leaves a value that is there. -/
theorem get?_setDefault_self (key : κ) (value : ν) (fields : Fields κ ν) :
    Fields.get? key (Fields.setDefault key value fields) = some ((Fields.get? key fields).getD value) := by
  unfold Fields.setDefault
  cases h : Fields.get? key fields with
  | none => simp
  | some v => simp [h]

/-- Setting a default leaves other keys alone. -/
theorem get?_setDefault_of_ne {key other : κ} (h : other ≠ key) (value : ν) (fields : Fields κ ν) :
    Fields.get? other (Fields.setDefault key value fields) = Fields.get? other fields := by
  unfold Fields.setDefault
  split
  · rfl
  · exact Fields.get?_set_of_ne h value fields

end Laws

/-- The first of two fields that has a key counts. -/
theorem get?_append (key : κ) (first rest : Fields κ ν) :
    Fields.get? key (first ++ rest) = (Fields.get? key first).or (Fields.get? key rest) := by
  induction first with
  | nil => rfl
  | cons p first ih =>
    rw [List.cons_append, Fields.get?, Fields.get?]
    split
    · rfl
    · exact ih

/-- So does the first of several. -/
theorem get?_flatten (key : κ) (fields : List (Fields κ ν)) :
    Fields.get? key fields.flatten = fields.findSome? (Fields.get? key) := by
  induction fields with
  | nil => rfl
  | cons first rest ih =>
    rw [List.flatten_cons, get?_append, ih, List.findSome?_cons]
    cases Fields.get? key first <;> rfl

/-- Sets pairs one after the other. -/
def ofPairs (pairs : List (κ × ν)) : Fields κ ν :=
  pairs.foldl (fun fields p => fields.set p.1 p.2) []

section Laws

variable [LawfulBEq κ]

/-- The last of several pairs with one key counts; a key without a pair keeps the value that it had. -/
theorem get?_foldl_set (key : κ) (pairs : List (κ × ν)) (fields : Fields κ ν) :
    Fields.get? key (pairs.foldl (fun fields p => fields.set p.1 p.2) fields) =
      (pairs.reverse.lookup key).or (Fields.get? key fields) := by
  induction pairs generalizing fields with
  | nil => rfl
  | cons p rest ih =>
    obtain ⟨k, v⟩ := p
    rw [List.foldl_cons, ih, List.reverse_cons, List.lookup_append, Option.or_assoc]
    by_cases h : key = k
    · subst h
      simp
    · have hk : (key == k) = false := beq_false_of_ne h
      simp [List.lookup_cons, hk, Fields.get?_set_of_ne h]

/-- **The last pair of a key counts.** -/
theorem get?_ofPairs (key : κ) (pairs : List (κ × ν)) :
    Fields.get? key (Fields.ofPairs pairs) = pairs.reverse.lookup key := by
  rw [Fields.ofPairs, get?_foldl_set, Fields.get?, Option.or_none]

/-- A key that is not there has no value. -/
theorem get?_isSome_iff (key : κ) (fields : Fields κ ν) :
    (Fields.get? key fields).isSome ↔ key ∈ fields.map (·.1) := by
  induction fields with
  | nil => simp [Fields.get?]
  | cons p rest ih =>
    obtain ⟨k, v⟩ := p
    by_cases h : key = k
    · simp [Fields.get?, h]
    · simp [Fields.get?, h, ih]

/-- Setting a key does not repeat a key. -/
theorem keys_set_nodup {fields : Fields κ ν} (h : (fields.map (·.1)).Nodup) (key : κ) (value : ν) :
    ((Fields.set key value fields).map (·.1)).Nodup := by
  rw [Fields.keys_set]
  split
  · exact h
  · next hk =>
    rw [get?_isSome_iff] at hk
    refine List.nodup_append.mpr ⟨h, by simp, ?_⟩
    rintro k hk' k' hk'' rfl
    obtain rfl := List.mem_singleton.mp hk''
    exact hk hk'

/-- A new key comes last. -/
theorem set_of_notMem {key : κ} {fields : Fields κ ν} (h : key ∉ fields.map (·.1)) (value : ν) :
    Fields.set key value fields = fields ++ [(key, value)] := by
  induction fields with
  | nil => rfl
  | cons p rest ih =>
    obtain ⟨k, v⟩ := p
    have hk : (key == k) = false := beq_false_of_ne fun e => h (e ▸ List.mem_cons_self)
    have hrest := ih fun hmem => h (List.mem_cons_of_mem _ hmem)
    rw [Fields.set, if_neg (Bool.eq_false_iff.mp hk), hrest, List.cons_append]

/-- New keys that are different come last, in order. -/
theorem foldl_set_of_nodup (fields : Fields κ ν) {pairs : List (κ × ν)} (h : ((fields ++ pairs).map (·.1)).Nodup) :
    pairs.foldl (fun fields p => Fields.set p.1 p.2 fields) fields = fields ++ pairs := by
  induction pairs generalizing fields with
  | nil => exact (List.append_nil fields).symm
  | cons p rest ih =>
    have hp : p.1 ∉ fields.map (·.1) := by
      rw [List.map_append, List.map_cons] at h
      exact fun hp => (List.nodup_append.mp h).2.2 p.1 hp p.1 List.mem_cons_self rfl
    rw [List.append_cons] at h ⊢
    rw [List.foldl_cons, set_of_notMem hp]
    exact ih _ h

/-- **Pairs with different keys are fields already.** -/
theorem ofPairs_of_nodup {pairs : List (κ × ν)} (h : (pairs.map (·.1)).Nodup) : Fields.ofPairs pairs = pairs :=
  foldl_set_of_nodup [] h

/-- **No key is repeated** in fields that come of setting pairs. -/
theorem keys_ofPairs_nodup (pairs : List (κ × ν)) : ((Fields.ofPairs pairs).map (·.1)).Nodup := by
  suffices h : ∀ fields : Fields κ ν, (fields.map (·.1)).Nodup →
      ((pairs.foldl (fun fields p => Fields.set p.1 p.2 fields) fields).map (·.1)).Nodup from h [] List.nodup_nil
  induction pairs with
  | nil => exact fun _ h => h
  | cons p rest ih => exact fun fields h => ih _ (keys_set_nodup h p.1 p.2)

end Laws

end Fields

end HttpRouter
