/-!
# Entries in insertion order

A record whose keys are data is a list of key/value pairs: the order of the
pairs is the order in which keys were first put, and putting a key again
replaces the value where it stands.
-/

namespace Covenant

/-- **Entries**: pairs of a key and a value, in the order of insertion. -/
abbrev Entries (κ α : Type) := List (κ × α)

namespace Entries

variable {κ α β : Type} [BEq κ]

/-- The value under a key. -/
def get? (es : Entries κ α) (k : κ) : Option α := List.lookup k es

/-- Whether a key is present. -/
def has (es : Entries κ α) (k : κ) : Bool := (es.get? k).isSome

/-- Puts a value under a key: in place if the key is present, at the end if
it is new. -/
def put : Entries κ α → κ → α → Entries κ α
  | [], k, v => [(k, v)]
  | (k', v') :: es, k, v => if k' == k then (k', v) :: es else (k', v') :: put es k v

/-- Puts all pairs of a list, in order. -/
def putAll (es : Entries κ α) (more : List (κ × α)) : Entries κ α :=
  more.foldl (fun acc e => acc.put e.1 e.2) es

/-- The entries of a list of pairs in which a key may be repeated: it keeps
its first place and its last value. -/
def ofPairs (ps : List (κ × α)) : Entries κ α := putAll [] ps

/-- The entries without a key. -/
def erase (es : Entries κ α) (k : κ) : Entries κ α := es.filter (fun e => !(e.1 == k))

/-- The keys in order. -/
def keys (es : Entries κ α) : List κ := es.map Prod.fst

@[simp] theorem get?_nil (k : κ) : get? ([] : Entries κ α) k = none := rfl

@[simp] theorem put_nil (k : κ) (v : α) : put ([] : Entries κ α) k v = [(k, v)] := rfl

omit [BEq κ] in
@[simp] theorem keys_nil : keys ([] : Entries κ α) = [] := rfl

@[simp] theorem putAll_nil (es : Entries κ α) : es.putAll [] = es := rfl

/-- Putting one pair and then the rest is putting all of them. -/
@[simp] theorem putAll_cons (es : Entries κ α) (p : κ × α) (ps : List (κ × α)) :
    es.putAll (p :: ps) = (es.put p.1 p.2).putAll ps := rfl

/-- Looking a key up goes by the first entry. -/
theorem get?_cons (e : κ × α) (es : Entries κ α) (k : κ) :
    get? (e :: es) k = if k == e.1 then some e.2 else es.get? k := by
  unfold get?
  rw [List.lookup_cons]
  cases k == e.1 <;> rfl

/-- What was put under a key is found under it. -/
theorem get?_put_self [LawfulBEq κ] (es : Entries κ α) (k : κ) (v : α) :
    (es.put k v).get? k = some v := by
  induction es with
  | nil => simp [get?_cons]
  | cons e es ih =>
    rw [put]
    by_cases hk : e.1 = k
    · simp [hk, get?_cons]
    · rw [if_neg (by simpa using hk), get?_cons, if_neg (by simpa using fun h => hk h.symm)]
      exact ih

/-- What is found under other keys stays. -/
theorem get?_put_of_ne [LawfulBEq κ] (es : Entries κ α) {k k' : κ} (v : α) (h : k' ≠ k) :
    (es.put k v).get? k' = es.get? k' := by
  induction es with
  | nil => simp [get?_cons, h]
  | cons e es ih =>
    rw [put]
    by_cases hk : e.1 = k
    · simp [hk, get?_cons, h]
    · rw [if_neg (by simpa using hk), get?_cons, get?_cons, ih]

/-- What was erased is not found. -/
theorem get?_erase_self [LawfulBEq κ] (es : Entries κ α) (k : κ) : (es.erase k).get? k = none := by
  induction es with
  | nil => rfl
  | cons e es ih =>
    by_cases hk : e.1 = k
    · rw [erase, List.filter_cons_of_neg (by simpa using hk)]
      exact ih
    · have hne : ¬ k = e.1 := fun heq => hk heq.symm
      rw [erase, List.filter_cons_of_pos (by simpa using hk), get?_cons, if_neg (by simpa using hne)]
      exact ih

/-- What is found under other keys is not erased. -/
theorem get?_erase_of_ne [LawfulBEq κ] (es : Entries κ α) {k k' : κ} (h : k' ≠ k) :
    (es.erase k).get? k' = es.get? k' := by
  induction es with
  | nil => rfl
  | cons e es ih =>
    by_cases hk : e.1 = k
    · rw [erase, List.filter_cons_of_neg (by simpa using hk), get?_cons,
        if_neg (by simpa [hk] using h)]
      exact ih
    · rw [erase, List.filter_cons_of_pos (by simpa using hk), get?_cons, get?_cons]
      exact congrArg (fun o => if k' == e.1 then some e.2 else o) ih

/-- A new key goes to the end. -/
theorem put_of_not_mem [LawfulBEq κ] {es : Entries κ α} {k : κ} (v : α) (h : k ∉ es.keys) :
    es.put k v = es ++ [(k, v)] := by
  induction es with
  | nil => rfl
  | cons e es ih =>
    have hk : ¬ e.1 = k := fun he => h (by simp [keys, he])
    have hr : k ∉ Entries.keys es := fun hm => h (List.mem_cons_of_mem _ hm)
    simp [put, hk, ih hr]

/-- Pairs with distinct new keys are appended as they are. -/
theorem putAll_eq_append [LawfulBEq κ] {es : Entries κ α} {ps : List (κ × α)}
    (h : (es.keys ++ ps.map Prod.fst).Nodup) : es.putAll ps = es ++ ps := by
  induction ps generalizing es with
  | nil => simp
  | cons p ps ih =>
    have hp : p.1 ∉ es.keys := fun hm => by
      rw [List.nodup_append] at h
      exact h.2.2 p.1 hm p.1 (by simp) rfl
    rw [putAll_cons, put_of_not_mem p.2 hp, ih]
    · simp
    · simpa [keys, List.append_assoc] using h

/-- **Distinct pairs are their own entries.** -/
theorem ofPairs_of_nodup [LawfulBEq κ] {ps : List (κ × α)} (h : (ps.map Prod.fst).Nodup) :
    ofPairs ps = ps := by
  have fresh : (keys ([] : Entries κ α) ++ ps.map Prod.fst).Nodup := by simpa [keys] using h
  simpa [ofPairs] using putAll_eq_append fresh

/-- The keys after putting. -/
theorem mem_keys_put [LawfulBEq κ] {es : Entries κ α} {k k' : κ} {v : α} :
    k' ∈ (es.put k v).keys ↔ k' = k ∨ k' ∈ es.keys := by
  induction es with
  | nil => simp [keys]
  | cons e es ih =>
    rw [put]
    by_cases hk : e.1 = k
    · simp [hk, keys]
    · rw [if_neg (by simpa using hk)]
      show k' ∈ e.1 :: keys (put es k v) ↔ k' = k ∨ k' ∈ e.1 :: keys es
      rw [List.mem_cons, ih, List.mem_cons]
      exact or_left_comm

/-- The keys after putting pairs. -/
theorem mem_keys_putAll [LawfulBEq κ] {es : Entries κ α} {ps : List (κ × α)} {k : κ} :
    k ∈ (es.putAll ps).keys ↔ k ∈ es.keys ∨ k ∈ ps.map Prod.fst := by
  induction ps generalizing es with
  | nil => simp
  | cons p ps ih =>
    rw [putAll_cons, ih, mem_keys_put, List.map_cons, List.mem_cons, or_comm (a := k = p.1),
      or_assoc]

/-- Distinct keys stay distinct. -/
theorem nodup_keys_put [LawfulBEq κ] {es : Entries κ α} {k : κ} {v : α} (h : es.keys.Nodup) :
    (es.put k v).keys.Nodup := by
  induction es with
  | nil => simp [keys]
  | cons e es ih =>
    obtain ⟨hnew, hrest⟩ := List.nodup_cons.mp h
    rw [put]
    by_cases hk : e.1 = k
    · rw [if_pos (by simpa using hk)]
      exact h
    · rw [if_neg (by simpa using hk)]
      refine List.nodup_cons.mpr ⟨fun hmem => ?_, ih hrest⟩
      obtain heq | hmem := mem_keys_put.mp hmem
      · exact hk heq
      · exact hnew hmem

/-- After putting there is what was put, and what was there under other keys. -/
theorem mem_put [LawfulBEq κ] {es : Entries κ α} (h : es.keys.Nodup) {k : κ} {v : α}
    {e : κ × α} : e ∈ es.put k v ↔ e = (k, v) ∨ e ∈ es ∧ e.1 ≠ k := by
  induction es with
  | nil => simp
  | cons e' es ih =>
    obtain ⟨hnew, hrest⟩ := List.nodup_cons.mp h
    rw [put]
    by_cases hk : e'.1 = k
    · rw [if_pos (by simpa using hk), List.mem_cons, List.mem_cons, hk]
      refine or_congr_right ⟨fun he => ⟨.inr he, ?_⟩, ?_⟩
      · rintro rfl
        exact hnew (hk ▸ List.mem_map_of_mem he)
      · rintro ⟨rfl | he, hne⟩
        · exact absurd hk hne
        · exact he
    · rw [if_neg (by simpa using hk), List.mem_cons, List.mem_cons, ih hrest]
      refine ⟨?_, ?_⟩
      · rintro (rfl | rfl | ⟨he, hne⟩)
        · exact .inr ⟨.inl rfl, hk⟩
        · exact .inl rfl
        · exact .inr ⟨.inr he, hne⟩
      · rintro (rfl | ⟨rfl | he, hne⟩)
        · exact .inr (.inl rfl)
        · exact .inl rfl
        · exact .inr (.inr ⟨he, hne⟩)

/-- Distinct keys stay distinct when pairs are put. -/
theorem nodup_keys_putAll [LawfulBEq κ] {es : Entries κ α} (ps : List (κ × α))
    (h : es.keys.Nodup) : (es.putAll ps).keys.Nodup := by
  induction ps generalizing es with
  | nil => exact h
  | cons p ps ih => exact ih (nodup_keys_put h)

/-- After putting pairs there is what was put, and what was there under other
keys. -/
theorem mem_putAll [LawfulBEq κ] {es : Entries κ α} {ps : List (κ × α)} (h : es.keys.Nodup)
    (hps : (ps.map Prod.fst).Nodup) {e : κ × α} :
    e ∈ es.putAll ps ↔ e ∈ ps ∨ e ∈ es ∧ e.1 ∉ ps.map Prod.fst := by
  induction ps generalizing es with
  | nil => simp
  | cons p ps ih =>
    obtain ⟨hnew, hrest⟩ := List.nodup_cons.mp hps
    rw [putAll_cons, ih (nodup_keys_put h) hrest, mem_put h, List.map_cons, List.mem_cons,
      List.mem_cons]
    refine ⟨?_, ?_⟩
    · rintro (he | ⟨rfl | ⟨he, hne⟩, hout⟩)
      · exact .inl (.inr he)
      · exact .inl (.inl rfl)
      · exact .inr ⟨he, fun hin => hin.elim hne hout⟩
    · rintro ((rfl | he) | ⟨he, hout⟩)
      · exact .inr ⟨.inl rfl, hnew⟩
      · exact .inl he
      · exact .inr ⟨.inr ⟨he, fun heq => hout (.inl heq)⟩, fun hin => hout (.inr hin)⟩

/-- There is something after putting. -/
theorem put_ne_nil (es : Entries κ α) (k : κ) (v : α) : es.put k v ≠ [] := by
  cases es with
  | nil => exact List.cons_ne_nil _ _
  | cons e es =>
    rw [put]
    split <;> exact List.cons_ne_nil _ _

/-- Putting takes nothing away. -/
theorem putAll_ne_nil {es : Entries κ α} (ps : List (κ × α)) (h : es ≠ []) :
    es.putAll ps ≠ [] := by
  induction ps generalizing es with
  | nil => exact h
  | cons p ps ih => exact ih (put_ne_nil es p.1 p.2)

/-- After putting there is what was put, or what was there. -/
theorem mem_of_mem_put {es : Entries κ α} {k : κ} {v : α} {e : κ × α} (h : e ∈ es.put k v) :
    e.2 = v ∨ e ∈ es := by
  induction es with
  | nil => exact .inl (congrArg Prod.snd (List.mem_singleton.mp h))
  | cons e' es ih =>
    rw [put] at h
    split at h
    · obtain rfl | h := List.mem_cons.mp h
      · exact .inl rfl
      · exact .inr (List.mem_cons_of_mem _ h)
    · obtain rfl | h := List.mem_cons.mp h
      · exact .inr List.mem_cons_self
      · exact (ih h).imp_right (List.mem_cons_of_mem _)

/-- What is put under a key takes the place of what was put there before. -/
theorem put_put [LawfulBEq κ] (es : Entries κ α) (k : κ) (v w : α) :
    (es.put k v).put k w = es.put k w := by
  induction es with
  | nil => simp [put]
  | cons e es ih =>
    by_cases hk : e.1 = k
    · simp [put, hk]
    · simp [put, hk, ih]

/-- **Changing the value under a key**, if it is present, is changing the entry with
the key. -/
theorem elim_put_eq_map [LawfulBEq κ] {es : Entries κ α} (h : es.keys.Nodup) (k : κ) (f : α → α) :
    (es.get? k).elim es (fun v => es.put k (f v))
      = es.map fun e => if e.1 == k then (e.1, f e.2) else e := by
  induction es with
  | nil => rfl
  | cons e es ih =>
    obtain ⟨hnew, hrest⟩ := List.nodup_cons.mp h
    rw [get?_cons, List.map_cons]
    by_cases hk : e.1 = k
    · -- the key is in no other entry
      have hothers : es.map (fun e => if e.1 == k then (e.1, f e.2) else e) = es := by
        refine (List.map_congr_left fun e' he' => ?_).trans (List.map_id es)
        have hne : e'.1 ≠ k := fun heq => hnew (hk.trans heq.symm ▸ List.mem_map_of_mem he')
        simp [hne]
      rw [hothers]
      simp [put, hk]
    · have hne : ¬ k = e.1 := fun heq => hk heq.symm
      rw [if_neg (by simpa using hne), if_neg (by simpa using hk), ← ih hrest]
      cases get? es k with
      | none => rfl
      | some v => simp [put, hk]

/-- Values may be changed before or after they are put. -/
theorem map_put (f : α → β) (es : Entries κ α) (k : κ) (v : α) :
    (es.put k v).map (fun e => (e.1, f e.2)) = put (es.map fun e => (e.1, f e.2)) k (f v) := by
  induction es with
  | nil => rfl
  | cons e es ih =>
    rw [put, List.map_cons, put, apply_ite (List.map _), List.map_cons, List.map_cons, ih]

/-- Values may be changed before or after all of them are put. -/
theorem map_putAll (f : α → β) (es : Entries κ α) (ps : List (κ × α)) :
    (es.putAll ps).map (fun e => (e.1, f e.2))
      = putAll (es.map fun e => (e.1, f e.2)) (ps.map fun e => (e.1, f e.2)) := by
  induction ps generalizing es with
  | nil => rfl
  | cons p ps ih => rw [putAll_cons, ih, map_put, List.map_cons, putAll_cons]

/-- A repeated key keeps its first place and takes the last value. -/
example : ofPairs [("a", 1), ("b", 2), ("a", 3)] = [("a", 3), ("b", 2)] := by decide

end Entries

end Covenant
