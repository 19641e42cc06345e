import HtmlComponents.OrderedMap
import Mathlib.Data.List.Induction

/-!
# Unions of ordered maps

A union keeps the entries of its left side and adds those of the right side whose names are new, so
maps with `union` and `empty` are a monoid. A list of pairs is the union of its parts
(`ofListFirst_append`), and a name may be left out before or after a union (`without_union`).
-/

namespace HtmlComponents

theorem eraseDups_of_nodup {l : List String} (h : l.Nodup) : l.eraseDups = l := by
  induction l with
  | nil => rfl
  | cons a l ih =>
    rw [List.nodup_cons] at h
    have hfilter : l.filter (fun b => !b == a) = l := by
      refine List.filter_eq_self.mpr fun b hb => ?_
      simp only [Bool.not_eq_true', beq_eq_false_iff_ne]
      rintro rfl
      exact h.1 hb
    rw [List.eraseDups_cons, hfilter, ih h.2]

/-- What stands in a list is not new behind it. -/
theorem eraseDups_append_cons {l : List String} {a : String} (h : a ∈ l) (l' : List String) :
    (l ++ a :: l').eraseDups = (l ++ l').eraseDups := by
  rw [List.eraseDups_append, List.eraseDups_append, List.cons_removeAll, if_neg (by simp [h])]

theorem eraseDups_concat (l : List String) (a : String) :
    (l ++ [a]).eraseDups = if a ∈ l then l.eraseDups else l.eraseDups ++ [a] := by
  rw [List.eraseDups_append, List.cons_removeAll]
  by_cases h : a ∈ l <;> simp [h, List.eraseDups_cons]

theorem eraseDups_append_eraseDups (l l' : List String) : (l ++ l'.eraseDups).eraseDups = (l ++ l').eraseDups := by
  induction l' using List.reverseRecOn with
  | nil => rfl
  | append_singleton s a ih =>
    rw [← List.append_assoc, eraseDups_concat (l ++ s), eraseDups_concat s]
    by_cases ha : a ∈ s
    · rw [if_pos ha, if_pos (List.mem_append_right l ha), ih]
    · rw [if_neg ha, ← List.append_assoc, eraseDups_concat, ih]
      simp only [List.mem_append, List.mem_eraseDups]

theorem eraseDups_append_congr {l l' : List String} (h : l.eraseDups = l'.eraseDups) (more : List String) :
    (l ++ more).eraseDups = (l' ++ more).eraseDups := by
  have hmem : ∀ a, a ∈ l ↔ a ∈ l' := fun a => by rw [← List.mem_eraseDups, h, List.mem_eraseDups]
  have hnew : more.removeAll l = more.removeAll l' := List.filter_congr fun a _ => by simp [hmem a]
  rw [List.eraseDups_append, List.eraseDups_append, h, hnew]

theorem eraseDups_flatMap_eraseDups {α : Type} (f : α → List String) (l : List α) :
    (l.flatMap fun a => (f a).eraseDups).eraseDups = (l.flatMap f).eraseDups := by
  induction l using List.reverseRecOn with
  | nil => rfl
  | append_singleton l a ih =>
    rw [List.flatMap_append, List.flatMap_append, List.flatMap_singleton, List.flatMap_singleton,
      eraseDups_append_eraseDups, eraseDups_append_congr ih]

namespace OrderedMap

variable {α : Type} {m : OrderedMap α} {name : String} {value : α}

theorem eq_of_entries {a b : OrderedMap α} (h : a.entries = b.entries) : a = b := by
  cases a
  cases b
  cases h
  rfl

theorem insertNew_of_mem (h : name ∈ m.keys) : m.insertNew name value = m := by
  rw [insertNew, dif_pos h]

theorem entries_insertNew_of_notMem (h : name ∉ m.keys) :
    (m.insertNew name value).entries = m.entries ++ [(name, value)] := by
  rw [insertNew, dif_neg h]

theorem entries_foldl_insertNew (m : OrderedMap α) (pairs : List (String × α))
    (h : (pairs.map Prod.fst).Nodup) :
    (pairs.foldl (fun m pair => m.insertNew pair.1 pair.2) m).entries =
      m.entries ++ pairs.filter fun pair => decide (pair.1 ∉ m.keys) := by
  induction pairs generalizing m with
  | nil => simp
  | cons pair rest ih =>
    rw [List.map_cons, List.nodup_cons] at h
    rw [List.foldl_cons, ih _ h.2]
    by_cases hmem : pair.1 ∈ m.keys
    · rw [insertNew_of_mem hmem, List.filter_cons_of_neg (by simpa using hmem)]
    · have hfilter : rest.filter (fun p => decide (p.1 ∉ (m.insertNew pair.1 pair.2).keys)) =
          rest.filter fun p => decide (p.1 ∉ m.keys) := by
        refine List.filter_congr fun p hp => ?_
        have hne : p.1 ≠ pair.1 := fun e => h.1 (e ▸ List.mem_map_of_mem hp)
        rw [keys_insertNew, if_neg hmem]
        simp [hne]
      rw [entries_insertNew_of_notMem hmem, hfilter, List.filter_cons_of_pos (by simpa using hmem)]
      simp

theorem entries_union (m other : OrderedMap α) :
    (m.union other).entries =
      m.entries ++ other.entries.filter fun pair => decide (pair.1 ∉ m.keys) :=
  entries_foldl_insertNew m other.entries other.nodup

theorem entries_ofListFirst {pairs : List (String × α)} (h : (pairs.map Prod.fst).Nodup) :
    (ofListFirst pairs).entries = pairs := by
  rw [ofListFirst, entries_foldl_insertNew empty pairs h]
  simp [empty, keys]

theorem mem_keys_union {m other : OrderedMap α} :
    name ∈ (m.union other).keys ↔ name ∈ m.keys ∨ name ∈ other.keys := by
  have hkeys : (m.union other).keys =
      m.keys ++ (other.entries.filter fun pair => decide (pair.1 ∉ m.keys)).map Prod.fst := by
    rw [keys, entries_union, List.map_append]
    rfl
  rw [hkeys, List.mem_append]
  constructor
  · rintro (h | h)
    · exact .inl h
    · obtain ⟨pair, hpair, rfl⟩ := List.mem_map.mp h
      exact .inr (List.mem_map_of_mem (List.mem_filter.mp hpair).1)
  · rintro (h | h)
    · exact .inl h
    · by_cases hm : name ∈ m.keys
      · exact .inl hm
      · obtain ⟨pair, hpair, rfl⟩ := List.mem_map.mp h
        exact .inr (List.mem_map_of_mem (List.mem_filter.mpr ⟨hpair, by simpa using hm⟩))

@[simp] theorem empty_union (m : OrderedMap α) : empty.union m = m := by
  refine eq_of_entries ?_
  rw [entries_union]
  simp [empty, keys]

@[simp] theorem union_empty (m : OrderedMap α) : m.union empty = m := rfl

theorem union_assoc (a b c : OrderedMap α) : (a.union b).union c = a.union (b.union c) := by
  refine eq_of_entries ?_
  rw [entries_union (a.union b), entries_union a, entries_union a, entries_union b,
    List.filter_append, List.filter_filter, List.append_assoc]
  congr 2
  refine List.filter_congr fun pair _ => ?_
  by_cases ha : pair.1 ∈ a.keys <;> by_cases hb : pair.1 ∈ b.keys <;> simp [mem_keys_union, ha, hb]

theorem foldl_union {β : Type} (f : β → OrderedMap α) (m : OrderedMap α) (l : List β) :
    l.foldl (fun m b => m.union (f b)) m =
      m.union (l.foldr (fun b rest => (f b).union rest) empty) := by
  induction l generalizing m with
  | nil => rw [List.foldl_nil, List.foldr_nil, union_empty]
  | cons b rest ih => rw [List.foldl_cons, List.foldr_cons, ih, union_assoc]

theorem insertNew_eq_union (m : OrderedMap α) (name : String) (value : α) :
    m.insertNew name value = m.union (empty.insert name value) := rfl

theorem get?_insertNew (m : OrderedMap α) (name other : String) (value : α) :
    (m.insertNew name value).get? other =
      (m.get? other).or (if other = name then some value else none) := by
  by_cases h : name ∈ m.keys
  · rw [insertNew_of_mem h]
    split
    · rename_i hname
      subst hname
      cases hfound : m.get? other with
      | none => exact absurd h (get?_eq_none_iff.mp hfound)
      | some found => rfl
    · exact Option.or_none.symm
  · have hentries : (m.insertNew name value).entries = m.entries ++ [(name, value)] :=
      entries_insertNew_of_notMem h
    rw [get?, hentries, List.lookup_append, List.lookup_cons, List.lookup_nil]
    by_cases hname : other = name
    · simp [hname, get?]
    · simp [hname, beq_false_of_ne hname, get?]

theorem foldl_insertNew (m : OrderedMap α) (pairs : List (String × α)) :
    pairs.foldl (fun m pair => m.insertNew pair.1 pair.2) m = m.union (ofListFirst pairs) := by
  have hfold := foldl_union (fun pair : String × α => empty.insert pair.1 pair.2) m pairs
  have hempty := foldl_union (fun pair : String × α => empty.insert pair.1 pair.2) empty pairs
  simp only [← insertNew_eq_union] at hfold hempty
  rw [empty_union] at hempty
  rw [hfold, ← hempty, ofListFirst]

theorem ofListFirst_append (pairs others : List (String × α)) :
    ofListFirst (pairs ++ others) = (ofListFirst pairs).union (ofListFirst others) := by
  rw [ofListFirst, List.foldl_append, foldl_insertNew]
  rfl

theorem ofListFirst_cons (name : String) (value : α) (pairs : List (String × α)) :
    ofListFirst ((name, value) :: pairs) = (empty.insert name value).union (ofListFirst pairs) :=
  ofListFirst_append [(name, value)] pairs

/-- A map without the value for a name. -/
def without (m : OrderedMap α) (name : String) : OrderedMap α where
  entries := m.entries.filter fun entry => entry.1 != name
  nodup := m.nodup.sublist (List.filter_sublist.map Prod.fst)

theorem mem_keys_without {other : String} :
    other ∈ (m.without name).keys ↔ other ∈ m.keys ∧ other ≠ name := by
  simp only [keys, without, List.mem_map, List.mem_filter, bne_iff_ne]
  constructor
  · rintro ⟨entry, ⟨hentry, hne⟩, rfl⟩
    exact ⟨⟨entry, hentry, rfl⟩, hne⟩
  · rintro ⟨⟨entry, hentry, rfl⟩, hne⟩
    exact ⟨entry, ⟨hentry, hne⟩, rfl⟩

theorem without_of_notMem (h : name ∉ m.keys) : m.without name = m := by
  refine eq_of_entries (List.filter_eq_self.mpr fun entry hentry => ?_)
  rw [bne_iff_ne]
  rintro rfl
  exact h (List.mem_map_of_mem hentry)

theorem without_union (a b : OrderedMap α) (name : String) :
    (a.union b).without name = (a.without name).union (b.without name) := by
  have hentries (m : OrderedMap α) :
      (m.without name).entries = m.entries.filter fun entry => entry.1 != name := rfl
  refine eq_of_entries ?_
  rw [entries_union, hentries, hentries, hentries, entries_union, List.filter_append, List.filter_filter,
    List.filter_filter]
  congr 1
  refine List.filter_congr fun entry _ => ?_
  by_cases hne : entry.1 = name
  · simp [hne]
  · have hbne : (entry.1 != name) = true := bne_iff_ne.mpr hne
    simp [mem_keys_without, hne, hbne]

theorem entries_insert_empty (name : String) (value : α) :
    ((empty : OrderedMap α).insert name value).entries = [(name, value)] := rfl

theorem without_insert_empty (name : String) (value : α) :
    ((empty : OrderedMap α).insert name value).without name = empty := by
  refine eq_of_entries (List.filter_eq_nil_iff.mpr fun entry hentry => ?_)
  rw [entries_insert_empty, List.mem_singleton] at hentry
  simp [hentry]

theorem get?_ofListFirst (pairs : List (String × α)) (name : String) :
    (ofListFirst pairs).get? name = pairs.lookup name := by
  have hfold : ∀ m : OrderedMap α,
      (pairs.foldl (fun m pair => m.insertNew pair.1 pair.2) m).get? name =
        (m.get? name).or (pairs.lookup name) := by
    induction pairs with
    | nil => intro m; simp
    | cons pair rest ih =>
      intro m
      rw [List.foldl_cons, ih, get?_insertNew, Option.or_assoc, List.lookup_cons]
      by_cases hname : name = pair.1
      · simp [hname]
      · simp [hname, beq_false_of_ne hname]
  rw [ofListFirst, hfold, get?_empty, Option.none_or]

theorem ofListFirst_eq_empty_iff {pairs : List (String × α)} : ofListFirst pairs = empty ↔ pairs = [] := by
  constructor
  · intro h
    cases pairs with
    | nil => rfl
    | cons pair rest =>
      have hget := get?_ofListFirst (pair :: rest) pair.1
      rw [h, get?_empty, List.lookup_cons_self] at hget
      cases hget
  · rintro rfl
    rfl

/-- A name stands where it was given first. -/
theorem keys_ofListFirst (pairs : List (String × α)) :
    (ofListFirst pairs).keys = (pairs.map Prod.fst).eraseDups := by
  induction pairs using List.reverseRecOn with
  | nil => rfl
  | append_singleton pairs pair ih =>
    have hlast : ofListFirst (pairs ++ [pair]) = (ofListFirst pairs).insertNew pair.1 pair.2 := by
      rw [ofListFirst_append]
      rfl
    rw [hlast, keys_insertNew, ih, List.map_append, List.map_singleton]
    by_cases hmem : pair.1 ∈ pairs.map Prod.fst
    · rw [if_pos (List.mem_eraseDups.mpr hmem), eraseDups_append_cons hmem, List.append_nil]
    · rw [if_neg fun h => hmem (List.mem_eraseDups.mp h), List.eraseDups_append, List.cons_removeAll,
        if_pos (by simpa using hmem)]
      rfl

theorem subset_entries_ofListFirst (pairs : List (String × α)) : (ofListFirst pairs).entries ⊆ pairs := by
  induction pairs using List.reverseRecOn with
  | nil => exact List.nil_subset _
  | append_singleton pairs pair ih =>
    rw [ofListFirst_append, entries_union]
    intro entry hentry
    rcases List.mem_append.mp hentry with h | h
    · exact List.mem_append_left _ (ih h)
    · exact List.mem_append_right _ (List.mem_filter.mp h).1

theorem get?_ofList (pairs : List (String × α)) (name : String) :
    (ofList pairs).get? name = pairs.reverse.lookup name := by
  have hfold : ∀ m : OrderedMap α, (pairs.foldl (fun m pair => m.insert pair.1 pair.2) m).get? name =
      (pairs.reverse.lookup name).or (m.get? name) := by
    induction pairs with
    | nil => intro m; simp
    | cons pair rest ih =>
      intro m
      rw [List.foldl_cons, ih, get?_insert, List.reverse_cons, List.lookup_append, Option.or_assoc,
        List.lookup_cons, List.lookup_nil]
      by_cases hname : name = pair.1
      · simp [hname]
      · simp [hname, beq_false_of_ne hname]
  rw [ofList, hfold, get?_empty, Option.or_none]

theorem entries_foldl_insert {β : Type} (f : α → β) (m : OrderedMap β)
    (pairs : List (String × α)) (h : (pairs.map Prod.fst).Nodup)
    (hnew : ∀ pair ∈ pairs, pair.1 ∉ m.keys) :
    (pairs.foldl (fun m pair => m.insert pair.1 (f pair.2)) m).entries =
      m.entries ++ pairs.map fun pair => (pair.1, f pair.2) := by
  induction pairs generalizing m with
  | nil => simp
  | cons pair rest ih =>
    rw [List.map_cons, List.nodup_cons] at h
    obtain ⟨hpair, hrest⟩ := List.forall_mem_cons.mp hnew
    have hentries : (m.insert pair.1 (f pair.2)).entries = m.entries ++ [(pair.1, f pair.2)] := by
      rw [insert, dif_neg hpair]
    have hnext : ∀ other ∈ rest, other.1 ∉ (m.insert pair.1 (f pair.2)).keys := by
      intro other hother
      have hne : other.1 ≠ pair.1 := fun e => h.1 (e ▸ List.mem_map_of_mem hother)
      rw [keys_insert, if_neg hpair, List.mem_append, List.mem_singleton, not_or]
      exact ⟨hrest other hother, hne⟩
    rw [List.foldl_cons, ih _ h.2 hnext, hentries, List.append_assoc, List.map_cons]
    rfl

theorem entries_ofList {pairs : List (String × α)} (h : (pairs.map Prod.fst).Nodup) :
    (ofList pairs).entries = pairs :=
  (entries_foldl_insert id empty pairs h (by simp)).trans (List.map_id _)

theorem ofList_entries (m : OrderedMap α) : ofList m.entries = m := eq_of_entries (entries_ofList m.nodup)

theorem lookup_reverse {pairs : List (String × α)} (h : (pairs.map Prod.fst).Nodup)
    (name : String) : pairs.reverse.lookup name = pairs.lookup name := by
  induction pairs with
  | nil => rfl
  | cons pair rest ih =>
    rw [List.map_cons, List.nodup_cons] at h
    rw [List.reverse_cons, List.lookup_append, ih h.2, List.lookup_cons, List.lookup_cons]
    by_cases hname : name = pair.1
    · have habsent : rest.lookup name = none := lookup_eq_none_iff.mpr (hname ▸ h.1)
      simp [hname ▸ habsent, hname]
    · simp [beq_false_of_ne hname]

theorem lookup_eq_some_iff {pairs : List (String × α)} (h : (pairs.map Prod.fst).Nodup) :
    pairs.lookup name = some value ↔ (name, value) ∈ pairs := by
  induction pairs with
  | nil => simp
  | cons pair rest ih =>
    obtain ⟨key, first⟩ := pair
    rw [List.map_cons, List.nodup_cons] at h
    by_cases hname : name = key
    · subst hname
      have hrest : (name, value) ∉ rest := fun hmem => h.1 (List.mem_map.mpr ⟨_, hmem, rfl⟩)
      simp [hrest, eq_comm]
    · rw [List.lookup_cons, beq_false_of_ne hname]
      simp [ih h.2, hname]

theorem get?_eq_some_iff : m.get? name = some value ↔ (name, value) ∈ m.entries := lookup_eq_some_iff m.nodup

theorem get?_ofList_of_mem {pairs : List (String × α)} (h : (pairs.map Prod.fst).Nodup)
    (hmem : (name, value) ∈ pairs) : (ofList pairs).get? name = some value := by
  rw [get?_ofList, lookup_reverse h]
  exact (lookup_eq_some_iff h).mpr hmem

theorem lookup_eq_head? (pairs : List (String × α)) (name : String) :
    pairs.lookup name = ((pairs.filter fun pair => pair.1 == name).map Prod.snd).head? := by
  induction pairs with
  | nil => rfl
  | cons pair rest ih =>
    obtain ⟨key, value⟩ := pair
    by_cases hname : name = key
    · simp [hname]
    · rw [List.lookup_cons, beq_false_of_ne hname, List.filter_cons_of_neg (by simp [Ne.symm hname])]
      exact ih

theorem lookup_reverse_eq_getLast? (pairs : List (String × α)) (name : String) :
    pairs.reverse.lookup name =
      ((pairs.filter fun pair => pair.1 == name).map Prod.snd).getLast? := by
  rw [lookup_eq_head?, List.filter_reverse, List.map_reverse, List.head?_reverse]

end OrderedMap

end HtmlComponents
