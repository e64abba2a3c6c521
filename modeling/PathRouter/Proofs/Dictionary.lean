import PathRouter.Dictionary

/-!
# What dictionaries give

A dictionary made of pairs gives the last value of a key, and dictionaries that give the same values
are equal.
-/

namespace PathRouter

/-- The last value that pairs give to a name. -/
def IsLast {α : Type} (pairs : List (String × α)) (name : String) (value : α) : Prop :=
  ∃ earlier later, pairs = earlier ++ (name, value) :: later ∧ name ∉ later.map (·.1)

end PathRouter

namespace PathRouter.Dictionary

variable {α : Type}

theorem lookup_singleton (key name : String) (value : α) :
    [(key, value)].lookup name = if name = key then some value else none := by
  by_cases h : name = key
  · subst h
    simp
  · have hbeq : (name == key) = false := beq_false_of_ne h
    simp [List.lookup_cons, h, hbeq]

theorem get?_insertAll (d : Dictionary α) (pairs : List (String × α)) (key : String) :
    (d.insertAll pairs).get? key = (pairs.reverse.lookup key).or (d.get? key) := by
  induction pairs generalizing d with
  | nil => rfl
  | cons pair pairs ih =>
      obtain ⟨own, value⟩ := pair
      change ((d.insert own value).insertAll pairs).get? key = _
      rw [ih, get?_insert, List.reverse_cons, List.lookup_append, Option.or_assoc,
        lookup_singleton]
      by_cases h : key = own
      · simp [h]
      · simp [h]

/-- Of several values for one key the last counts. -/
theorem get?_ofList (pairs : List (String × α)) (key : String) :
    (ofList pairs).get? key = pairs.reverse.lookup key := by
  rw [ofList, get?_insertAll, get?_empty, Option.or_none]

theorem lookup_eq_none {entries : List (String × α)} {key : String}
    (h : key ∉ entries.map (·.1)) : entries.lookup key = none := by
  apply List.lookup_eq_none_iff.2
  intro entry hentry
  apply bne_iff_ne.2
  rintro rfl
  exact h (List.mem_map_of_mem hentry)

/-- The first of some pairs counts if no later one has its key. -/
theorem get?_ofList_cons (key name : String) (value : α) (pairs : List (String × α)) :
    (ofList ((key, value) :: pairs)).get? name =
      ((ofList pairs).get? name).or (if name = key then some value else none) := by
  calc
    (ofList ((key, value) :: pairs)).get? name =
        ((key, value) :: pairs).reverse.lookup name := get?_ofList _ _
    _ = (pairs.reverse.lookup name).or ([(key, value)].lookup name) := by
      rw [List.reverse_cons, List.lookup_append]
    _ = ((ofList pairs).get? name).or (if name = key then some value else none) := by
      rw [get?_ofList, lookup_singleton]

theorem get?_ofList_eq_none {pairs : List (String × α)} {key : String}
    (h : key ∉ pairs.map (·.1)) : (ofList pairs).get? key = none := by
  rw [get?_ofList]
  apply lookup_eq_none
  rwa [List.map_reverse, List.mem_reverse]

/-- The values of some names, as pairs in the order of the names. -/
def select (d : Dictionary α) (names : List String) : List (String × α) :=
  names.filterMap fun name => (d.get? name).map fun value => (name, value)

/-- The values of some names give these names the values they had, and no other name a value. -/
theorem get?_ofList_select (d : Dictionary α) {names : List String} (h : names.Nodup)
    (name : String) :
    (ofList (d.select names)).get? name = if name ∈ names then d.get? name else none := by
  induction names with
  | nil => rfl
  | cons first names ih =>
      rw [List.nodup_cons] at h
      cases hvalue : d.get? first with
      | none =>
          have hselect : d.select (first :: names) = d.select names := by
            simp [select, hvalue]
          rw [hselect, ih h.2]
          by_cases heq : name = first
          · subst heq
            simp [h.1, hvalue]
          · simp [heq]
      | some value =>
          have hselect : d.select (first :: names) = (first, value) :: d.select names := by
            simp [select, hvalue]
          rw [hselect, get?_ofList_cons, ih h.2]
          by_cases heq : name = first
          · subst heq
            simp [h.1, hvalue]
          · simp [heq]

theorem lookup_eq_none_of_lt {entries : List (String × α)} {key : String}
    (h : ∀ entry ∈ entries, key < entry.1) : entries.lookup key = none := by
  apply lookup_eq_none
  intro hmem
  obtain ⟨entry, hentry, rfl⟩ := List.mem_map.1 hmem
  exact String.lt_irrefl _ (h entry hentry)

theorem fst_le_of_lookup {entry : String × α} {entries : List (String × α)}
    (h : ∀ other ∈ entries, entry.1 < other.1) {key : String}
    (hkey : (entry :: entries).lookup key ≠ none) : entry.1 ≤ key := by
  apply String.not_lt.1
  intro hlt
  apply hkey
  apply lookup_eq_none_of_lt
  intro other hother
  rcases List.mem_cons.1 hother with rfl | hother
  · exact hlt
  · exact String.lt_trans hlt (h other hother)

theorem eq_of_lookup {as bs : List (String × α)} (ha : as.Pairwise fun a b => a.1 < b.1)
    (hb : bs.Pairwise fun a b => a.1 < b.1) (h : ∀ key, as.lookup key = bs.lookup key) :
    as = bs := by
  induction as generalizing bs with
  | nil =>
      cases bs with
      | nil => rfl
      | cons b bs =>
          have := h b.1
          rw [List.lookup_cons_self] at this
          cases this
  | cons a as ih =>
      obtain ⟨key, value⟩ := a
      cases bs with
      | nil =>
          have := h key
          rw [List.lookup_cons_self] at this
          cases this
      | cons b bs =>
          obtain ⟨key', value'⟩ := b
          rw [List.pairwise_cons] at ha hb
          have hfirst := h key
          have hsecond := h key'
          rw [List.lookup_cons_self] at hfirst hsecond
          have hle : key' ≤ key := fst_le_of_lookup hb.1 (hfirst ▸ Option.some_ne_none _)
          have hge : key ≤ key' := fst_le_of_lookup ha.1 (hsecond ▸ Option.some_ne_none _)
          obtain rfl : key = key' := String.le_antisymm hge hle
          rw [List.lookup_cons_self] at hfirst
          rw [Option.some.inj hfirst, ih ha.2 hb.2]
          intro other
          by_cases hother : other = key
          · subst hother
            rw [lookup_eq_none_of_lt ha.1, lookup_eq_none_of_lt hb.1]
          · have hbeq : (other == key) = false := beq_false_of_ne hother
            have hlater := h other
            rwa [List.lookup_cons, List.lookup_cons, hbeq] at hlater

/-- Dictionaries that give the same values are equal. -/
theorem ext_get? {d e : Dictionary α} (h : ∀ key, d.get? key = e.get? key) : d = e := by
  obtain ⟨as, ha⟩ := d
  obtain ⟨bs, hb⟩ := e
  have := eq_of_lookup ha hb h
  subst this
  rfl

/-- Among entries in order a key stands only once, so it does not matter from where they are
searched through. -/
theorem lookup_reverse {entries : List (String × α)} (h : entries.Pairwise fun a b => a.1 < b.1)
    (key : String) : entries.reverse.lookup key = entries.lookup key := by
  induction entries with
  | nil => rfl
  | cons entry entries ih =>
      obtain ⟨own, value⟩ := entry
      rw [List.pairwise_cons] at h
      rw [List.reverse_cons, List.lookup_append, ih h.2, lookup_singleton]
      by_cases hkey : key = own
      · subst hkey
        rw [lookup_eq_none_of_lt h.1, if_pos rfl, List.lookup_cons_self, Option.none_or]
      · have hbeq : (key == own) = false := beq_false_of_ne hkey
        rw [if_neg hkey, Option.or_none, List.lookup_cons, hbeq]

/-- The entries of a dictionary that is inserted count before those that were there. -/
theorem get?_insertAll_entries (d more : Dictionary α) (key : String) :
    (d.insertAll more.entries).get? key = (more.get? key).or (d.get? key) := by
  rw [get?_insertAll, lookup_reverse more.ordered]
  rfl

/-- Inserting the entries of a dictionary does what inserting the pairs it was made of does. -/
theorem insertAll_entries (d : Dictionary α) (pairs : List (String × α)) :
    d.insertAll (ofList pairs).entries = d.insertAll pairs := by
  apply ext_get?
  intro key
  rw [get?_insertAll_entries, get?_ofList, get?_insertAll]

/-- The values of all names that have one make up the dictionary. -/
theorem ofList_select {d : Dictionary α} {names : List String} (h : names.Nodup)
    (hnames : ∀ name, d.contains name = true → name ∈ names) : ofList (d.select names) = d := by
  apply ext_get?
  intro name
  rw [get?_ofList_select d h]
  split
  · rfl
  · next hname =>
      have hnone : d.contains name = false := Bool.eq_false_iff.2 (mt (hnames name) hname)
      rw [contains, Option.isSome_eq_false_iff, Option.isNone_iff_eq_none] at hnone
      exact hnone.symm

/-! ## Last values -/

variable {pairs : List (String × α)} {name : String} {value : α}

theorem get?_ofList_eq_some_iff :
    (ofList pairs).get? name = some value ↔ IsLast pairs name value := by
  rw [get?_ofList, List.lookup_eq_some_iff]
  constructor
  · rintro ⟨later, earlier, hpairs, hlater⟩
    refine ⟨earlier.reverse, later.reverse, ?_, ?_⟩
    · rw [← List.reverse_reverse pairs, hpairs]
      simp
    · intro hmem
      obtain ⟨pair, hpair, heq⟩ := List.mem_map.1 hmem
      have hne := hlater pair (List.mem_reverse.1 hpair)
      exact absurd heq.symm (bne_iff_ne.1 hne)
  · rintro ⟨earlier, later, rfl, hlater⟩
    refine ⟨later.reverse, earlier.reverse, by simp, fun pair hpair => bne_iff_ne.2 ?_⟩
    rintro rfl
    exact hlater (List.mem_map_of_mem (List.mem_reverse.1 hpair))

theorem get?_ofList_eq_none_iff :
    (ofList pairs).get? name = none ↔ name ∉ pairs.map (·.1) := by
  constructor
  · intro h hmem
    obtain ⟨pair, hpair, rfl⟩ := List.mem_map.1 hmem
    rw [get?_ofList, List.lookup_eq_none_iff] at h
    exact absurd rfl (bne_iff_ne.1 (h pair (List.mem_reverse.2 hpair)))
  · exact get?_ofList_eq_none

/-- If no name is repeated, all values are last ones. -/
theorem isLast_iff_mem (h : (pairs.map (·.1)).Nodup) :
    IsLast pairs name value ↔ (name, value) ∈ pairs := by
  constructor
  · rintro ⟨earlier, later, rfl, -⟩
    simp
  · intro hmem
    obtain ⟨earlier, later, rfl⟩ := List.append_of_mem hmem
    rw [List.map_append, List.map_cons, List.nodup_append, List.nodup_cons] at h
    exact ⟨earlier, later, rfl, h.2.1.1⟩

theorem nodup_keys (d : Dictionary α) : (d.entries.map (·.1)).Nodup := by
  rw [List.Nodup, List.pairwise_map]
  apply d.ordered.imp
  intro a b hlt heq
  exact String.lt_irrefl _ (heq ▸ hlt)

/-- The entries of a dictionary make it up in whatever order they are inserted. -/
theorem ofList_perm {d : Dictionary α} (h : pairs.Perm d.entries) : ofList pairs = d := by
  have hself : ofList d.entries = d := by
    apply ext_get?
    intro name
    rw [get?_ofList, lookup_reverse d.ordered]
    rfl
  rw [← hself]
  apply ext_get?
  intro name
  apply Option.ext
  intro value
  have hnodup : (pairs.map (·.1)).Nodup := (h.map _).nodup_iff.2 d.nodup_keys
  rw [get?_ofList_eq_some_iff, get?_ofList_eq_some_iff, isLast_iff_mem hnodup,
    isLast_iff_mem d.nodup_keys, h.mem_iff]

end PathRouter.Dictionary
