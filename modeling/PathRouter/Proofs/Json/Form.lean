import PathRouter.Table.Json
import PathRouter.Proofs.Outcome

/-!
# Objects read field by field

The members of an object are read one after the other into a draft that has a place for the value of
every field. A member is refused if no field has its name, if the place is taken, or if its value is
none for the field. Main statement: an object is read exactly if its keys are names of fields, no
two the same, and every value can be read; the draft then holds what the members say and nothing
else, so the order of the members does not matter.
-/

namespace PathRouter.Json

/-- How objects of one kind are read. -/
structure Form where
  Field : Type
  /-- What can be the value of a field. -/
  Value : Field → Type
  /-- What has been read so far. -/
  Draft : Type
  name : Field → String
  /-- Reads the value of a field. -/
  read : (f : Field) → Reading → Except Error (Value f)
  get? : Draft → (f : Field) → Option (Value f)
  set : Draft → (f : Field) → Value f → Draft
  /-- The draft before anything has been read. -/
  empty : Draft
  /-- Reads a member. -/
  step : Draft → String × Reading → Except Error Draft
  name_injective : Function.Injective name
  get?_empty : ∀ f, get? empty f = none
  get?_set_self : ∀ d f w, get? (set d f w) f = some w
  get?_set_of_ne : ∀ d f w g, g ≠ f → get? (set d f w) g = get? d g
  ext : ∀ d e, (∀ f, get? d f = get? e f) → d = e
  step_eq_ok_iff : ∀ d key v e, step d (key, v) = .ok e ↔
    ∃ f w, key = name f ∧ get? d f = none ∧ read f v = .ok w ∧ e = set d f w

namespace Form
variable {F : Form} {members others : List (String × Reading)} {d e : F.Draft}

variable (F) in
/-- Reads members into a draft. -/
def fill (d : F.Draft) (members : List (String × Reading)) : Except Error F.Draft :=
  members.foldlM F.step d

variable (F) in
/-- The keys are different names of fields, and the values are such as the fields have. -/
structure Allows (members : List (String × Reading)) : Prop where
  distinct : (members.map (·.1)).Nodup
  readable : ∀ m ∈ members, ∃ f w, m.1 = F.name f ∧ F.read f m.2 = .ok w

variable (F) in
/-- The draft has the values that the members say, and no others. -/
def Holds (members : List (String × Reading)) (d : F.Draft) : Prop :=
  ∀ f w, F.get? d f = some w ↔ ∃ v, (F.name f, v) ∈ members ∧ F.read f v = .ok w

theorem fill_cons {m : String × Reading} :
    F.fill d (m :: members) = F.step d m >>= fun next => F.fill next members := List.foldlM_cons

theorem fill_cons_eq_ok_iff {m : String × Reading} :
    F.fill d (m :: members) = .ok e ↔
      ∃ next, F.step d m = .ok next ∧ F.fill next members = .ok e := by
  rw [fill_cons, bind_eq_ok_iff]

/-! ## Reading members -/

/-- What has been found out when all members have been read. -/
structure Filled (d : F.Draft) (members : List (String × Reading)) (e : F.Draft) : Prop where
  distinct : (members.map (·.1)).Nodup
  taken : ∀ m ∈ members, ∃ f w, m.1 = F.name f ∧ F.get? d f = none ∧ F.read f m.2 = .ok w ∧
    F.get? e f = some w
  kept : ∀ f, F.name f ∉ members.map (·.1) → F.get? e f = F.get? d f

theorem filled_of_fill (h : F.fill d members = .ok e) : Filled d members e := by
  induction members generalizing d with
  | nil =>
      obtain rfl := Except.ok.inj h
      exact ⟨.nil, nofun, fun _ _ => rfl⟩
  | cons m members ih =>
      obtain ⟨key, v⟩ := m
      obtain ⟨next, hstep, hlater⟩ := fill_cons_eq_ok_iff.1 h
      obtain ⟨f, w, rfl, hfree, hread, rfl⟩ := (F.step_eq_ok_iff _ _ _ _).1 hstep
      have hlater := ih hlater
      have hset : F.get? (F.set d f w) f = some w := F.get?_set_self d f w
      -- The place of `f` is taken now, so no later member can have its name.
      have hnew : F.name f ∉ members.map (·.1) := by
        intro hmem
        obtain ⟨m, hm, hname⟩ := List.mem_map.1 hmem
        obtain ⟨g, -, hg, hfree, -⟩ := hlater.taken m hm
        obtain rfl := F.name_injective (hname.symm.trans hg)
        exact absurd (hset.symm.trans hfree) (Option.some_ne_none w)
      constructor
      · exact List.nodup_cons.2 ⟨hnew, hlater.distinct⟩
      · intro m hm
        rcases List.mem_cons.1 hm with rfl | hm
        · exact ⟨f, w, rfl, hfree, hread, (hlater.kept f hnew).trans hset⟩
        · obtain ⟨g, x, hg, hfree, hread, hx⟩ := hlater.taken m hm
          have hne : g ≠ f := by
            rintro rfl
            exact absurd (hset.symm.trans hfree) (Option.some_ne_none w)
          rw [F.get?_set_of_ne d f w g hne] at hfree
          exact ⟨g, x, hg, hfree, hread, hx⟩
      · intro g hg
        rw [List.map_cons, List.mem_cons, not_or] at hg
        have hne : g ≠ f := fun heq => hg.1 (congrArg F.name heq)
        rw [hlater.kept g hg.2, F.get?_set_of_ne d f w g hne]

theorem exists_fill (hdistinct : (members.map (·.1)).Nodup)
    (h : ∀ m ∈ members, ∃ f w, m.1 = F.name f ∧ F.get? d f = none ∧ F.read f m.2 = .ok w) :
    ∃ e, F.fill d members = .ok e := by
  induction members generalizing d with
  | nil => exact ⟨d, rfl⟩
  | cons m members ih =>
      obtain ⟨key, v⟩ := m
      obtain ⟨hnew, hdistinct⟩ := List.nodup_cons.1 hdistinct
      obtain ⟨⟨f, w, hkey, hfree, hread⟩, h⟩ := List.forall_mem_cons.1 h
      have hstep : F.step d (key, v) = .ok (F.set d f w) :=
        (F.step_eq_ok_iff _ _ _ _).2 ⟨f, w, hkey, hfree, hread, rfl⟩
      have hlater : ∀ m ∈ members, ∃ g x, m.1 = F.name g ∧ F.get? (F.set d f w) g = none ∧
          F.read g m.2 = .ok x := by
        intro m hm
        obtain ⟨g, x, hg, hfree, hread⟩ := h m hm
        have hne : g ≠ f := by
          rintro rfl
          have hmem : m.1 ∈ members.map (·.1) := List.mem_map_of_mem hm
          rw [hg, ← hkey] at hmem
          exact hnew hmem
        exact ⟨g, x, hg, (F.get?_set_of_ne d f w g hne).trans hfree, hread⟩
      obtain ⟨e, he⟩ := ih hdistinct hlater
      exact ⟨e, fill_cons_eq_ok_iff.2 ⟨_, hstep, he⟩⟩

theorem allows_of_fill (h : F.fill F.empty members = .ok e) : F.Allows members where
  distinct := (filled_of_fill h).distinct
  readable m hm := by
    obtain ⟨f, w, hname, -, hread, -⟩ := (filled_of_fill h).taken m hm
    exact ⟨f, w, hname, hread⟩

theorem holds_of_fill (h : F.fill F.empty members = .ok e) : F.Holds members e := by
  have hfilled := filled_of_fill h
  intro f w
  constructor
  · intro hw
    by_cases hmem : F.name f ∈ members.map (·.1)
    · obtain ⟨⟨key, v⟩, hm, rfl⟩ := List.mem_map.1 hmem
      obtain ⟨g, x, hname, -, hread, hx⟩ := hfilled.taken _ hm
      obtain rfl := F.name_injective hname
      rw [hw] at hx
      exact ⟨v, hm, hread.trans (congrArg Except.ok (Option.some.inj hx).symm)⟩
    · rw [hfilled.kept f hmem, F.get?_empty] at hw
      cases hw
  · rintro ⟨v, hm, hread⟩
    obtain ⟨g, x, hname, -, hread', hx⟩ := hfilled.taken _ hm
    obtain rfl := F.name_injective hname
    rwa [← Except.ok.inj (hread'.symm.trans hread)]

/-- The fields that have a value are those that are given. -/
theorem get?_eq_none_iff (h : F.fill F.empty members = .ok d) {f : F.Field} :
    F.get? d f = none ↔ F.name f ∉ members.map (·.1) := by
  constructor
  · intro hnone hmem
    obtain ⟨m, hm, hname⟩ := List.mem_map.1 hmem
    obtain ⟨g, w, hg, -, -, hw⟩ := (filled_of_fill h).taken m hm
    obtain rfl := F.name_injective (hname.symm.trans hg)
    cases hnone.symm.trans hw
  · intro hmem
    rw [(filled_of_fill h).kept f hmem, F.get?_empty]

theorem exists_get?_iff (h : F.fill F.empty members = .ok d) {f : F.Field} :
    (∃ w, F.get? d f = some w) ↔ F.name f ∈ members.map (·.1) := by
  rw [← Option.ne_none_iff_exists', Ne, get?_eq_none_iff h, not_not]

theorem Allows.exists_fill (h : F.Allows members) : ∃ e, F.fill F.empty members = .ok e := by
  apply Form.exists_fill h.distinct
  intro m hm
  obtain ⟨f, w, hname, hread⟩ := h.readable m hm
  exact ⟨f, w, hname, F.get?_empty f, hread⟩

/-- One draft at most has the values that members say. -/
theorem Holds.unique (hd : F.Holds members d) (he : F.Holds members e) : d = e := by
  apply F.ext
  intro f
  apply Option.ext
  intro w
  rw [hd f w, he f w]

/-- Members are read exactly if they are allowed, into the draft that has their values. -/
theorem fill_eq_ok_iff :
    F.fill F.empty members = .ok e ↔ F.Allows members ∧ F.Holds members e := by
  constructor
  · intro h
    exact ⟨allows_of_fill h, holds_of_fill h⟩
  · rintro ⟨hallows, hholds⟩
    obtain ⟨d, hd⟩ := hallows.exists_fill
    rwa [hholds.unique (holds_of_fill hd)]

/-! ## Other members -/

/-- The order of the members does not matter. -/
theorem fill_perm (h : members.Perm others) :
    F.fill F.empty members = .ok e ↔ F.fill F.empty others = .ok e := by
  have hallows : F.Allows members ↔ F.Allows others := by
    constructor
    · rintro ⟨hdistinct, hreadable⟩
      exact ⟨(h.map _).nodup_iff.1 hdistinct, fun m hm => hreadable m (h.mem_iff.2 hm)⟩
    · rintro ⟨hdistinct, hreadable⟩
      exact ⟨(h.map _).nodup_iff.2 hdistinct, fun m hm => hreadable m (h.mem_iff.1 hm)⟩
  have hholds : F.Holds members e ↔ F.Holds others e := by
    simp only [Holds, h.mem_iff]
  rw [fill_eq_ok_iff, fill_eq_ok_iff, hallows, hholds]

/-- Two members are the same for a reader. -/
def Alike (F : Form) (m n : String × Reading) : Prop :=
  m.1 = n.1 ∧ ∀ f w, m.1 = F.name f → (F.read f m.2 = .ok w ↔ F.read f n.2 = .ok w)

theorem Alike.step_eq_ok_iff {m n : String × Reading} (h : F.Alike m n) :
    F.step d m = .ok e ↔ F.step d n = .ok e := by
  obtain ⟨key, v⟩ := m
  obtain ⟨key', v'⟩ := n
  obtain ⟨rfl, hread⟩ := h
  rw [F.step_eq_ok_iff, F.step_eq_ok_iff]
  constructor
  · rintro ⟨f, w, hkey, hfree, hw, rfl⟩
    exact ⟨f, w, hkey, hfree, (hread f w hkey).1 hw, rfl⟩
  · rintro ⟨f, w, hkey, hfree, hw, rfl⟩
    exact ⟨f, w, hkey, hfree, (hread f w hkey).2 hw, rfl⟩

theorem fill_congr (h : List.Forall₂ F.Alike members others) :
    F.fill d members = .ok e ↔ F.fill d others = .ok e := by
  induction h generalizing d with
  | nil => exact Iff.rfl
  | cons hfirst _ ih =>
      rw [fill_cons_eq_ok_iff, fill_cons_eq_ok_iff]
      exact exists_congr fun next => and_congr hfirst.step_eq_ok_iff ih

end Form

end PathRouter.Json
