import Mathlib.Data.List.Permutation
import Mathlib.Data.Set.List
import PathRouter.Proofs.Dictionary
import PathRouter.Proofs.Table.JsonForm

/-!
# Route tables that are objects

Which objects make a table, and which table they make, is said here in terms of their members alone.
Main statement: a text that is an object, with objects for routes, is accepted exactly if its
members are those of a table, wherever they stand; the table is the one that the members say.
-/

namespace PathRouter.Json

variable {entry : List (String × Reading)} {members others : List (String × Reading)}

theorem Reading.optionalString?_eq_ok_some_iff {v : Reading} {s : String} :
    v.optionalString? = .ok (some s) ↔ v = .string s := by
  rw [optionalString?_eq_ok_iff]
  constructor
  · rintro (⟨-, h⟩ | ⟨t, rfl, h⟩)
    · cases h
    · rw [Option.some.inj h]
  · intro h
    exact .inr ⟨s, h, rfl⟩

theorem getD_none_eq_some_iff {α : Type} {o : Option (Option α)} {a : α} :
    o.getD none = some a ↔ o = some (some a) := by
  cases o with
  | none => exact iff_of_false nofun nofun
  | some inner => exact (Option.some_inj (a := inner)).symm

/-! ## Routes -/

/-- Members of a route: strings with different names, two of which must be there. The name of a
route may be null. -/
structure IsRoute (entry : List (String × Reading)) : Prop where
  distinct : (entry.map (·.1)).Nodup
  known : ∀ m ∈ entry, m.1 ∈ ["method", "pattern", "handler", "name"]
  values : ∀ m ∈ entry, (∃ s, m.2 = .string s) ∨ m.1 = "name" ∧ m.2 = .null
  pattern : "pattern" ∈ entry.map (·.1)
  handler : "handler" ∈ entry.map (·.1)

/-- The route that members say. -/
structure SaysRoute (entry : List (String × Reading)) (d : RouteDef) : Prop where
  pattern : ("pattern", .string d.pattern) ∈ entry
  handler : ("handler", .string d.handler) ∈ entry
  method : ("method", .string d.method) ∈ entry ∨ "method" ∉ entry.map (·.1) ∧ d.method = "GET"
  name : ∀ s, d.name = some s ↔ ("name", .string s) ∈ entry

/-- A member that a route can have. -/
theorem readable_routeMember_iff {m : String × Reading} :
    (∃ f w, m.1 = routeForm.name f ∧ routeForm.read f m.2 = .ok w) ↔
      m.1 ∈ ["method", "pattern", "handler", "name"] ∧
        ((∃ s, m.2 = .string s) ∨ m.1 = "name" ∧ m.2 = .null) := by
  obtain ⟨key, v⟩ := m
  constructor
  · rintro ⟨f, w, hname, hread⟩
    change key = f.title at hname
    have hknown : key ∈ ["method", "pattern", "handler", "name"] := by
      rw [hname]
      cases f <;> decide
    subst hname
    cases f with
    | method => exact ⟨hknown, .inl ⟨w, Reading.string?_eq_ok_iff.1 hread⟩⟩
    | pattern => exact ⟨hknown, .inl ⟨w, Reading.string?_eq_ok_iff.1 hread⟩⟩
    | handler => exact ⟨hknown, .inl ⟨w, Reading.string?_eq_ok_iff.1 hread⟩⟩
    | name =>
        rcases Reading.optionalString?_eq_ok_iff.1 hread with ⟨hnull, -⟩ | ⟨s, hs, -⟩
        · exact ⟨hknown, .inr ⟨rfl, hnull⟩⟩
        · exact ⟨hknown, .inl ⟨s, hs⟩⟩
  · rintro ⟨hknown, ⟨s, rfl⟩ | ⟨rfl, rfl⟩⟩
    · simp only [List.mem_cons, List.not_mem_nil, or_false] at hknown
      rcases hknown with rfl | rfl | rfl | rfl
      · exact ⟨RouteField.method, s, rfl, rfl⟩
      · exact ⟨RouteField.pattern, s, rfl, rfl⟩
      · exact ⟨RouteField.handler, s, rfl, rfl⟩
      · exact ⟨RouteField.name, some s, rfl, rfl⟩
    · exact ⟨RouteField.name, none, rfl, rfl⟩

theorem route?_object_eq_ok_iff {d : RouteDef} :
    (Reading.object (.ofList entry)).route? = .ok d ↔
      ∃ draft : RouteDraft, routeForm.fill .empty entry = .ok draft ∧ draft.finish = .ok d := by
  rw [Reading.route?, routeOfMembers_ofList, bind_eq_ok_iff]
  simp only [ofField_eq_ok_iff]
  rfl

/-- An object makes a route if its members are those of a route. -/
theorem exists_route?_object_iff :
    (∃ d, (Reading.object (.ofList entry)).route? = .ok d) ↔ IsRoute entry := by
  constructor
  · rintro ⟨d, h⟩
    obtain ⟨draft, hfill, hfinish⟩ := route?_object_eq_ok_iff.1 h
    obtain ⟨hpattern, hhandler, -, -⟩ := RouteDraft.finish_eq_ok_iff.1 hfinish
    have hallows := Form.allows_of_fill hfill
    constructor
    · exact hallows.distinct
    · exact fun m hm => (readable_routeMember_iff.1 (hallows.readable m hm)).1
    · exact fun m hm => (readable_routeMember_iff.1 (hallows.readable m hm)).2
    · exact (Form.exists_get?_iff hfill (f := RouteField.pattern)).1 ⟨_, hpattern⟩
    · exact (Form.exists_get?_iff hfill (f := RouteField.handler)).1 ⟨_, hhandler⟩
  · intro h
    have hallows : routeForm.Allows entry :=
      ⟨h.distinct, fun m hm => readable_routeMember_iff.2 ⟨h.known m hm, h.values m hm⟩⟩
    obtain ⟨draft, hfill⟩ : ∃ draft : RouteDraft, routeForm.fill .empty entry = .ok draft :=
      hallows.exists_fill
    obtain ⟨pattern, hpattern⟩ :=
      (Form.exists_get?_iff hfill (f := RouteField.pattern)).2 h.pattern
    obtain ⟨handler, hhandler⟩ :=
      (Form.exists_get?_iff hfill (f := RouteField.handler)).2 h.handler
    let d : RouteDef :=
      ⟨draft.method.getD Request.defaultMethod, pattern, handler, draft.name.getD none⟩
    have hfinish : draft.finish = .ok d :=
      RouteDraft.finish_eq_ok_iff.2 ⟨hpattern, hhandler, rfl, rfl⟩
    exact ⟨d, route?_object_eq_ok_iff.2 ⟨draft, hfill, hfinish⟩⟩

/-- The route that an object makes is the one that its members say. -/
theorem saysRoute_of_route? {d : RouteDef} (h : (Reading.object (.ofList entry)).route? = .ok d) :
    SaysRoute entry d := by
  obtain ⟨draft, hfill, hfinish⟩ := route?_object_eq_ok_iff.1 h
  obtain ⟨hpattern, hhandler, hmethod, hname⟩ := RouteDraft.finish_eq_ok_iff.1 hfinish
  have hholds := Form.holds_of_fill hfill
  constructor
  · obtain ⟨v, hv, hread⟩ := (hholds RouteField.pattern d.pattern).1 hpattern
    rwa [← Reading.string?_eq_ok_iff.1 hread]
  · obtain ⟨v, hv, hread⟩ := (hholds RouteField.handler d.handler).1 hhandler
    rwa [← Reading.string?_eq_ok_iff.1 hread]
  · cases hgiven : draft.method with
    | none =>
        rw [hgiven] at hmethod
        exact .inr ⟨(Form.get?_eq_none_iff hfill (f := RouteField.method)).1 hgiven, hmethod.symm⟩
    | some s =>
        rw [hgiven] at hmethod
        obtain rfl : s = d.method := hmethod
        obtain ⟨v, hv, hread⟩ := (hholds RouteField.method d.method).1 hgiven
        exact .inl (Reading.string?_eq_ok_iff.1 hread ▸ hv)
  · intro s
    calc
      d.name = some s ↔ draft.name = some (some s) := by rw [← hname, getD_none_eq_some_iff]
      _ ↔ ∃ v, ("name", v) ∈ entry ∧ v.optionalString? = .ok (some s) :=
        hholds RouteField.name (some s)
      _ ↔ ("name", .string s) ∈ entry := by
        simp only [Reading.optionalString?_eq_ok_some_iff, exists_eq_right]

/-! ## Tables -/

/-- Members of a table: a base path that is a string or null, types that are strings and routes with
the members of routes, under different names. -/
structure IsTable (members : List (String × Reading)) : Prop where
  distinct : (members.map (·.1)).Nodup
  known : ∀ m ∈ members, m.1 ∈ ["base_path", "match_types", "routes"]
  basePath : ∀ v, ("base_path", v) ∈ members → v = .null ∨ ∃ s, v = .string s
  matchTypes : ∀ v, ("match_types", v) ∈ members → ∃ pairs, v = strings pairs
  routes : ∀ v, ("routes", v) ∈ members →
    ∃ entries, v = objects entries ∧ ∀ entry ∈ entries, IsRoute entry

/-- The table that members say: of a type that is repeated the last value, and the routes in their
order. -/
structure SaysTable (members : List (String × Reading)) (t : RouteTable) : Prop where
  basePath : ∀ s, t.basePath = some s ↔ ("base_path", .string s) ∈ members
  matchTypes : ∀ tag s, t.matchTypes.get? tag = some s ↔
    ∃ pairs, ("match_types", strings pairs) ∈ members ∧ IsLast pairs tag s
  routes : (∃ entries, ("routes", objects entries) ∈ members ∧
      List.Forall₂ SaysRoute entries t.routes) ∨
    "routes" ∉ members.map (·.1) ∧ t.routes = []

/-- Whatever stands in an array of routes is an object. -/
def RoutesAreObjects (members : List (String × Reading)) : Prop :=
  ∀ items, ("routes", .array (.ofList items)) ∈ members →
    ∀ item ∈ items, ∃ entry, item = .object (.ofList entry)

theorem exists_routes?_objects_iff {entries : List (List (String × Reading))} :
    (∃ ds, (objects entries).routes? = .ok ds) ↔ ∀ entry ∈ entries, IsRoute entry := by
  simp only [routes?_objects, exists_mapM_eq_ok_iff, exists_route?_object_iff]

/-- An array that makes routes is one of objects, if only objects stand in it. -/
theorem RoutesAreObjects.eq_objects (h : RoutesAreObjects members) {v : Reading}
    (hv : ("routes", v) ∈ members) {ds : List RouteDef} (hread : v.routes? = .ok ds) :
    ∃ entries, v = objects entries := by
  obtain ⟨items, rfl, -⟩ := Reading.routes?_eq_ok_iff.1 hread
  have hitems : ∀ item ∈ items,
      item ∈ Set.range fun entry => Reading.object (Members.ofList entry) := by
    intro item hitem
    obtain ⟨entry, rfl⟩ := h items hv item hitem
    exact ⟨entry, rfl⟩
  obtain ⟨entries, rfl⟩ := (Set.range_list_map _).ge hitems
  exact ⟨entries, rfl⟩

/-- Members can be read into a table if they are those of a table. -/
theorem allows_tableForm_iff (h : RoutesAreObjects members) :
    tableForm.Allows members ↔ IsTable members := by
  constructor
  · rintro ⟨hdistinct, hreadable⟩
    have hread (f : TableField) {v : Reading} (hv : (f.name, v) ∈ members) :
        ∃ w, f.read v = .ok w := by
      obtain ⟨g, w, hname, hw⟩ := hreadable _ hv
      obtain rfl := TableField.name_injective hname
      exact ⟨w, hw⟩
    refine ⟨hdistinct, fun m hm => ?_, fun v hv => ?_, fun v hv => ?_, fun v hv => ?_⟩
    · obtain ⟨f, -, hname, -⟩ := hreadable m hm
      change m.1 = f.name at hname
      rw [hname]
      cases f <;> decide
    · obtain ⟨w, hw⟩ := hread .basePath hv
      exact (Reading.optionalString?_eq_ok_iff.1 hw).imp And.left fun ⟨s, hs, _⟩ => ⟨s, hs⟩
    · obtain ⟨w, hw⟩ := hread .matchTypes hv
      obtain ⟨pairs, rfl, -⟩ := Reading.dictionary?_eq_ok_iff.1 hw
      exact ⟨pairs, rfl⟩
    · obtain ⟨ds, hds⟩ := hread .routes hv
      obtain ⟨entries, rfl⟩ := h.eq_objects hv hds
      exact ⟨entries, rfl, exists_routes?_objects_iff.1 ⟨ds, hds⟩⟩
  · intro htable
    refine ⟨htable.distinct, fun ⟨key, v⟩ hm => ?_⟩
    have hknown := htable.known _ hm
    simp only [List.mem_cons, List.not_mem_nil, or_false] at hknown
    rcases hknown with rfl | rfl | rfl
    · rcases htable.basePath v hm with rfl | ⟨s, rfl⟩
      · exact ⟨TableField.basePath, none, rfl, rfl⟩
      · exact ⟨TableField.basePath, some s, rfl, rfl⟩
    · obtain ⟨pairs, rfl⟩ := htable.matchTypes v hm
      exact ⟨TableField.matchTypes, .ofList pairs, rfl,
        Reading.dictionary?_eq_ok_iff.2 ⟨pairs, rfl, rfl⟩⟩
    · obtain ⟨entries, rfl, hentries⟩ := htable.routes v hm
      obtain ⟨ds, hds⟩ := exists_routes?_objects_iff.2 hentries
      exact ⟨TableField.routes, ds, rfl, hds⟩

/-- The table that is read is the one that the members say. -/
theorem saysTable_of_fill (h : RoutesAreObjects members) {draft : TableDraft}
    (hfill : tableForm.fill .empty members = .ok draft) : SaysTable members draft.finish := by
  have hholds := Form.holds_of_fill hfill
  refine ⟨fun s => ?_, fun tag s => ?_, ?_⟩
  · calc
      draft.finish.basePath = some s ↔ draft.basePath = some (some s) := getD_none_eq_some_iff
      _ ↔ ∃ v, ("base_path", v) ∈ members ∧ v.optionalString? = .ok (some s) :=
        hholds TableField.basePath (some s)
      _ ↔ ("base_path", .string s) ∈ members := by
        simp only [Reading.optionalString?_eq_ok_some_iff, exists_eq_right]
  · calc
      draft.finish.matchTypes.get? tag = some s ↔
          ∃ types, draft.matchTypes = some types ∧ types.get? tag = some s := by
        rw [TableDraft.finish]
        cases draft.matchTypes with
        | none => simp
        | some types => simp
      _ ↔ ∃ types, (∃ v, ("match_types", v) ∈ members ∧ v.dictionary? = .ok types) ∧
          types.get? tag = some s :=
        exists_congr fun types => and_congr_left' (hholds TableField.matchTypes types)
      _ ↔ ∃ pairs, ("match_types", strings pairs) ∈ members ∧ IsLast pairs tag s := by
        simp only [Reading.dictionary?_eq_ok_iff, ← Dictionary.get?_ofList_eq_some_iff]
        constructor
        · rintro ⟨-, ⟨-, hv, pairs, rfl, rfl⟩, hlast⟩
          exact ⟨pairs, hv, hlast⟩
        · rintro ⟨pairs, hv, hlast⟩
          exact ⟨_, ⟨_, hv, pairs, rfl, rfl⟩, hlast⟩
  · cases hgiven : draft.routes with
    | none =>
        refine .inr ⟨(Form.get?_eq_none_iff hfill (f := TableField.routes)).1 hgiven, ?_⟩
        rw [TableDraft.finish, hgiven, Option.getD_none]
    | some ds =>
        obtain ⟨v, hv, hread⟩ := (hholds TableField.routes ds).1 hgiven
        obtain ⟨entries, rfl⟩ := h.eq_objects hv hread
        refine .inl ⟨entries, hv, ?_⟩
        rw [TableDraft.finish, hgiven, Option.getD_some]
        exact (routes?_objects_eq_ok_iff.1 hread).imp fun _ _ => saysRoute_of_route?

/-! ## Other orders -/

/-- A member, and the same member with the members of its routes in other orders. -/
inductive SameMember : String × Reading → String × Reading → Prop where
  | same (m : String × Reading) : SameMember m m
  | routes {entries others : List (List (String × Reading))}
      (h : List.Forall₂ List.Perm entries others) :
      SameMember ("routes", objects entries) ("routes", objects others)

/-- The same members in another order, and the members of their routes in other orders. -/
def Reordered (members others : List (String × Reading)) : Prop :=
  ∃ between, members.Perm between ∧ List.Forall₂ SameMember between others

/-- The order of the members of a route does not matter. -/
theorem route?_object_perm {entry other : List (String × Reading)} (h : entry.Perm other)
    {d : RouteDef} : (Reading.object (.ofList entry)).route? = .ok d ↔
      (Reading.object (.ofList other)).route? = .ok d := by
  rw [route?_object_eq_ok_iff, route?_object_eq_ok_iff]
  exact exists_congr fun draft => and_congr_left' (routeForm.fill_perm h)

theorem routes?_objects_perm {entries others : List (List (String × Reading))}
    (h : List.Forall₂ List.Perm entries others) {ds : List RouteDef} :
    (objects entries).routes? = .ok ds ↔ (objects others).routes? = .ok ds := by
  rw [routes?_objects_eq_ok_iff, routes?_objects_eq_ok_iff]
  induction h generalizing ds with
  | nil => exact Iff.rfl
  | cons hfirst _ ih =>
      rw [List.forall₂_cons_left_iff, List.forall₂_cons_left_iff]
      simp only [route?_object_perm hfirst, ih]

theorem SameMember.alike {m n : String × Reading} (h : SameMember m n) : tableForm.Alike m n := by
  cases h with
  | same => exact ⟨rfl, fun _ _ _ => Iff.rfl⟩
  | routes h =>
      refine ⟨rfl, fun f w hname => ?_⟩
      obtain rfl : TableField.routes = f := TableField.name_injective hname
      exact routes?_objects_perm h

/-- The order of the members does not matter, neither of the table's nor of the routes'. -/
theorem Reordered.fill_eq_ok_iff (h : Reordered members others) {draft : TableDraft} :
    tableForm.fill .empty members = .ok draft ↔ tableForm.fill .empty others = .ok draft := by
  obtain ⟨between, hperm, hsame⟩ := h
  calc
    tableForm.fill .empty members = .ok draft ↔ tableForm.fill .empty between = .ok draft :=
      Form.fill_perm hperm
    _ ↔ tableForm.fill .empty others = .ok draft :=
      Form.fill_congr (hsame.imp fun _ _ h => h.alike)

end PathRouter.Json

namespace PathRouter.RouteTable

open Json (IsRoute IsTable Members Reordered RoutesAreObjects SaysTable objects read strings
  tableForm)

variable {text : String} {members : List (String × Json.Reading)} {t : RouteTable}

theorem ofJson_eq_ok_iff (h : read text = (.object (.ofList members), true)) :
    ofJson text = .ok t ↔
      ∃ draft : TableDraft, tableForm.fill .empty members = .ok draft ∧ draft.finish = t := by
  have hjson : ofJson text =
      tableForm.fill .empty members >>= fun draft => pure (TableDraft.finish draft) := by
    rw [ofJson, h, ← Json.tableOfMembers_ofList]
    exact bind_pure _
  rw [hjson, bind_eq_ok_iff]
  simp only [pure_eq_ok_iff]
  rfl

/-- A text that is an object, with nothing but objects for routes, is a table exactly if its members
are those of a table. The table is the one that they say, and it is the same in whatever order the
members of the object and of its routes stand. -/
theorem ofJson_object (hread : read text = (.object (.ofList members), true))
    (hroutes : RoutesAreObjects members) :
    ((∃ t, ofJson text = .ok t) ↔ IsTable members) ∧
    (∀ t, ofJson text = .ok t → SaysTable members t) ∧
    ∀ other others, read other = (.object (.ofList others), true) → Reordered members others →
      (ofJson other).toOption = (ofJson text).toOption := by
  refine ⟨?_, fun t ht => ?_, fun other others hother hreordered => ?_⟩
  · rw [← Json.allows_tableForm_iff hroutes]
    constructor
    · rintro ⟨t, ht⟩
      obtain ⟨draft, hfill, -⟩ := (ofJson_eq_ok_iff hread).1 ht
      exact Json.Form.allows_of_fill hfill
    · intro h
      obtain ⟨draft, hfill⟩ := h.exists_fill
      exact ⟨_, (ofJson_eq_ok_iff hread).2 ⟨draft, hfill, rfl⟩⟩
  · obtain ⟨draft, hfill, rfl⟩ := (ofJson_eq_ok_iff hread).1 ht
    exact Json.saysTable_of_fill hroutes hfill
  · apply Option.ext
    intro t
    rw [toOption_eq_some_iff, toOption_eq_some_iff, ofJson_eq_ok_iff hread, ofJson_eq_ok_iff hother]
    exact exists_congr fun draft => and_congr_left' hreordered.fill_eq_ok_iff.symm

/-- The members of the object and of a route in two orders, a name and a base path that are null, no
method and a type that is repeated. -/
theorem ofJson_object_reversed :
    let text := "\x7b\"routes\":[\x7b\"name\":null,\"handler\":\"h\",\"pattern\":\"/a\"\x7d]," ++
      "\"match_types\":\x7b\"x\":\"1\",\"x\":\"2\"\x7d,\"base_path\":null\x7d"
    let other := "\x7b\"base_path\":null,\"match_types\":\x7b\"x\":\"1\",\"x\":\"2\"\x7d," ++
      "\"routes\":[\x7b\"pattern\":\"/a\",\"handler\":\"h\",\"name\":null\x7d]\x7d"
    let entry := [("name", .null), ("handler", .string "h"), ("pattern", .string "/a")]
    let shuffled := [("pattern", .string "/a"), ("handler", .string "h"), ("name", .null)]
    let types := strings [("x", "1"), ("x", "2")]
    let members := [("routes", objects [entry]), ("match_types", types), ("base_path", .null)]
    let others := [("base_path", .null), ("match_types", types), ("routes", objects [shuffled])]
    read text = (.object (.ofList members), true) ∧ RoutesAreObjects members ∧
      read other = (.object (.ofList others), true) ∧ Reordered members others ∧
      ∃ t, ofJson text = .ok t ∧ SaysTable members t ∧ ofJson other = .ok t := by
  intro text other entry shuffled types members others
  have hread : read text = (.object (.ofList members), true) := by
    dsimp only [text, members, types, entry]
    cbv
  have hother : read other = (.object (.ofList others), true) := by
    dsimp only [other, others, types, shuffled]
    cbv
  have hentry : IsRoute entry := by
    constructor <;> simp [entry]
  have hmembers : IsTable members := by
    constructor
    · decide
    · simp [members]
    · intro v hv
      exact .inl (by simpa [members] using hv)
    · intro v hv
      obtain rfl : v = types := by simpa [members] using hv
      exact ⟨_, rfl⟩
    · intro v hv
      obtain rfl : v = objects [entry] := by simpa [members] using hv
      exact ⟨[entry], rfl, List.forall_mem_singleton.2 hentry⟩
  have hroutes : RoutesAreObjects members := by
    intro items hitems item hitem
    have harray : Json.Reading.array (.ofList items) = objects [entry] := by
      simpa [members] using hitems
    obtain rfl := Json.Items.ofList_injective (Json.Reading.array.inj harray)
    exact ⟨entry, List.mem_singleton.1 hitem⟩
  have hreordered : Reordered members others := by
    refine ⟨members.reverse, (List.reverse_perm members).symm, ?_⟩
    exact .cons (.same _) (.cons (.same _) (.cons
      (.routes (.cons (List.reverse_perm entry).symm .nil)) .nil))
  obtain ⟨haccepts, hsays, hsame⟩ := ofJson_object hread hroutes
  obtain ⟨t, ht⟩ := haccepts.2 hmembers
  have hagain := hsame other others hother hreordered
  rw [ht] at hagain
  exact ⟨hread, hroutes, hother, hreordered, t, ht, hsays t ht, toOption_eq_some_iff.1 hagain⟩

end PathRouter.RouteTable
