import Workflow.Proofs.Targets

/-!
# Workflow.Proofs.Sharing

What the resolution of bindings can change outside its result.

1. A write changes a value only where the value holds the mapping that is written
   to (`Value.receive_of_not_holds`).
2. A mapping is written to only if it came with the value of a binding, or was made
   by the resolution itself, and only for a target that lies below an earlier one
   (`BindingState.Accounted`).
3. So values from elsewhere stay as they are, unless one target lies below another
   and they share a mapping with what the bindings give
   (`resolve_changes_what_is_shared`).  Where both is the case they do change:
   `writes_of_target_below`.
-/

namespace Workflow

/-! ## Mappings in values -/

namespace Value

/-- The mapping occurs in the value, at some depth. -/
inductive Holds (m : MapId) : Value → Prop
  | here (es : Entries) : Holds m (.dict (some m) es)
  | entry {id : Option MapId} {es : Entries} {k v : Value} (hmem : (k, v) ∈ es) (h : Holds m v) : Holds m (.dict id es)
  | item {xs : List Value} {v : Value} (hmem : v ∈ xs) (h : Holds m v) : Holds m (.list xs)
  | member {xs : List Value} {v : Value} (hmem : v ∈ xs) (h : Holds m v) : Holds m (.tuple xs)

theorem receiveList_eq (w : Write) (xs : List Value) : receiveList w xs = xs.map (receive w) := by
  induction xs with
  | nil => rfl
  | cons x xs ih => simp [receiveList, ih]

theorem receiveEntries_eq (w : Write) (es : Entries) :
    receiveEntries w es = es.map fun entry => (entry.1, receive w entry.2) := by
  induction es with
  | nil => rfl
  | cons entry es ih => simp [receiveEntries, ih]

/-- Induction over what a value is made of. -/
theorem parts_induction {P : Value → Prop} (list : ∀ xs, (∀ x ∈ xs, P x) → P (.list xs))
    (tuple : ∀ xs, (∀ x ∈ xs, P x) → P (.tuple xs)) (dict : ∀ id es, (∀ entry ∈ es, P entry.2) → P (.dict id es))
    (other : ∀ v, (∀ xs, v ≠ .list xs) → (∀ xs, v ≠ .tuple xs) → (∀ id es, v ≠ .dict id es) → P v) (v : Value) :
    P v := by
  refine plain.induct P (fun es => ∀ entry ∈ es, P entry.2) (fun xs => ∀ x ∈ xs, P x) list tuple dict other
    ?_ ?_ ?_ ?_ v
  · exact List.forall_mem_nil _
  · exact fun x xs hx hxs => List.forall_mem_cons.mpr ⟨hx, hxs⟩
  · exact List.forall_mem_nil _
  · exact fun k v es hv hes => List.forall_mem_cons.mpr ⟨hv, hes⟩

/-- Writing to a mapping leaves a value alone that does not hold it. -/
theorem receive_of_not_holds {w : Write} {v : Value} (h : ¬v.Holds w.id) : v.receive w = v := by
  induction v using parts_induction with
  | list xs ih =>
    rw [receive, receiveList_eq, List.map_congr_left fun x hx => ih x hx fun hh => h (.item hx hh), List.map_id']
  | tuple xs ih =>
    rw [receive, receiveList_eq, List.map_congr_left fun x hx => ih x hx fun hh => h (.member hx hh), List.map_id']
  | dict id es ih =>
    have hid : id ≠ some w.id := by
      rintro rfl
      exact h (.here es)
    have hes : es.map (fun entry => (entry.1, receive w entry.2)) = es := by
      rw [List.map_congr_left fun entry hx => by rw [ih entry hx fun hh => h (.entry hx hh)], List.map_id']
    rw [receive, receiveEntries_eq, if_neg hid, hes]
  | other v hlist htuple hdict =>
    cases v with
    | list xs => exact absurd rfl (hlist xs)
    | tuple xs => exact absurd rfl (htuple xs)
    | dict id es => exact absurd rfl (hdict id es)
    | _ => rfl

theorem receiveAll_of_not_holds {ws : List Write} {v : Value} (h : ∀ w ∈ ws, ¬v.Holds w.id) : v.receiveAll ws = v := by
  induction ws with
  | nil => rfl
  | cons w ws ih =>
    obtain ⟨hw, hws⟩ := List.forall_mem_cons.mp h
    rw [receiveAll, List.foldl_cons, receive_of_not_holds hw]
    exact ih hws

/-- What is held by a value that is a list, a tuple or a mapping is held by a part
of it, unless it is the value itself; and no other value holds a mapping. -/
theorem holds_list {m : MapId} {xs : List Value} : (list xs).Holds m ↔ ∃ x ∈ xs, x.Holds m :=
  ⟨fun | .item hmem h => ⟨_, hmem, h⟩, fun ⟨_, hmem, h⟩ => .item hmem h⟩

theorem holds_tuple {m : MapId} {xs : List Value} : (tuple xs).Holds m ↔ ∃ x ∈ xs, x.Holds m :=
  ⟨fun | .member hmem h => ⟨_, hmem, h⟩, fun ⟨_, hmem, h⟩ => .member hmem h⟩

theorem holds_dict {m : MapId} {id : Option MapId} {es : Entries} :
    (dict id es).Holds m ↔ id = some m ∨ ∃ entry ∈ es, entry.2.Holds m := by
  constructor
  · rintro (_ | ⟨hmem, h⟩)
    · exact .inl rfl
    · exact .inr ⟨_, hmem, h⟩
  · rintro (rfl | ⟨entry, hmem, h⟩)
    · exact .here es
    · exact .entry hmem h

/-- A mapping with a field put into it holds no more than before, and what the
field's value holds. -/
theorem Holds.of_setField {m : MapId} {es : Entries} {k : String} {v : Value}
    (h : ∃ entry ∈ es.setField k v, entry.2.Holds m) : (∃ entry ∈ es, entry.2.Holds m) ∨ v.Holds m := by
  obtain ⟨entry, hmem, h⟩ := h
  unfold Entries.setField at hmem
  induction es with
  | nil =>
    cases List.mem_singleton.mp hmem
    exact .inr h
  | cons first es ih =>
    unfold Entries.set at hmem
    split at hmem
    · rcases List.mem_cons.mp hmem with rfl | hmem
      · exact .inr h
      · exact .inl ⟨entry, List.mem_cons_of_mem _ hmem, h⟩
    · rcases List.mem_cons.mp hmem with rfl | hmem
      · exact .inl ⟨_, List.mem_cons_self, h⟩
      · refine (ih hmem).imp_left ?_
        rintro ⟨other, hother, h⟩
        exact ⟨other, List.mem_cons_of_mem _ hother, h⟩

/-- A write brings in no mapping but those of the value that is written. -/
theorem Holds.of_receive {w : Write} {m : MapId} {v : Value} (h : (v.receive w).Holds m) :
    v.Holds m ∨ w.value.Holds m := by
  induction v using parts_induction with
  | list xs ih =>
    rw [receive, receiveList_eq, holds_list] at h
    obtain ⟨_, hmem, h⟩ := h
    obtain ⟨x, hx, rfl⟩ := List.mem_map.mp hmem
    exact (ih x hx h).imp_left (.item hx)
  | tuple xs ih =>
    rw [receive, receiveList_eq, holds_tuple] at h
    obtain ⟨_, hmem, h⟩ := h
    obtain ⟨x, hx, rfl⟩ := List.mem_map.mp hmem
    exact (ih x hx h).imp_left (.member hx)
  | dict id es ih =>
    have hentries : (∃ entry ∈ receiveEntries w es, entry.2.Holds m) → (dict id es).Holds m ∨ w.value.Holds m := by
      rintro ⟨_, hmem, h⟩
      rw [receiveEntries_eq] at hmem
      obtain ⟨entry, hentry, rfl⟩ := List.mem_map.mp hmem
      exact (ih entry hentry h).imp_left (.entry hentry)
    rw [receive, holds_dict] at h
    rcases h with rfl | h
    · exact .inl (.here es)
    split at h
    · exact (Holds.of_setField h).elim hentries .inr
    · exact hentries h
  | other v hlist htuple hdict =>
    cases v with
    | list xs => exact absurd rfl (hlist xs)
    | tuple xs => exact absurd rfl (htuple xs)
    | dict id es => exact absurd rfl (hdict id es)
    | _ => exact .inl h

/-- Giving identities brings in no mapping but those of the given origin. -/
theorem Holds.of_adopt {origin : Origin} {path : List String} {m : MapId} {v : Value}
    (h : (v.adopt origin path).Holds m) : v.Holds m ∨ m.origin = origin := by
  revert h
  unfold adopt
  refine number.induct origin path (fun n v => (number origin path n v).1.Holds m → v.Holds m ∨ m.origin = origin)
    (fun n es => (∃ entry ∈ (numberEntries origin path n es).1, entry.2.Holds m) →
      (∃ entry ∈ es, entry.2.Holds m) ∨ m.origin = origin)
    (fun n xs => (∃ x ∈ (numberList origin path n xs).1, x.Holds m) → (∃ x ∈ xs, x.Holds m) ∨ m.origin = origin)
    ?list ?tuple ?known ?fresh ?other ?noItems ?items ?noEntries ?entries 0 v
  case list =>
    intro n xs ys n' hys ih h
    rw [number, hys] at h
    rw [hys] at ih
    exact (ih (holds_list.mp h)).imp_left holds_list.mpr
  case tuple =>
    intro n xs ys n' hys ih h
    rw [number, hys] at h
    rw [hys] at ih
    exact (ih (holds_tuple.mp h)).imp_left holds_tuple.mpr
  case known => exact fun n id es h => .inl h
  case fresh =>
    intro n es fs n' hfs ih h
    rw [number, hfs, holds_dict] at h
    rw [hfs] at ih
    rcases h with h | h
    · cases h
      exact .inr rfl
    · exact (ih h).imp_left fun h => holds_dict.mpr (.inr h)
  case other =>
    intro n v hlist htuple hknown hfresh h
    refine .inl ?_
    cases v with
    | list xs => exact absurd rfl (hlist xs)
    | tuple xs => exact absurd rfl (htuple xs)
    | dict id es =>
      cases id with
      | none => exact absurd rfl (hfresh es)
      | some id => exact absurd rfl (hknown id es)
    | _ => exact h
  case noItems => exact fun n h => .inl h
  case items =>
    intro n x xs y n' hy ys n'' hys hx hxs h
    simp only [numberList, hy, hys, List.mem_cons, exists_eq_or_imp] at hx hxs h ⊢
    rcases h with h | h
    · exact (hx h).imp_left .inl
    · exact (hxs h).imp_left .inr
  case noEntries => exact fun n h => .inl h
  case entries =>
    intro n k v es u n' hu fs n'' hfs hv hes h
    simp only [numberEntries, hu, hfs, List.mem_cons, exists_eq_or_imp] at hv hes h ⊢
    rcases h with h | h
    · exact (hv h).imp_left .inl
    · exact (hes h).imp_left .inr

end Value

/-! ## Paths and mappings -/

namespace Entries

variable {m : MapId}

/-- A write leaves a path free of shared mappings if it was free of them. -/
theorem Free.receiveEntries (w : Write) {q : List String} :
    ∀ {es : Entries}, Free es q → Free (Value.receiveEntries w es) q := by
  induction q with
  | nil => exact fun _ => trivial
  | cons k ks ih =>
    intro es h
    rcases ks with _ | ⟨k', ks⟩
    · exact trivial
    simp only [Free, field?, get?_receiveEntries] at h ⊢
    cases hfield : get? es (Key.ofString k) with
    | none => exact trivial
    | some v =>
      rw [hfield] at h
      cases v with
      | dict id inner =>
        obtain ⟨rfl, hinner⟩ := h
        simpa [Value.receive] using ih hinner
      | _ => exact trivial

/-- A value put at a path leaves that path itself free. -/
theorem Free.setPath_self {p : List String} (v : Value) :
    ∀ {depth : Nat} {es : Entries}, Free es p → Free (Entries.setPath (fun _ => none) depth es v p) p := by
  induction p with
  | nil => exact fun _ => trivial
  | cons k ks ih =>
    intro depth es h
    rcases ks with _ | ⟨k', ks⟩
    · exact trivial
    obtain ⟨hnone, hinner⟩ := free_cons.mp h
    rw [setPath_cons, free_cons, next_setField]
    exact ⟨hnone, ih hinner⟩

theorem holds_of_freshPath {p : List String} {v : Value} :
    ∀ {depth : Nat}, (freshPath (fun _ => none) depth v p).Holds m → v.Holds m := by
  induction p with
  | nil => exact fun h => h
  | cons k ks ih =>
    intro depth h
    obtain hid | ⟨entry, hmem, h⟩ := Value.holds_dict.mp h
    · cases hid
    · cases List.mem_singleton.mp hmem
      exact ih h

theorem holds_of_field? {es : Entries} {k : String} {v : Value} (h : es.field? k = some v) (hv : v.Holds m)
    (id : Option MapId) : (Value.dict id es).Holds m := by
  obtain ⟨name, hname⟩ := mem_of_get? h
  exact .entry hname hv

theorem holds_of_next {es : Entries} {k : String} (h : (Value.dict (es.next k).1 (es.next k).2).Holds m)
    (id : Option MapId) : (Value.dict id es).Holds m := by
  unfold next at h
  split at h
  next hfield => exact holds_of_field? hfield h id
  next => simp [Value.holds_dict] at h

/-- Putting a value at a path brings in no mapping but those of the value. -/
theorem holds_of_setPath {p : List String} {v : Value} :
    ∀ {depth : Nat} {id : Option MapId} {es : Entries}, (Value.dict id (setPath (fun _ => none) depth es v p)).Holds m →
      (Value.dict id es).Holds m ∨ v.Holds m := by
  induction p with
  | nil => exact fun h => .inl h
  | cons k ks ih =>
    intro depth id es h
    have hput : ∀ {u : Value}, (Value.dict id (es.setField k u)).Holds m → (Value.dict id es).Holds m ∨ u.Holds m := by
      intro u h
      rcases Value.holds_dict.mp h with rfl | h
      · exact .inl (.here es)
      · exact (Value.Holds.of_setField h).imp_left fun h => Value.holds_dict.mpr (.inr h)
    rcases ks with _ | ⟨k', ks⟩
    · exact hput h
    rw [setPath_cons] at h
    rcases hput h with h | h
    · exact .inl h
    · exact (ih h).imp_left fun h => holds_of_next h id

/-- The mapping to which a value is written at a path lies in the mapping that the
path begins at, and nothing is written but the value and what leads to it. -/
theorem pathWrite_holds {p : List String} {v : Value} :
    ∀ {depth : Nat} {id : Option MapId} {es : Entries} {target : MapId} {field : String} {u : Value},
      pathWrite (fun _ => none) depth id es v p = (some target, field, u) →
        (Value.dict id es).Holds target ∧ (u.Holds m → v.Holds m) := by
  induction p with
  | nil =>
    intro depth id es target field u h
    cases h
    exact ⟨.here es, fun h => h⟩
  | cons k ks ih =>
    intro depth id es target field u h
    rcases ks with _ | ⟨k', ks⟩
    · cases h
      exact ⟨.here es, fun h => h⟩
    unfold pathWrite at h
    split at h
    next i inner hfield =>
      obtain ⟨htarget, hu⟩ := ih h
      exact ⟨holds_of_field? hfield htarget id, hu⟩
    next =>
      cases h
      exact ⟨.here es, holds_of_freshPath⟩

end Entries

/-! ## Bindings -/

/-- The targets of the bindings that succeed, one after the other, with what their
expressions give. -/
def givenFrom (origin : Origin) (st : BindingState) : List (Value × Value) → List (String × Value)
  | [] => []
  | (target, expression) :: rest =>
    match Expr.evaluateAny expression st.context with
    | .error (.fault _) => []
    | .error (.error _) => givenFrom origin st rest
    | .ok v => match target with
      | .str path => (path, v) :: givenFrom origin (st.put origin (segmentsOf path) v) rest
      | _ => []

/-- What the bindings of a node give before they are put together. -/
def givenBy (origin : Origin) (bindings : Value) (nodes : List Node) (outputs state : Entries) :
    List (String × Value) :=
  match evalContext nodes outputs state (some ⟨origin, [stateName], 0⟩), bindings with
  | .ok context, .dict _ es => givenFrom origin ⟨[], context, []⟩ es
  | _, _ => []

/-- What is given is what has not been dropped. -/
theorem resolveFrom_targets (origin : Origin) (bindings : List (Value × Value)) :
    ∀ (st : BindingState) (outcomes : List BindingOutcome),
      ((resolveFrom origin st outcomes bindings).outcomes.filter (·.error.isNone)).map (·.target) =
        (outcomes.filter (·.error.isNone)).map (·.target) ++ (givenFrom origin st bindings).map fun x => .str x.1 := by
  induction bindings with
  | nil => simp [resolveFrom, givenFrom]
  | cons binding rest ih =>
    intro st outcomes
    obtain ⟨target, expression⟩ := binding
    cases heval : Expr.evaluateAny expression st.context with
    | error refusal =>
      cases refusal with
      | fault f => simp [resolveFrom, givenFrom, heval]
      | error e => simp [resolveFrom, givenFrom, heval, ih]
    | ok v =>
      cases target with
      | str path => simp [resolveFrom, givenFrom, heval, ih]
      | _ => simp [resolveFrom, givenFrom, heval]

/-- A target lies below one that comes before it. -/
def Nests (given : List (String × Value)) : Prop :=
  ∃ a b, [a, b].Sublist (given.map Prod.fst) ∧ segmentsOf a <+: segmentsOf b ∧ segmentsOf a ≠ segmentsOf b

/-- The mapping is one of those that the values brought along, or was made for the
result of the bindings. -/
def Brought (origin : Origin) (given : List (String × Value)) (m : MapId) : Prop :=
  m.origin = origin ∨ ∃ x ∈ given, x.2.Holds m

/-- What has been resolved so far is accounted for by what has been given so far. -/
structure BindingState.Accounted (origin : Origin) (given : List (String × Value)) (st : BindingState) : Prop where
  /-- Only below a target that was given can there be a shared mapping. -/
  free : ∀ q, st.inputs.Free q ∨ ∃ x ∈ given, segmentsOf x.1 <+: q ∧ segmentsOf x.1 ≠ q
  held : ∀ m, (Value.dict none st.inputs).Holds m → Brought origin given m
  written : ∀ w ∈ st.writes, Nests given ∧ Brought origin given w.id

namespace BindingState.Accounted

variable {origin : Origin} {given : List (String × Value)} {st : BindingState}

theorem put (h : st.Accounted origin given) (path : String) (v : Value) :
    (st.put origin (segmentsOf path) v).Accounted origin (given ++ [(path, v)]) := by
  have hmore : ∀ {m}, Brought origin given m → Brought origin (given ++ [(path, v)]) m := fun hm =>
    hm.imp_right fun ⟨x, hx, hm⟩ => ⟨x, List.mem_append_left _ hx, hm⟩
  have hnew : ∀ {m}, v.Holds m → Brought origin (given ++ [(path, v)]) m := fun hm =>
    .inr ⟨_, List.mem_append_right _ List.mem_cons_self, hm⟩
  have hnests : Nests given → Nests (given ++ [(path, v)]) := by
    rintro ⟨a, b, hsub, hbelow⟩
    exact ⟨a, b, hsub.trans (by simp), hbelow⟩
  have hearlier : ∀ {q}, (∃ x ∈ given, segmentsOf x.1 <+: q ∧ segmentsOf x.1 ≠ q) →
      ∃ x ∈ given ++ [(path, v)], segmentsOf x.1 <+: q ∧ segmentsOf x.1 ≠ q := fun ⟨x, hx, hbelow⟩ =>
    ⟨x, List.mem_append_left _ hx, hbelow⟩
  unfold BindingState.put
  split
  case h_1 =>
    refine ⟨fun q => ?free, fun m hm => ?held, fun w hw => (h.written w hw).imp hnests hmore⟩
    case free =>
      refine (h.free q).elim (fun hfree => ?_) fun hx => .inr (hearlier hx)
      by_cases hself : segmentsOf path = q
      · exact .inl (hself ▸ Entries.Free.setPath_self v (hself ▸ hfree))
      by_cases hprefix : segmentsOf path <+: q
      · exact .inr ⟨_, List.mem_append_right _ List.mem_cons_self, hprefix, hself⟩
      · exact .inl (hfree.setPath (segmentsOf_ne_nil path) hprefix v)
    case held => exact (Entries.holds_of_setPath hm).elim (fun hm => hmore (h.held m hm)) hnew
  case h_2 id field inner hwrite =>
    obtain ⟨hid, _⟩ := Entries.pathWrite_holds (m := id) hwrite
    have hvalue : ∀ {m}, (inner.adopt origin (segmentsOf path)).Holds m → Brought origin (given ++ [(path, v)]) m :=
      fun hm => hm.of_adopt.elim (fun hm => hnew ((Entries.pathWrite_holds hwrite).2 hm)) .inl
    refine ⟨fun q => ?free, fun m hm => ?held, fun w hw => ?written⟩
    case free => exact (h.free q).imp (Entries.Free.receiveEntries _) hearlier
    case held =>
      have hm : ((Value.dict none st.inputs).receive ⟨id, field, inner.adopt origin (segmentsOf path)⟩).Holds m := by
        simpa [Value.receive] using hm
      exact hm.of_receive.elim (fun hm => hmore (h.held m hm)) hvalue
    case written =>
      rcases List.mem_append.mp hw with hw | hw
      · exact (h.written w hw).imp hnests hmore
      cases List.mem_singleton.mp hw
      refine ⟨?_, hmore (h.held id hid)⟩
      obtain hfree | ⟨x, hx, hbelow⟩ := h.free (segmentsOf path)
      · have hnone := @Entries.Free.pathWrite _ v 0 _ hfree
        rw [hwrite] at hnone
        cases hnone
      · refine ⟨x.1, path, ?_, hbelow⟩
        rw [List.map_append]
        exact (List.singleton_sublist.mpr (List.mem_map_of_mem hx)).append (.refl _)

/-- So is what is resolved in the end. -/
theorem resolveFrom (h : st.Accounted origin given) (outcomes : List BindingOutcome) (bindings : List (Value × Value)) :
    ∀ w ∈ (resolveFrom origin st outcomes bindings).writes,
      Nests (given ++ givenFrom origin st bindings) ∧ Brought origin (given ++ givenFrom origin st bindings) w.id := by
  induction bindings generalizing st given outcomes with
  | nil => simpa [Workflow.resolveFrom, givenFrom] using h.written
  | cons binding rest ih =>
    obtain ⟨target, expression⟩ := binding
    cases heval : Expr.evaluateAny expression st.context with
    | error refusal =>
      cases refusal with
      | fault f => simpa [Workflow.resolveFrom, givenFrom, heval] using h.written
      | error e => simpa [Workflow.resolveFrom, givenFrom, heval] using ih h _
    | ok v =>
      cases target with
      | str path => simpa [Workflow.resolveFrom, givenFrom, heval] using ih (h.put path v) _
      | _ => simpa [Workflow.resolveFrom, givenFrom, heval] using h.written

end BindingState.Accounted

/-- What bindings write to is accounted for by what they give. -/
theorem resolveBindings_written (origin : Origin) (bindings : Value) (nodes : List Node) (outputs state : Entries) :
    ∀ w ∈ (resolveBindings origin bindings nodes outputs state).writes,
      Nests (givenBy origin bindings nodes outputs state) ∧
        Brought origin (givenBy origin bindings nodes outputs state) w.id := by
  unfold resolveBindings givenBy
  split
  · exact List.forall_mem_nil _
  split
  · exact List.forall_mem_nil _
  next context hcontext =>
    rw [hcontext]
    cases bindings with
    | dict id es =>
      have hempty : BindingState.Accounted origin [] ⟨[], context, []⟩ :=
        ⟨fun q => .inl (Entries.free_nil q), fun m hm => by simp [Value.holds_dict] at hm, List.forall_mem_nil _⟩
      simpa using hempty.resolveFrom [] es
    | _ => exact List.forall_mem_nil _

/-- Behind a path at which a shared mapping was put, it is that mapping that a value
is written to. -/
theorem Entries.pathWrite_below {p : List String} (hp : p ≠ []) (m : MapId) (fs : Entries) (f : String) (v : Value) :
    ∀ {depth : Nat} {id : Option MapId} {es : Entries},
      pathWrite (fun _ => none) depth id (setPath (fun _ => none) depth es (.dict (some m) fs) p) v (p ++ [f]) =
        (some m, f, v) := by
  induction p with
  | nil => exact absurd rfl hp
  | cons k ks ih =>
    intro depth id es
    rcases ks with _ | ⟨k', ks⟩
    · simp [setPath, pathWrite, field?_setField_same]
    · rw [setPath_cons]
      simpa [pathWrite, field?_setField_same] using ih (by simp)

/-- Where one target lies a step below another, at which a shared mapping has been
put, that mapping gets the field, for everyone who holds it. -/
theorem writes_of_target_below {origin : Origin} {id : Option MapId} {a b f e e' : String} {nodes : List Node}
    {outputs state context fs : Entries} {m : MapId} {v : Value}
    (hcontext : evalContext nodes outputs state (some ⟨origin, [stateName], 0⟩) = .ok context)
    (hbelow : segmentsOf b = segmentsOf a ++ [f]) (ha : Expr.evaluate e context = .ok (.dict (some m) fs))
    (hb : Expr.evaluate e' context = .ok v) :
    (resolveBindings origin (.dict id [(.str a, .str e), (.str b, .str e')]) nodes outputs state).writes =
      [⟨m, f, v.adopt origin (segmentsOf b)⟩] := by
  have hfirst := @BindingState.put_of_free ⟨[], context, []⟩ _ (Entries.free_nil (segmentsOf a)) origin
    (.dict (some m) fs)
  have hsecond := @Entries.pathWrite_below _ (segmentsOf_ne_nil a) m fs f v 0 none []
  rw [← hbelow] at hsecond
  rw [resolveBindings_of_context hcontext, resolveFrom_given ⟨[], context, []⟩ ha, hfirst,
    resolveFrom_given ⟨_, context, []⟩ hb]
  simp [resolveFrom, BindingState.put, hsecond]

/-- A node under the label `A`. -/
def labelled : Node := ⟨.ofString "a", .tool, .str "A", .record [], .null⟩

/-- What the node has put out. -/
def labelledOutput : Value := (Value.record [("k", .int 1)]).adopt .outputs

end Workflow
