import Workflow.Proofs.Bindings
import Workflow.Proofs.Sharing

/-!
# Workflow.Proofs.Lenses

Dotted paths are lenses into nested mappings.

1. Of two values put at one path the later one stays, and nothing is left of the
   earlier one (`Entries.setPath_setPath`).
2. Where no mapping has two places in a value, the one write in place by which a
   value gets to a path changes nothing but what lies at the path
   (`Value.receive_pathWrite`).
3. With what holds of paths that diverge, the laws of a lens follow for every
   mapping, every path and every value (`setPath_lens`).
-/

namespace Workflow

/-! ## Two values at one path -/

/-- Of two values put at a path the second one stays. -/
theorem Entries.setPath_setPath {p : List String} (v w : Value) : ∀ {depth : Nat} {es : Entries},
    setPath (fun _ => none) depth (setPath (fun _ => none) depth es v p) w p = setPath (fun _ => none) depth es w p := by
  induction p with
  | nil => exact rfl
  | cons k ps ih =>
    intro depth es
    rcases ps with _ | ⟨k', ps⟩
    · exact setField_setField es k v w
    · rw [setPath_cons, setPath_cons, next_setField, setField_setField, ih, ← setPath_cons]

/-! ## Mappings without shared parts -/

namespace Value

/-- No mapping has a place in both values. -/
def Foreign (v w : Value) : Prop := ∀ m, v.Holds m → ¬w.Holds m

/-- No mapping has two places in the value. -/
inductive Unshared : Value → Prop
  | list {xs : List Value} (parts : ∀ x ∈ xs, Unshared x) (apart : xs.Pairwise Foreign) : Unshared (.list xs)
  | tuple {xs : List Value} (parts : ∀ x ∈ xs, Unshared x) (apart : xs.Pairwise Foreign) : Unshared (.tuple xs)
  | dict {id : Option MapId} {es : Entries} (own : ∀ m, id = some m → ∀ entry ∈ es, ¬entry.2.Holds m)
      (parts : ∀ entry ∈ es, Unshared entry.2) (apart : es.Pairwise fun x y => x.2.Foreign y.2) :
      Unshared (.dict id es)
  | other {v : Value} (h : ∀ m, ¬v.Holds m) : Unshared v

theorem receiveEntries_of_not_holds {w : Write} {es : Entries} (h : ∀ entry ∈ es, ¬entry.2.Holds w.id) :
    receiveEntries w es = es := by
  rw [receiveEntries_eq, List.map_congr_left fun entry hmem => by rw [receive_of_not_holds (h entry hmem)],
    List.map_id']

/-- A mapping in which only the value of one field holds what is written to changes
at that field only. -/
theorem receiveEntries_of_apart {w : Write} {es : Entries} {k : String} {u : Value}
    (apart : es.Pairwise fun x y => x.2.Foreign y.2) (hfield : es.field? k = some u) (hu : u.Holds w.id) :
    receiveEntries w es = es.setField k (u.receive w) := by
  unfold Entries.field? at hfield
  unfold Entries.setField
  induction es with
  | nil => cases hfield
  | cons entry rest ih =>
    obtain ⟨name, v⟩ := entry
    obtain ⟨hfirst, hrest⟩ := List.pairwise_cons.mp apart
    unfold Entries.get? at hfield
    unfold Entries.set
    rw [receiveEntries]
    split at hfield
    next hname =>
      cases hfield
      rw [if_pos hname, receiveEntries_of_not_holds fun entry hmem => hfirst entry hmem _ hu]
    next hname =>
      obtain ⟨name', hmem⟩ := Entries.mem_of_get? hfield
      rw [if_neg hname, ih hrest hfield, receive_of_not_holds fun hv => hfirst _ hmem _ hv hu]

/-- A write to the mapping itself puts the value into its field. -/
theorem receive_self {m : MapId} {es : Entries} (own : ∀ entry ∈ es, ¬entry.2.Holds m) (k : String) (v : Value) :
    (Value.dict (some m) es).receive ⟨m, k, v⟩ = .dict (some m) (es.setField k v) := by
  have hes : receiveEntries ⟨m, k, v⟩ es = es := receiveEntries_of_not_holds own
  rw [receive, hes, if_pos rfl]

/-- Where no mapping has two places, the write in place by which a value gets to a
path changes nothing but what lies at the path. -/
theorem receive_pathWrite {p : List String} (hp : p ≠ []) {v : Value} {m : MapId} {k : String} {u : Value} :
    ∀ {depth : Nat} {id : Option MapId} {es : Entries}, (Value.dict id es).Unshared →
      Entries.pathWrite (fun _ => none) depth id es v p = (some m, k, u) →
      (Value.dict id es).receive ⟨m, k, u⟩ = .dict id (Entries.setPath (fun _ => none) depth es v p) := by
  induction p with
  | nil => exact absurd rfl hp
  | cons first rest ih =>
    intro depth id es hunshared hwrite
    cases hunshared with
    | other h =>
      -- A mapping that holds none has no identity itself.
      exact absurd (Entries.pathWrite_holds (m := m) hwrite).1 (h m)
    | dict own parts apart =>
      rcases rest with _ | ⟨second, rest⟩
      · cases hwrite
        exact receive_self (own m rfl) _ _
      unfold Entries.pathWrite at hwrite
      unfold Entries.setPath
      split at hwrite
      next i inner hfield =>
        have hheld : (Value.dict i inner).Holds m := (Entries.pathWrite_holds (m := m) hwrite).1
        obtain ⟨name, hmem⟩ := Entries.mem_of_get? hfield
        have hid : id ≠ some m := fun hid => own m hid _ hmem hheld
        have hinner := ih (by simp) (parts _ hmem) hwrite
        rw [receive, if_neg hid, receiveEntries_of_apart apart hfield hheld, hinner]
      next hnone =>
        cases hwrite
        exact receive_self (own m rfl) _ _

end Value

/-! ## The laws of a lens -/

/-- What lies at a dotted path of a value. -/
def Value.atPath? (v : Value) (path : String) : Option Value := v.at? (pathKeys (segmentsOf path))

/-- Neither of two dotted paths begins with the other, segment by segment. -/
def Incomparable (p q : String) : Prop := Diverge (segmentsOf p) (segmentsOf q)

instance (p q : String) : Decidable (Incomparable p q) := inferInstanceAs (Decidable (Diverge _ _))

theorem Value.setPath_dict (id : Option MapId) (es : Entries) (path : String) (v : Value) :
    (Value.dict id es).setPath (.str path) v =
      .ok (.dict id (Entries.setPath (fun _ => none) 0 es v (segmentsOf path))) := by
  unfold Value.setPath
  rfl

/-- A path is a lens into every mapping, whatever lies on the way.  A value that is
put at it is found there; what lies at incomparable paths stays; a second value at
the same path leaves nothing of the first; and with a value at an incomparable path
the order shows in the order of keys only.  Where no mapping has two places, all of
this is done by one write to the mapping in which the path ends. -/
theorem setPath_lens (id : Option MapId) (es : Entries) (p : String) (v : Value) :
    ∃ t, (Value.dict id es).setPath (.str p) v = .ok t ∧
      t.atPath? p = some v ∧
      (∀ q, Incomparable p q → t.atPath? q = (Value.dict id es).atPath? q) ∧
      (∀ w, t.setPath (.str p) w = (Value.dict id es).setPath (.str p) w) ∧
      (∀ q w, Incomparable p q → ∃ other both both',
        (Value.dict id es).setPath (.str q) w = .ok other ∧ t.setPath (.str q) w = .ok both ∧
          other.setPath (.str p) v = .ok both' ∧ both.Same both') ∧
      ((Value.dict id es).Unshared → ∀ m k u,
        Entries.pathWrite (fun _ => none) 0 id es v (segmentsOf p) = (some m, k, u) →
          (Value.dict id es).receive ⟨m, k, u⟩ = t) := by
  refine ⟨_, Value.setPath_dict id es p v, ?_, fun q hq => ?_, fun w => ?_, fun q w hq => ?_, fun hes m k u h => ?_⟩
  · exact Value.at?_setPath_self (segmentsOf_ne_nil p) v
  · exact Value.at?_setPath_off v (diverge_pathKeys.mpr hq)
  · rw [Value.setPath_dict, Value.setPath_dict, Entries.setPath_setPath]
  · exact ⟨_, _, _, Value.setPath_dict .., Value.setPath_dict .., Value.setPath_dict ..,
      Value.Same.setPath_swap hq v w⟩
  · exact Value.receive_pathWrite (segmentsOf_ne_nil p) hes h

/-- A mapping with a number where paths may lead, and a mapping beside it. -/
def crossing : Entries :=
  [(.str "a", .int 1), (.str "b", .dict (some ⟨.outputs, [], 1⟩) [(.str "c", .int 2)])]

/-- Two paths through the number, one of them with an empty segment: the number makes
way for one mapping that holds both values, in whichever order they come. -/
theorem crossing_lens :
    let t := Value.dict (some ⟨.outputs, [], 0⟩) crossing
    Incomparable "a.x" "a..y" ∧ t.Unshared ∧ ∃ one other both both',
      t.setPath (.str "a.x") (.int 3) = .ok one ∧ one.atPath? "a.x" = some (.int 3) ∧
      one.atPath? "b.c" = some (.int 2) ∧ t.setPath (.str "a..y") (.int 4) = .ok other ∧
      one.setPath (.str "a..y") (.int 4) = .ok both ∧ other.setPath (.str "a.x") (.int 3) = .ok both' ∧
      both.Same both' ∧ t.receive ⟨⟨.outputs, [], 0⟩, "a", .dict none [(.str "x", .int 3)]⟩ = one := by
  intro t
  have hunshared : t.Unshared := by
    refine .dict (fun m hm entry hmem h => ?_) (fun entry hmem => ?_) (List.pairwise_pair.mpr fun m h _ => ?_)
    · cases hm
      simp only [crossing, List.mem_cons, List.not_mem_nil, or_false] at hmem
      rcases hmem with rfl | rfl
      · cases h
      · rcases Value.holds_dict.mp h with h | ⟨entry, hmem, h⟩
        · exact absurd h (by decide)
        · cases List.mem_singleton.mp hmem
          cases h
    · simp only [crossing, List.mem_cons, List.not_mem_nil, or_false] at hmem
      rcases hmem with rfl | rfl
      · exact .other fun _ => nofun
      · refine .dict (fun m _ entry hmem h => ?_) (fun entry hmem => ?_) (List.pairwise_singleton _ _)
        · cases List.mem_singleton.mp hmem
          cases h
        · cases List.mem_singleton.mp hmem
          exact .other fun _ => nofun
    · cases h
  have hapart : Incomparable "a.x" "a..y" := by decide +kernel
  obtain ⟨one, hone, hread, hoff, -, hswap, hplace⟩ :=
    setPath_lens (some ⟨.outputs, [], 0⟩) crossing "a.x" (.int 3)
  obtain ⟨other, both, both', hother, hboth, hboth', hsame⟩ := hswap "a..y" (.int 4) hapart
  exact ⟨hapart, hunshared, one, other, both, both', hone, hread, hoff "b.c" (by decide +kernel), hother, hboth, hboth',
    hsame, hplace hunshared _ _ _ rfl⟩

end Workflow
