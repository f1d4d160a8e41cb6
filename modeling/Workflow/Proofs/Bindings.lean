import Mathlib.Data.List.Pairwise
import Mathlib.Data.List.Perm.Basic
import Workflow.Proofs.Targets

/-!
# Workflow.Proofs.Bindings

Bindings resolve independently of one another.

1. A value that is put at a path is found there, and what lies off the path stays
   as it was (`Value.at?_setPath_self`, `Value.at?_setPath_off`).
2. The order in which values are put at paths that do not lead through each other
   shows in the order of keys only (`Value.Same.place_perm`).
3. So where no target is a dotted prefix of another, what the bindings of a node
   give can be read off each of them by itself (`bindings_independent`).
-/

namespace Workflow

/-! ## Places in values -/

/-- What lies in a value behind a sequence of keys. -/
def Value.at? : Value → List Key → Option Value
  | v, [] => some v
  | .dict _ es, k :: ks => (Entries.get? es k).bind fun v => v.at? ks
  | _, _ :: _ => none

/-- The keys of the segments of a path. -/
def pathKeys (p : List String) : List Key := p.map Key.ofString

theorem pathKeys_prefix {p q : List String} : pathKeys p <+: pathKeys q ↔ p <+: q := by
  constructor
  · intro h
    have htake := List.prefix_iff_eq_take.mp h
    rw [pathKeys, pathKeys, List.length_map, ← List.map_take] at htake
    have hinjective : Function.Injective Key.ofString := fun _ _ heq => Key.ofString_inj.mp heq
    exact (List.map_injective_iff.mpr hinjective htake) ▸ List.take_prefix _ _
  · exact fun h => h.map _

/-- Neither of two sequences begins with the other. -/
def Diverge {α : Type} (p q : List α) : Prop := ¬p <+: q ∧ ¬q <+: p

instance {α : Type} [DecidableEq α] (p q : List α) : Decidable (Diverge p q) := inferInstanceAs (Decidable (_ ∧ _))

theorem Diverge.symm {α : Type} {p q : List α} (h : Diverge p q) : Diverge q p := ⟨h.2, h.1⟩

theorem Diverge.of_cons {α : Type} {x : α} {p q : List α} (h : Diverge (x :: p) (x :: q)) : Diverge p q :=
  ⟨fun hp => h.1 ((List.prefix_cons_inj x).mpr hp), fun hq => h.2 ((List.prefix_cons_inj x).mpr hq)⟩

theorem Diverge.ne_nil {α : Type} {p q : List α} (h : Diverge p q) : p ≠ [] := by
  rintro rfl
  exact h.1 List.nil_prefix

theorem diverge_pathKeys {p q : List String} : Diverge (pathKeys p) (pathKeys q) ↔ Diverge p q := by
  rw [Diverge, Diverge, pathKeys_prefix, pathKeys_prefix]

namespace Value

theorem at?_dict_nil {id : Option MapId} {ks : List Key} (h : ks ≠ []) : (Value.dict id []).at? ks = none := by
  cases ks with
  | nil => exact absurd rfl h
  | cons k ks => rfl

/-- What lies further on behind a field lies in the mapping in which paths go on
there. -/
theorem at?_next (id : Option MapId) (es : Entries) (k : String) {ks : List Key} (h : ks ≠ []) :
    (Value.dict id es).at? (Key.ofString k :: ks) = (Value.dict (es.next k).1 (es.next k).2).at? ks := by
  rcases ks with _ | ⟨x, xs⟩
  · exact absurd rfl h
  unfold Entries.next Entries.field?
  rw [at?]
  cases Entries.get? es (Key.ofString k) with
  | none => rfl
  | some v => cases v <;> rfl

/-- A value is found where it was put. -/
theorem at?_setPath_self {p : List String} (hp : p ≠ []) (v : Value) :
    ∀ {depth : Nat} {id : Option MapId} {es : Entries},
      (Value.dict id (Entries.setPath (fun _ => none) depth es v p)).at? (pathKeys p) = some v := by
  induction p with
  | nil => exact absurd rfl hp
  | cons k ps ih =>
    intro depth id es
    rcases ps with _ | ⟨k', ps⟩
    · simp [Entries.setPath, pathKeys, at?, Entries.setField, Entries.get?_set_same]
    · rw [Entries.setPath_cons, pathKeys, List.map_cons, at?_next _ _ _ (by simp), Entries.next_setField]
      exact ih (by simp)

/-- Off the path at which a value is put nothing changes. -/
theorem at?_setPath_off {p : List String} (v : Value) :
    ∀ {depth : Nat} {id : Option MapId} {es : Entries} {ks : List Key}, Diverge (pathKeys p) ks →
      (Value.dict id (Entries.setPath (fun _ => none) depth es v p)).at? ks = (Value.dict id es).at? ks := by
  induction p with
  | nil => exact fun h => absurd rfl h.ne_nil
  | cons k ps ih =>
    intro depth id es ks h
    rcases ks with _ | ⟨x, xs⟩
    · exact absurd rfl h.symm.ne_nil
    by_cases hx : x = Key.ofString k
    · subst hx
      have hrest : Diverge (pathKeys ps) xs := h.of_cons
      rcases ps with _ | ⟨k', ps⟩
      · exact absurd rfl hrest.ne_nil
      rw [Entries.setPath_cons, at?_next _ _ _ hrest.symm.ne_nil, Entries.next_setField, ih hrest,
        at?_next _ _ _ hrest.symm.ne_nil]
    · obtain ⟨f, hf⟩ := Entries.exists_setPath_eq depth v k ps
      rw [hf, at?, at?, Entries.setField, Entries.get?_set_other (Value.key?_str k) hx]

end Value

/-! ## Values at several paths -/

/-- Puts a value at a path. -/
def place (es : Entries) (x : List String × Value) : Entries := Entries.setPath (fun _ => none) 0 es x.2 x.1

/-- The paths do not lead through each other. -/
def Scattered (xs : List (List String × Value)) : Prop := xs.Pairwise fun x y => Diverge x.1 y.1

theorem at?_place_off {xs : List (List String × Value)} {ks : List Key} (h : ∀ x ∈ xs, Diverge (pathKeys x.1) ks) :
    ∀ es : Entries, (Value.dict none (xs.foldl place es)).at? ks = (Value.dict none es).at? ks := by
  induction xs with
  | nil => exact fun _ => rfl
  | cons x xs ih =>
    intro es
    obtain ⟨hx, hxs⟩ := List.forall_mem_cons.mp h
    rw [List.foldl_cons, ih hxs, place, Value.at?_setPath_off _ hx]

/-- Every value is found at its path. -/
theorem at?_place {xs : List (List String × Value)} (hscattered : Scattered xs) (hne : ∀ x ∈ xs, x.1 ≠ [])
    {p : List String} {v : Value} (h : (p, v) ∈ xs) (es : Entries) :
    (Value.dict none (xs.foldl place es)).at? (pathKeys p) = some v := by
  induction xs generalizing es with
  | nil => cases h
  | cons x xs ih =>
    obtain ⟨hfirst, hrest⟩ := List.pairwise_cons.mp hscattered
    rcases List.mem_cons.mp h with rfl | h
    · have hoff : ∀ y ∈ xs, Diverge (pathKeys y.1) (pathKeys p) := fun y hy => diverge_pathKeys.mpr (hfirst y hy).symm
      rw [List.foldl_cons, at?_place_off hoff, place, Value.at?_setPath_self (hne _ List.mem_cons_self)]
    · exact ih hrest (fun y hy => hne y (List.mem_cons_of_mem _ hy)) h _

/-- Nothing lies off all the paths. -/
theorem exists_of_at?_place {xs : List (List String × Value)} {ks : List Key} {v : Value} (hks : ks ≠ [])
    (h : (Value.dict none (xs.foldl place [])).at? ks = some v) :
    ∃ x ∈ xs, pathKeys x.1 <+: ks ∨ ks <+: pathKeys x.1 := by
  by_contra hnone
  have hoff : ∀ x ∈ xs, Diverge (pathKeys x.1) ks := fun x hx =>
    ⟨fun hp => hnone ⟨x, hx, .inl hp⟩, fun hp => hnone ⟨x, hx, .inr hp⟩⟩
  rw [at?_place_off hoff, Value.at?_dict_nil hks] at h
  cases h

/-! ## Values up to the order of keys -/

/-- The values are the same up to the order in which their mappings hold the keys. -/
inductive Value.Same : Value → Value → Prop
  | refl (v : Value) : Same v v
  | dict {id : Option MapId} {es es' : Entries} (keys : (es.map Prod.fst).Perm (es'.map Prod.fst))
      (values : ∀ k v v', Entries.get? es k = some v → Entries.get? es' k = some v' → Same v v') :
      Same (.dict id es) (.dict id es')

namespace Entries

theorem isSome_get? {es : Entries} {k : Key} : (es.get? k).isSome ↔ ∃ name ∈ es.map Prod.fst, name.key? = some k := by
  induction es with
  | nil => simp [get?]
  | cons e es ih =>
    by_cases hk : e.1.key? = some k
    · simp [get?, hk]
    · simpa [get?, hk] using ih

/-- A field that is put into a mapping keeps its place in it, or comes last. -/
theorem keys_setField (es : Entries) (k : String) (v : Value) :
    (es.setField k v).map Prod.fst =
      if (es.field? k).isSome then es.map Prod.fst else es.map Prod.fst ++ [.str k] := by
  unfold setField field?
  induction es with
  | nil => rfl
  | cons e es ih =>
    by_cases hk : e.1.key? = some (Key.ofString k)
    · simp [set, get?, hk]
    · simp only [set, get?, hk, if_false, List.map_cons, ih]
      split <;> rfl

theorem get?_setField (es : Entries) (k : String) (v : Value) (j : Key) :
    (es.setField k v).get? j = if j = Key.ofString k then some v else es.get? j := by
  split
  next hj => exact hj ▸ get?_set_same (Value.key?_str k)
  next hj => exact get?_set_other (Value.key?_str k) hj

theorem next_setField_other {k l : String} (hne : k ≠ l) (es : Entries) (v : Value) :
    (es.setField l v).next k = es.next k := by
  unfold next
  rw [field?_setField_other es v hne]

theorem setField_setField (es : Entries) (k : String) (v w : Value) :
    (es.setField k v).setField k w = es.setField k w := by
  unfold setField
  induction es with
  | nil => simp [set]
  | cons e es ih =>
    by_cases hk : e.1.key? = some (Key.ofString k)
    · simp [set, hk]
    · simp [set, hk, ih]

end Entries

namespace Value.Same

variable {v v' v'' : Value} {id : Option MapId} {es es' : Entries}

theorem dict_iff : Same (.dict id es) (.dict id es') ↔ (es.map Prod.fst).Perm (es'.map Prod.fst) ∧
    ∀ k v v', Entries.get? es k = some v → Entries.get? es' k = some v' → Same v v' := by
  constructor
  · intro h
    cases h with
    | refl =>
      refine ⟨.refl _, fun k v v' hv hv' => ?_⟩
      rw [hv] at hv'
      cases hv'
      exact .refl v
    | dict keys values => exact ⟨keys, values⟩
  · exact fun h => .dict h.1 h.2

/-- Mappings that are the same up to order hold the same under a key, up to order. -/
theorem get? (h : Same (.dict id es) (.dict id es')) (k : Key) :
    (Entries.get? es k = none ∧ Entries.get? es' k = none) ∨
      ∃ v v', Entries.get? es k = some v ∧ Entries.get? es' k = some v' ∧ Same v v' := by
  obtain ⟨keys, values⟩ := dict_iff.mp h
  have hsome : (Entries.get? es k).isSome ↔ (Entries.get? es' k).isSome := by
    simp only [Entries.isSome_get?, keys.mem_iff]
  cases hv : Entries.get? es k with
  | none =>
    rw [hv] at hsome
    exact .inl ⟨rfl, Option.not_isSome_iff_eq_none.mp fun hv' => by simpa using hsome.mpr hv'⟩
  | some v =>
    rw [hv] at hsome
    obtain ⟨v', hv'⟩ := Option.isSome_iff_exists.mp (hsome.mp rfl)
    exact .inr ⟨v, v', rfl, hv', values k v v' hv hv'⟩

theorem trans (h : Same v v') (h' : Same v' v'') : Same v v'' := by
  induction h generalizing v'' with
  | refl => exact h'
  | @dict id es es' keys values ih =>
    have hfirst : Same (.dict id es) (.dict id es') := .dict keys values
    cases h' with
    | refl => exact hfirst
    | dict keys' values' =>
      refine .dict (keys.trans keys') fun k a c ha hc => ?_
      obtain ⟨hnone, _⟩ | ⟨_, b, _, hb, _⟩ := hfirst.get? k
      · rw [ha] at hnone
        cases hnone
      · exact ih k a b ha hb (values' k b c hb hc)

theorem setField (h : Same (.dict id es) (.dict id es')) (k : String) (hv : Same v v') :
    Same (.dict id (es.setField k v)) (.dict id (es'.setField k v')) := by
  obtain ⟨keys, values⟩ := dict_iff.mp h
  refine .dict ?_ fun j a b ha hb => ?_
  · rw [Entries.keys_setField, Entries.keys_setField]
    unfold Entries.field?
    obtain ⟨hnone, hnone'⟩ | ⟨_, _, hsome, hsome', _⟩ := h.get? (Key.ofString k)
    · rw [hnone, hnone']
      exact keys.append_right _
    · rw [hsome, hsome']
      exact keys
  · rw [Entries.get?_setField] at ha hb
    split at ha
    next hj =>
      rw [if_pos hj] at hb
      cases ha
      cases hb
      exact hv
    next hj =>
      rw [if_neg hj] at hb
      exact values j a b ha hb

/-- In what order two fields are put into a mapping shows in the order of keys only. -/
theorem setField_swap {k l : String} (hne : k ≠ l) (v w : Value) (id : Option MapId) (es : Entries) :
    Same (.dict id ((es.setField k v).setField l w)) (.dict id ((es.setField l w).setField k v)) := by
  refine .dict ?_ fun j a b ha hb => ?_
  · simp only [Entries.keys_setField, Entries.field?_setField_other _ _ hne, Entries.field?_setField_other _ _ hne.symm]
    split
    · split
      · exact .refl _
      · exact .refl _
    · split
      · exact .refl _
      · rw [List.append_assoc, List.append_assoc]
        exact (List.Perm.swap ..).append_left _
  · have hkeys : Key.ofString k ≠ Key.ofString l := fun heq => hne (Key.ofString_inj.mp heq)
    have hsame : Entries.get? ((es.setField k v).setField l w) j = Entries.get? ((es.setField l w).setField k v) j := by
      simp only [Entries.get?_setField]
      by_cases hk : j = Key.ofString k
      · simp [hk, hkeys]
      · simp [hk]
    rw [hsame, hb] at ha
    cases ha
    exact .refl _

/-- The mappings in which a path goes on are the same up to order. -/
theorem next (h : Same (.dict id es) (.dict id es')) (k : String) :
    (es.next k).1 = (es'.next k).1 ∧ Same (.dict (es.next k).1 (es.next k).2) (.dict (es.next k).1 (es'.next k).2) := by
  unfold Entries.next Entries.field?
  obtain ⟨hnone, hnone'⟩ | ⟨_, _, hsome, hsome', hsame⟩ := h.get? (Key.ofString k)
  · rw [hnone, hnone']
    exact ⟨rfl, .refl _⟩
  · rw [hsome, hsome']
    cases hsame with
    | refl => exact ⟨rfl, .refl _⟩
    | dict keys values => exact ⟨rfl, .dict keys values⟩

theorem setPath {p : List String} (v : Value) : ∀ {depth : Nat} {id : Option MapId} {es es' : Entries},
    Same (.dict id es) (.dict id es') →
      Same (.dict id (Entries.setPath (fun _ => none) depth es v p))
        (.dict id (Entries.setPath (fun _ => none) depth es' v p)) := by
  induction p with
  | nil => exact fun h => h
  | cons k ps ih =>
    intro depth id es es' h
    rcases ps with _ | ⟨k', ps⟩
    · exact h.setField k (.refl v)
    obtain ⟨hid, hinner⟩ := h.next k
    rw [Entries.setPath_cons, Entries.setPath_cons, ← hid]
    exact h.setField k (ih hinner)

/-- In what order values are put at two paths that diverge shows in the order of
keys only. -/
theorem setPath_swap {p q : List String} (h : Diverge p q) (v w : Value) :
    ∀ {depth : Nat} {id : Option MapId} {es : Entries},
      Same (.dict id (Entries.setPath (fun _ => none) depth (Entries.setPath (fun _ => none) depth es v p) w q))
        (.dict id (Entries.setPath (fun _ => none) depth (Entries.setPath (fun _ => none) depth es w q) v p)) := by
  induction p generalizing q with
  | nil => exact absurd rfl h.ne_nil
  | cons k ps ih =>
    intro depth id es
    rcases q with _ | ⟨l, qs⟩
    · exact absurd rfl h.symm.ne_nil
    by_cases hkl : k = l
    · subst hkl
      have hrest : Diverge ps qs := h.of_cons
      rcases ps with _ | ⟨k', ps⟩
      · exact absurd rfl hrest.ne_nil
      rcases qs with _ | ⟨l', qs⟩
      · exact absurd rfl hrest.symm.ne_nil
      simp only [Entries.setPath_cons, Entries.next_setField, Entries.setField_setField]
      exact (Same.refl _).setField k (ih hrest)
    · obtain ⟨f, hf⟩ := Entries.exists_setPath_eq depth v k ps
      obtain ⟨g, hg⟩ := Entries.exists_setPath_eq depth w l qs
      simp only [hf, hg, Entries.next_setField_other hkl, Entries.next_setField_other (Ne.symm hkl)]
      exact setField_swap hkl _ _ id es

theorem foldl_place (xs : List (List String × Value)) : ∀ {es es' : Entries}, Same (.dict none es) (.dict none es') →
    Same (.dict none (xs.foldl place es)) (.dict none (xs.foldl place es')) := by
  induction xs with
  | nil => exact fun h => h
  | cons x xs ih => exact fun h => ih (h.setPath x.2)

/-- In what order values are put at paths that do not lead through each other shows
in the order of keys only. -/
theorem place_perm {xs ys : List (List String × Value)} (h : xs.Perm ys) (hscattered : Scattered xs) (es : Entries) :
    Same (.dict none (xs.foldl place es)) (.dict none (ys.foldl place es)) := by
  induction h generalizing es with
  | nil => exact .refl _
  | cons x _ ih => exact ih (List.pairwise_cons.mp hscattered).2 _
  | swap x y xs =>
    have hxy : Diverge y.1 x.1 := (List.pairwise_cons.mp hscattered).1 x List.mem_cons_self
    exact foldl_place xs (setPath_swap hxy y.2 x.2)
  | trans hxs _ ih ih' =>
    exact (ih hscattered es).trans (ih' (hxs.pairwise hscattered fun h => h.symm) es)

end Value.Same

/-! ## Bindings -/

/-- Bindings whose targets and expressions are texts. -/
def textBindings (bs : List (String × String)) : Entries := bs.map fun b => (.str b.1, .str b.2)

/-- No target is a dotted prefix of another. -/
def Unnested (bs : List (String × String)) : Prop := bs.Pairwise fun b c => Diverge (segmentsOf b.1) (segmentsOf c.1)

instance (bs : List (String × String)) : Decidable (Unnested bs) := inferInstanceAs (Decidable (bs.Pairwise _))

theorem Unnested.perm {bs cs : List (String × String)} (h : Unnested bs) (hperm : cs.Perm bs) : Unnested cs :=
  hperm.symm.pairwise h fun h => h.symm

/-- The value of a binding's expression with the path of its target, if it has a value. -/
def valueOf? (context : Entries) (b : String × String) : Option (List String × Value) :=
  match Expr.evaluate b.2 context with
  | .ok v => some (segmentsOf b.1, v)
  | .error _ => none

/-- Why a binding's expression has no value, if it has none. -/
def errorOf? (context : Entries) (b : String × String) : Option Expr.EvalError :=
  match Expr.evaluate b.2 context with
  | .ok _ => none
  | .error e => some e

/-- What becomes of a binding. -/
def outcomeOf (context : Entries) (b : String × String) : BindingOutcome := ⟨.str b.1, .str b.2, errorOf? context b⟩

theorem valueOf?_eq_some {context : Entries} {b : String × String} {p : List String} {v : Value} :
    valueOf? context b = some (p, v) ↔ Expr.evaluate b.2 context = .ok v ∧ segmentsOf b.1 = p := by
  unfold valueOf?
  split
  next u heval => simp [heval, and_comm]
  next e heval => simp [heval]

theorem Unnested.scattered {bs : List (String × String)} (h : Unnested bs) (context : Entries) :
    Scattered (bs.filterMap (valueOf? context)) := by
  refine List.Pairwise.filterMap _ ?_ h
  intro b c hbc x hx y hy
  obtain ⟨-, hp⟩ := valueOf?_eq_some.mp hx
  obtain ⟨-, hq⟩ := valueOf?_eq_some.mp hy
  rw [← hp, ← hq]
  exact hbc

/-- Bindings that are not nested are resolved each by itself: all see the same context. -/
theorem resolveFrom_unnested (origin : Origin) {bs : List (String × String)} (h : Unnested bs) :
    ∀ (st : BindingState) (outcomes : List BindingOutcome), (∀ b ∈ bs, st.inputs.Free (segmentsOf b.1)) →
      resolveFrom origin st outcomes (textBindings bs) =
        ⟨(bs.filterMap (valueOf? st.context)).foldl place st.inputs, outcomes ++ bs.map (outcomeOf st.context),
          st.writes, none⟩ := by
  induction bs with
  | nil => simp [textBindings, resolveFrom]
  | cons b bs ih =>
    intro st outcomes hfree
    obtain ⟨hfirst, hrest⟩ := List.pairwise_cons.mp h
    obtain ⟨hb, hbs⟩ := List.forall_mem_cons.mp hfree
    rw [textBindings, List.map_cons]
    cases heval : Expr.evaluate b.2 st.context with
    | error e =>
      rw [resolveFrom_dropped st heval]
      refine (ih hrest st _ hbs).trans ?_
      simp [valueOf?, outcomeOf, errorOf?, heval]
    | ok v =>
      rw [resolveFrom_given st heval, BindingState.put_of_free hb]
      refine (ih hrest _ _ fun c hc => ?_).trans ?_
      · exact (hbs c hc).setPath (segmentsOf_ne_nil b.1) (hfirst c hc).1 v
      · simp [valueOf?, outcomeOf, errorOf?, heval, place]

/-! ## Contexts -/

/-- The output of the last node that has one among those under a label. -/
def lastOutput? (nodes : List Node) (outputs : Entries) (k : Key) : Option Value :=
  nodes.reverse.findSome? fun n => if n.label.key? = some k then Entries.get? outputs n.id.key else none

theorem foldlM_addOutput {nodes : List Node} {outputs : Entries}
    (hlabels : ∀ n ∈ nodes, (Entries.get? outputs n.id.key).isSome → n.label.key?.isSome) (es : Entries) :
    ∃ context, nodes.foldlM (Entries.addOutput outputs) es = .ok context ∧
      ∀ k, Entries.get? context k = (lastOutput? nodes outputs k).or (Entries.get? es k) := by
  induction nodes generalizing es with
  | nil => exact ⟨es, rfl, fun k => rfl⟩
  | cons n nodes ih =>
    obtain ⟨hn, hnodes⟩ := List.forall_mem_cons.mp hlabels
    have hlast : ∀ k, lastOutput? (n :: nodes) outputs k =
        (lastOutput? nodes outputs k).or (if n.label.key? = some k then Entries.get? outputs n.id.key else none) := by
      intro k
      simp [lastOutput?, List.findSome?_append]
    cases hout : Entries.get? outputs n.id.key with
    | none =>
      have hadd : Entries.addOutput outputs es n = .ok es := by simp [Entries.addOutput, hout]
      obtain ⟨context, hcontext, hnames⟩ := ih hnodes es
      refine ⟨context, by rw [List.foldlM_cons, hadd]; exact hcontext, fun k => ?_⟩
      simp [hnames, hlast, hout]
    | some v =>
      obtain ⟨l, hl⟩ := Option.isSome_iff_exists.mp (hn (by rw [hout]; rfl))
      have hadd : Entries.addOutput outputs es n = .ok (es.set n.label l v) := by
        simp only [Entries.addOutput, hout, Value.keyOf, hl]
        rfl
      obtain ⟨context, hcontext, hnames⟩ := ih hnodes (es.set n.label l v)
      refine ⟨context, by rw [List.foldlM_cons, hadd]; exact hcontext, fun k => ?_⟩
      rw [hnames, hlast, hout, hl]
      by_cases hk : k = l
      · subst hk
        rw [Entries.get?_set_same hl]
        simp
      · rw [Entries.get?_set_other hl hk]
        simp [Ne.symm hk]

/-- In the context of the expressions a label stands for the output of the last node
that has one among those under it, and `state` for the state. -/
theorem evalContext_names {nodes : List Node} {outputs : Entries}
    (hlabels : ∀ n ∈ nodes, (Entries.get? outputs n.id.key).isSome → n.label.key?.isSome) (state : Entries)
    (copy : Option MapId) :
    ∃ context, evalContext nodes outputs state copy = .ok context ∧
      ∀ k, Entries.get? context k =
        if k = Key.ofString stateName then some (.dict copy state) else lastOutput? nodes outputs k := by
  obtain ⟨es, hes, hnames⟩ := foldlM_addOutput hlabels []
  refine ⟨es.setField stateName (.dict copy state), ?_, fun k => ?_⟩
  · rw [evalContext, hes]
    rfl
  · rw [Entries.get?_setField, hnames]
    simp [Entries.get?]

/-! ## Independence -/

/-- What bindings come to is what each of them comes to by itself. -/
structure Resolution.Independent (r : Resolution) (bs : List (String × String)) (context : Entries) : Prop where
  /-- The bindings have all been resolved. -/
  finished : r.failure = none
  /-- At a target lies the value of its expression, and nothing if there is none. -/
  value : ∀ a e, (a, e) ∈ bs →
    (Value.dict none r.inputs).at? (pathKeys (segmentsOf a)) = (Expr.evaluate e context).toOption
  /-- Whatever there is lies behind a target with a value, or on the way to one. -/
  outside : ∀ ks v, ks ≠ [] → (Value.dict none r.inputs).at? ks = some v → ∃ a e u, (a, e) ∈ bs ∧
    Expr.evaluate e context = .ok u ∧ (pathKeys (segmentsOf a) <+: ks ∨ ks <+: pathKeys (segmentsOf a))
  /-- The failures are told in order, once each. -/
  skipped : r.skipped = bs.filterMap fun b => (errorOf? context b).map fun e => (.str b.1, .str b.2, e)

theorem independent_of_place {bs : List (String × String)} (h : Unnested bs) (context : Entries) :
    Resolution.Independent ⟨(bs.filterMap (valueOf? context)).foldl place [], bs.map (outcomeOf context), [], none⟩ bs
      context := by
  have hnear : ∀ {ks v}, ks ≠ [] →
      (Value.dict none ((bs.filterMap (valueOf? context)).foldl place [])).at? ks = some v →
      ∃ b ∈ bs, (∃ u, Expr.evaluate b.2 context = .ok u) ∧
        (pathKeys (segmentsOf b.1) <+: ks ∨ ks <+: pathKeys (segmentsOf b.1)) := by
    intro ks v hks hv
    obtain ⟨⟨p, u⟩, hmem, hnear⟩ := exists_of_at?_place hks hv
    obtain ⟨b, hb, hgiven⟩ := List.mem_filterMap.mp hmem
    obtain ⟨hu, rfl⟩ := valueOf?_eq_some.mp hgiven
    exact ⟨b, hb, ⟨u, hu⟩, hnear⟩
  refine ⟨rfl, fun a e hmem => ?_, fun ks v hks hv => ?_, ?_⟩
  · cases heval : Expr.evaluate e context with
    | ok v =>
      have hmem : (segmentsOf a, v) ∈ bs.filterMap (valueOf? context) :=
        List.mem_filterMap.mpr ⟨_, hmem, valueOf?_eq_some.mpr ⟨heval, rfl⟩⟩
      refine at?_place (h.scattered context) (fun x hx => ?_) hmem []
      obtain ⟨b, _, hb⟩ := List.mem_filterMap.mp hx
      exact (valueOf?_eq_some.mp hb).2 ▸ segmentsOf_ne_nil b.1
    | error err =>
      have hne : pathKeys (segmentsOf a) ≠ [] := by simp [pathKeys, segmentsOf_ne_nil]
      refine Option.eq_none_iff_forall_ne_some.mpr fun v hv => ?_
      obtain ⟨b, hb, ⟨u, hu⟩, hnear⟩ := hnear hne hv
      have hother : b ≠ (a, e) := by
        rintro rfl
        rw [heval] at hu
        cases hu
      have : Std.Symm fun b c : String × String => Diverge (segmentsOf b.1) (segmentsOf c.1) := ⟨fun _ _ h => h.symm⟩
      have hdiverge := diverge_pathKeys.mpr (List.Pairwise.forall h hb hmem hother)
      exact hnear.elim hdiverge.1 hdiverge.2
  · obtain ⟨⟨a, e⟩, hb, ⟨u, hu⟩, hnear⟩ := hnear hks hv
    exact ⟨a, e, u, hb, hu, hnear⟩
  · simp [Resolution.skipped, List.filterMap_map, outcomeOf, Function.comp_def]

/-- A node that only puts something out under a label. -/
def speaker (id label : String) : Node := ⟨.ofString id, .tool, .str label, .record [], .null⟩

/-- Two nodes under one label, and one under the name of the state. -/
def speakers : List Node := [speaker "a" "A", speaker "b" "A", speaker "c" "state"]

/-- What they have put out. -/
def spoken : Entries := [(.str "a", .int 1), (.str "b", .int 2), (.str "c", .int 3)]

/-- A binding for each of the names, and one for a name that stands for nothing. -/
def heard : List (String × String) := [("x.y", "A"), ("x.z", "B"), ("w", "state.k")]

end Workflow
