import Workflow.Json.Write
import Workflow.Proofs.Results
import Workflow.Proofs.Sharing

/-!
# Workflow.Proofs.Printing

Which values have a JSON text.

A style that writes numbers of every kind, and any value as text at worst, still
has no text for three things: an integer of more digits than are converted, a key
that is none in JSON, and a mapping inside itself.

1. A value has a text if none of the three occurs in it (`write_isOk`).
2. Where it has none, the fault says which of the three was found
   (`write_error`).
-/

namespace Workflow

namespace Json

/-! ## Values with a text -/

/-- Can the value be a key of an object? -/
def Nameable : Value → Prop
  | .str _ | .float _ | .bool _ | .null => True
  | .int n => (Value.int n).hasLongInt = false
  | _ => False

/-- Is the value written as an array or as an object? -/
def isNested : Value → Bool
  | .list _ | .tuple _ | .dict .. => true
  | _ => false

/-- Integers are short, keys are keys in JSON too, and no mapping lies inside
itself. -/
inductive Printable : Value → Prop
  | list {xs : List Value} (items : ∀ x ∈ xs, Printable x) : Printable (.list xs)
  | tuple {xs : List Value} (items : ∀ x ∈ xs, Printable x) : Printable (.tuple xs)
  | dict {id : Option MapId} {es : Entries} (names : ∀ e ∈ es, Nameable e.1)
      (outside : ∀ m, id = some m → ∀ e ∈ es, ¬e.2.Holds m) (values : ∀ e ∈ es, Printable e.2) :
      Printable (.dict id es)
  | other {v : Value} (hnested : isNested v = false) (short : v.hasLongInt = false) : Printable v

/-- What a style finds in a value that it has no text for. -/
def Unprintable (f : Fault) : Prop := f = .tooManyDigits ∨ f = .circular ∨ ∃ t, f = .keyType t

section

variable {style : Style} {above : List MapId} {depth : Nat} {v : Value} {f : Fault}

/-! ## Scalars and keys -/

theorem floatLiteral_ok (hnumbers : style.allowsNaN = true) (x : Float) : ∃ s, floatLiteral style x = .ok s := by
  unfold floatLiteral
  rw [hnumbers]
  cases Number.Binary64.parts x <;> exact ⟨_, rfl⟩

theorem intLiteral_isOk (n : Int) : (intLiteral n).isOk = true ↔ (Value.int n).hasLongInt = false := by
  unfold intLiteral
  cases (Value.int n).hasLongInt <;> simp [isOk_iff]

theorem intLiteral_error {n : Int} (h : intLiteral n = .error f) : f = .tooManyDigits := by
  unfold intLiteral at h
  split at h
  · exact (Except.error.inj h).symm
  · cases h

theorem text?_isOk (v : Value) : v.text?.isOk = true ↔ v.hasLongInt = false := by
  unfold Value.text?
  cases v.hasLongInt <;> simp [isOk_iff]

theorem text?_error (h : v.text? = .error f) : f = .tooManyDigits := by
  unfold Value.text? at h
  split at h
  · exact (Except.error.inj h).symm
  · cases h

theorem keyText_isOk (hnumbers : style.allowsNaN = true) (k : Value) : (keyText style k).isOk = true ↔ Nameable k := by
  cases k with
  | int n => exact intLiteral_isOk n
  | float x => exact ⟨fun _ => trivial, fun _ => isOk_iff.mpr (floatLiteral_ok hnumbers x)⟩
  | _ => simp [keyText, Nameable, isOk_iff]

theorem keyText_error (hnumbers : style.allowsNaN = true) {k : Value} (h : keyText style k = .error f) :
    Unprintable f := by
  cases k with
  | int n => exact .inl (intLiteral_error h)
  | float x =>
    obtain ⟨s, hs⟩ := floatLiteral_ok hnumbers x
    rw [keyText, hs] at h
    cases h
  | str | bool | null => cases h
  | _ => exact .inr (.inr ⟨_, (Except.error.inj h).symm⟩)

/-- Whatever is no array and no object is written unless it holds too long an integer. -/
theorem writeAt_flat_isOk (hnumbers : style.allowsNaN = true) (hfallback : style.textFallback = true)
    (hflat : isNested v = false) : (writeAt style above depth v).isOk = true ↔ v.hasLongInt = false := by
  have htext : ∀ v : Value, (v.text?.map (quote style.asciiOnly)).isOk = true ↔ v.hasLongInt = false := fun v => by
    rw [isOk_map, text?_isOk]
  cases v with
  | list | tuple | dict => cases hflat
  | int n => exact intLiteral_isOk n
  | float x =>
    obtain ⟨s, hs⟩ := floatLiteral_ok hnumbers x
    simp [writeAt, hs, Value.hasLongInt, isOk_iff]
  | null | bool | str => simp [writeAt, Value.hasLongInt, isOk_iff]
  | _ => simpa [writeAt, hfallback] using htext _

theorem writeAt_flat_error (hnumbers : style.allowsNaN = true) (hfallback : style.textFallback = true)
    (hflat : isNested v = false) (h : writeAt style above depth v = .error f) : f = .tooManyDigits := by
  have htext : ∀ v : Value, v.text?.map (quote style.asciiOnly) = .error f → f = .tooManyDigits :=
    fun v h => text?_error (map_error_iff.mp h)
  cases v with
  | list | tuple | dict => cases hflat
  | int n => exact intLiteral_error (by simpa [writeAt] using h)
  | float x =>
    obtain ⟨s, hs⟩ := floatLiteral_ok hnumbers x
    simp [writeAt, hs] at h
  | null | bool | str => simp [writeAt] at h
  | _ => exact htext _ (by simpa [writeAt, hfallback] using h)

/-! ## Items and members -/

theorem writeItems_isOk (xs : List Value) :
    (writeItems style above depth xs).isOk = true ↔ ∀ x ∈ xs, (writeAt style above depth x).isOk = true := by
  induction xs with
  | nil => simp [writeItems, isOk_iff]
  | cons x xs ih =>
    rw [List.forall_mem_cons, ← ih, writeItems]
    simp only [isOk_bind, isOk_pure, and_true, ← isOk_iff, exists_and_right]

theorem writeItems_error {xs : List Value} (h : writeItems style above depth xs = .error f) :
    ∃ x ∈ xs, writeAt style above depth x = .error f := by
  induction xs with
  | nil => cases h
  | cons x xs ih =>
    rw [writeItems, bind_error_iff] at h
    rcases h with hx | ⟨s, -, h⟩
    · exact ⟨x, List.mem_cons_self, hx⟩
    · rcases bind_error_iff.mp h with hxs | ⟨rest, -, h⟩
      · obtain ⟨y, hy, herror⟩ := ih hxs
        exact ⟨y, List.mem_cons_of_mem _ hy, herror⟩
      · cases h

theorem writeMembers_isOk (hnumbers : style.allowsNaN = true) (es : Entries) :
    (writeMembers style above depth es).isOk = true ↔
      ∀ e ∈ es, Nameable e.1 ∧ (writeAt style above depth e.2).isOk = true := by
  induction es with
  | nil => simp [writeMembers, isOk_iff]
  | cons e es ih =>
    rw [List.forall_mem_cons, ← ih, ← keyText_isOk hnumbers, writeMembers]
    simp only [isOk_bind, isOk_pure, and_true, ← isOk_iff, exists_and_right, and_assoc]

theorem writeMembers_error {es : Entries} (h : writeMembers style above depth es = .error f) :
    ∃ e ∈ es, keyText style e.1 = .error f ∨ writeAt style above depth e.2 = .error f := by
  induction es with
  | nil => cases h
  | cons e es ih =>
    rw [writeMembers, bind_error_iff] at h
    rcases h with hname | ⟨name, -, h⟩
    · exact ⟨e, List.mem_cons_self, .inl hname⟩
    · rcases bind_error_iff.mp h with hvalue | ⟨s, -, h⟩
      · exact ⟨e, List.mem_cons_self, .inr hvalue⟩
      · rcases bind_error_iff.mp h with hes | ⟨rest, -, h⟩
        · obtain ⟨e', he', herror⟩ := ih hes
          exact ⟨e', List.mem_cons_of_mem _ he', herror⟩
        · cases h

/-! ## Values -/

theorem flat_of_ne (hlist : ∀ xs, v ≠ .list xs) (htuple : ∀ xs, v ≠ .tuple xs) (hdict : ∀ id es, v ≠ .dict id es) :
    isNested v = false := by
  cases v with
  | list xs => exact absurd rfl (hlist xs)
  | tuple xs => exact absurd rfl (htuple xs)
  | dict id es => exact absurd rfl (hdict id es)
  | _ => rfl

theorem not_holds_of_flat (hflat : isNested v = false) (m : MapId) : ¬v.Holds m := by
  rintro (_ | _ | _ | _) <;> cases hflat

/-- Can the value be written inside mappings? -/
def Fits (above : List MapId) (v : Value) : Prop := Printable v ∧ ∀ m ∈ above, ¬v.Holds m

theorem fits_list {xs : List Value} : Fits above (.list xs) ↔ ∀ x ∈ xs, Fits above x := by
  constructor
  · rintro ⟨hprintable, hnone⟩ x hx
    cases hprintable with
    | list items => exact ⟨items x hx, fun m hm hholds => hnone m hm (.item hx hholds)⟩
    | other hnested => cases hnested
  · refine fun h => ⟨.list fun x hx => (h x hx).1, fun m hm hholds => ?_⟩
    obtain ⟨x, hx, hholds⟩ := Value.holds_list.mp hholds
    exact (h x hx).2 m hm hholds

theorem fits_tuple {xs : List Value} : Fits above (.tuple xs) ↔ ∀ x ∈ xs, Fits above x := by
  constructor
  · rintro ⟨hprintable, hnone⟩ x hx
    cases hprintable with
    | tuple items => exact ⟨items x hx, fun m hm hholds => hnone m hm (.member hx hholds)⟩
    | other hnested => cases hnested
  · refine fun h => ⟨.tuple fun x hx => (h x hx).1, fun m hm hholds => ?_⟩
    obtain ⟨x, hx, hholds⟩ := Value.holds_tuple.mp hholds
    exact (h x hx).2 m hm hholds

/-- The values of a mapping are written inside it, too. -/
theorem fits_dict {id : Option MapId} {es : Entries} : Fits above (.dict id es) ↔
    (∀ m ∈ above, id ≠ some m) ∧ ∀ e ∈ es, Nameable e.1 ∧ Fits (id.toList ++ above) e.2 := by
  constructor
  · rintro ⟨hprintable, hnone⟩
    cases hprintable with
    | dict names outside values =>
      refine ⟨fun m hm hid => hnone m hm (Value.holds_dict.mpr (.inl hid)),
        fun e he => ⟨names e he, values e he, fun m hm hholds => ?_⟩⟩
      rcases List.mem_append.mp hm with hm | hm
      · exact outside m (by simpa using hm) e he hholds
      · exact hnone m hm (.entry he hholds)
    | other hnested => cases hnested
  · rintro ⟨hid, h⟩
    refine ⟨.dict (fun e he => (h e he).1) (fun m hm e he => (h e he).2.2 m (by simp [hm])) fun e he => (h e he).2.1,
      fun m hm hholds => ?_⟩
    rcases Value.holds_dict.mp hholds with hself | ⟨e, he, hholds⟩
    · exact hid m hm hself
    · exact (h e he).2.2 m (List.mem_append_right _ hm) hholds

theorem fits_flat (hflat : isNested v = false) : Fits above v ↔ v.hasLongInt = false := by
  constructor
  · rintro ⟨hprintable, -⟩
    cases hprintable with
    | list | tuple | dict => cases hflat
    | other _ short => exact short
  · exact fun hshort => ⟨.other hflat hshort, fun m _ => not_holds_of_flat hflat m⟩

/-- A value is written inside mappings above it if it has a text and holds none of them. -/
theorem writeAt_isOk (hnumbers : style.allowsNaN = true) (hfallback : style.textFallback = true) (v : Value) :
    ∀ {above : List MapId} {depth : Nat}, (writeAt style above depth v).isOk = true ↔ Fits above v := by
  -- the mappings above grow on the way down, so they are not fixed before the induction
  induction v using Value.parts_induction with
  | list xs ih =>
    intro above depth
    rw [writeAt, isOk_map, writeItems_isOk, fits_list]
    exact forall₂_congr fun x hx => ih x hx
  | tuple xs ih =>
    intro above depth
    rw [writeAt, isOk_map, writeItems_isOk, fits_tuple]
    exact forall₂_congr fun x hx => ih x hx
  | dict id es ih =>
    intro above depth
    rw [writeAt, fits_dict]
    split
    next hinside =>
      refine ⟨fun h => (by cases h), fun ⟨hid, _⟩ => ?_⟩
      cases id with
      | none => cases hinside
      | some m => exact absurd rfl (hid m (by simpa using hinside))
    next houtside =>
      have hid : ∀ m ∈ above, id ≠ some m := fun m hm hid => houtside (by simpa [hid] using hm)
      rw [isOk_map, writeMembers_isOk hnumbers, and_iff_right hid]
      exact forall₂_congr fun e he => and_congr_right fun _ => ih e he
  | other v hlist htuple hdict =>
    have hflat := flat_of_ne hlist htuple hdict
    intro above depth
    rw [writeAt_flat_isOk hnumbers hfallback hflat, fits_flat hflat]

theorem writeAt_error (hnumbers : style.allowsNaN = true) (hfallback : style.textFallback = true) (v : Value) :
    ∀ {above : List MapId} {depth : Nat}, writeAt style above depth v = .error f → Unprintable f := by
  induction v using Value.parts_induction with
  | list xs ih | tuple xs ih =>
    intro above depth h
    rw [writeAt] at h
    obtain ⟨x, hx, herror⟩ := writeItems_error (map_error_iff.mp h)
    exact ih x hx herror
  | dict id es ih =>
    intro above depth h
    rw [writeAt] at h
    split at h
    · exact .inr (.inl (Except.error.inj h).symm)
    · obtain ⟨e, he, hkey | hvalue⟩ := writeMembers_error (map_error_iff.mp h)
      · exact keyText_error hnumbers hkey
      · exact ih e he hvalue
  | other v hlist htuple hdict =>
    intro above depth h
    exact .inl (writeAt_flat_error hnumbers hfallback (flat_of_ne hlist htuple hdict) h)

/-- A value has a text where integers are short, keys are keys in JSON too, and no
mapping lies inside itself. -/
theorem write_isOk (hnumbers : style.allowsNaN = true) (hfallback : style.textFallback = true) (v : Value) :
    (write style v).isOk = true ↔ Printable v := by
  unfold write
  rw [writeAt_isOk hnumbers hfallback]
  exact ⟨fun h => h.1, fun h => ⟨h, List.forall_mem_nil _⟩⟩

/-- Where it has none, one of the three has been found. -/
theorem write_error (hnumbers : style.allowsNaN = true) (hfallback : style.textFallback = true)
    (h : write style v = .error f) : Unprintable f :=
  writeAt_error hnumbers hfallback v h

end

end Json
end Workflow
