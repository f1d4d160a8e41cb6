import Workflow.Proofs.Asides

/-!
# Workflow.Proofs.Revisions

What a state node does to the state.

`revise` says it without a world: the updates are read in one context, and
carried out one after the other.  A state node does just that, in one go
(`state_revises`): it never waits, so nobody sees a state that is half revised,
and what it logs meanwhile is about itself.
-/

namespace Workflow.Execute

open Run

/-! ## Updates without a world -/

/-- The state after an update. -/
def Update.applyTo (origin : Origin) (state : Entries) : Update → Except Fault Entries
  | .keyless => .ok state
  | .skip _ _ _ => .ok state
  | .set key value => do return state.set key (← key.keyOf) (value.adopt origin)

/-- The state after updates, `index` being that of the first, in the given
round of a node. -/
def revise (context : Entries) (k : Key) (round : Nat) : Nat → Entries → List Value → Except Fault Entries
  | _, state, [] => .ok state
  | index, state, update :: rest => do
    let state ← (← readUpdate context update).applyTo (.update k round index) state
    revise context k round (index + 1) state rest

/-- The update has no key, or a binding that cannot be evaluated. -/
inductive Idle (context : Entries) (update : Value) : Prop
  | keyless {key} : update.read "key" = .ok key → key.truthy = false → Idle context update
  | failing {key binding e} : update.read "key" = .ok key → key.truthy = true → update.read "binding" = .ok binding →
      binding.truthy = true → Expr.evaluateAny binding context = .error (.error e) → Idle context update

/-- An idle update changes nothing, and the ones after it are carried out. -/
theorem revise_idle {context : Entries} {update : Value} (h : Idle context update) (k : Key) (round index : Nat)
    (state : Entries) (rest : List Value) :
    revise context k round index state (update :: rest) = revise context k round (index + 1) state rest := by
  have hread : ∃ u, readUpdate context update = .ok u ∧ u.applyTo (.update k round index) state = .ok state := by
    cases h with
    | keyless hkey hfalsy => exact ⟨.keyless, by simp [readUpdate, hkey, hfalsy, bind, Except.bind, pure, Except.pure], rfl⟩
    | @failing key binding e hkey htruthy hbinding hbound hfails =>
        refine ⟨.skip key binding e, ?_, rfl⟩
        simp [readUpdate, hkey, htruthy, hbinding, hbound, hfails, bind, Except.bind, pure, Except.pure]
  obtain ⟨u, hread, happly⟩ := hread
  simp [revise, hread, happly, bind, Except.bind]

/-- What the list of updates of a node says as the node begins. -/
def updatesOf (w : World) (n : Node) : Except Fault (List Value) := do
  (← (w.node n).setting "stateUpdates").itemsOrNone

/-- The context in which the updates of a node are read as it begins. -/
def updateContext (plan : Plan) (w : World) (n : Node) : Except Fault Entries :=
  w.context plan.graph (some ⟨.update n.id.key (w.rounds n.id.key) 0, [stateName], 0⟩)

end Workflow.Execute

namespace Workflow.Run

/-! ## What is logged meanwhile -/

/-- Only remarks about a node have been added; the state may have changed. -/
structure Remarked (id : NodeId) (w v : World) : Prop where
  outputs : v.outputs = w.outputs
  clock : v.clock = w.clock
  writes : v.writes = w.writes
  log : ∃ es, v.log = w.log ++ es ∧
    ∀ e ∈ es, e.node = id.value ∧ e.time = w.clock ∧ e.phase.isRemark = true

namespace Remarked

variable {id : NodeId}

theorem refl (id : NodeId) (w : World) : Remarked id w w := ⟨rfl, rfl, rfl, [], by simp, by simp⟩

theorem trans {u v w : World} (h₁ : Remarked id u v) (h₂ : Remarked id v w) : Remarked id u w := by
  obtain ⟨es, hes, hremarks⟩ := h₁.log
  obtain ⟨fs, hfs, hremarks'⟩ := h₂.log
  refine ⟨h₂.outputs.trans h₁.outputs, h₂.clock.trans h₁.clock, h₂.writes.trans h₁.writes, es ++ fs, ?_, ?_⟩
  · rw [hfs, hes, List.append_assoc]
  · intro e he
    rcases List.mem_append.mp he with h | h
    · exact hremarks e h
    · exact h₁.clock ▸ hremarks' e h

theorem note (w : World) (sink : Sink) (kind : String) {phase : Phase} (message : String) (payload : Value)
    (hphase : phase.isRemark = true) :
    Remarked id w (w.note sink id.value kind phase message payload) := by
  refine ⟨rfl, rfl, rfl, [⟨id.value, kind, phase, message, payload, w.clock⟩], rfl, ?_⟩
  intro e he
  rw [List.mem_singleton.mp he]
  exact ⟨rfl, rfl, hphase⟩

end Remarked
end Workflow.Run

namespace Workflow.Execute

open Run

/-! ## A state node at work -/

/-- An update of a node either is carried out, or fails. -/
theorem applyUpdate_cases (plan : Plan) (n : Node) (origin : Origin) (u : Update) (w : World) :
    (∃ v, applyUpdate plan n origin u w = .done v () ∧ Remarked n.id w v ∧ u.applyTo origin w.state = .ok v.state) ∨
    ∃ v f, applyUpdate plan n origin u w = .fail v (.own (.fault f)) ∧ Remarked n.id w v := by
  cases u with
  | keyless => exact .inl ⟨_, rfl, ⟨rfl, rfl, rfl, [], by simp [World.record], by simp⟩, rfl⟩
  | skip key binding e => exact .inl ⟨_, rfl, .note w _ _ _ _ rfl, rfl⟩
  | set key value =>
      cases hkey : key.keyOf with
      | error f =>
          refine .inr ⟨w, f, ?_, .refl n.id w⟩
          simp only [applyUpdate, hkey, Work.lift]
          rfl
      | ok k =>
          refine .inl ⟨({ w with state := w.state.set key k (value.adopt origin) }.note plan.sink n.id.value n.kind.name
            .info ("State " ++ key.repr ++ " updated") (.record [("key", key), ("value", value.adopt origin)])),
            ?_, ?_, ?_⟩
          · simp only [applyUpdate, hkey, Work.lift]
            rfl
          · exact .trans (v := { w with state := w.state.set key k (value.adopt origin) })
              ⟨rfl, rfl, rfl, [], by simp, by simp⟩ (.note _ _ _ _ _ rfl)
          · simp only [Update.applyTo, hkey]
            rfl

/-- Updates are carried out as `revise` says, or one of them fails. -/
theorem applyUpdates_cases (plan : Plan) (n : Node) (context : Entries) (round : Nat) (updates : List Value) :
    ∀ (index : Nat) (w : World),
      (∃ v, applyUpdates plan n context round index updates w = .done v () ∧ Remarked n.id w v ∧
        revise context n.id.key round index w.state updates = .ok v.state) ∨
      ∃ v f, applyUpdates plan n context round index updates w = .fail v (.own (.fault f)) ∧ Remarked n.id w v := by
  induction updates with
  | nil => exact fun index w => .inl ⟨w, rfl, .refl n.id w, rfl⟩
  | cons update rest ih =>
      intro index w
      unfold applyUpdates
      cases hread : readUpdate context update with
      | error f => exact .inr ⟨w, f, rfl, .refl n.id w⟩
      | ok u =>
          have hfirst : ∀ s, applyUpdate plan n (.update n.id.key round index) u w = s →
              (Work.lift (.ok u) >>= fun u => do
                applyUpdate plan n (.update n.id.key round index) u
                applyUpdates plan n context round (index + 1) rest) w =
              s.bind fun _ => applyUpdates plan n context round (index + 1) rest := by
            rintro s rfl
            rfl
          rcases applyUpdate_cases plan n (.update n.id.key round index) u w with
            ⟨v, hdone, hremarked, hstate⟩ | ⟨v, f, hfail, hremarked⟩
          · rw [hfirst _ hdone]
            rcases ih (index + 1) v with ⟨v', hdone', hremarked', hstate'⟩ | ⟨v', f, hfail', hremarked'⟩
            · refine .inl ⟨v', hdone', hremarked.trans hremarked', ?_⟩
              rw [revise, hread]
              simp only [bind, Except.bind, hstate]
              exact hstate'
            · exact .inr ⟨v', f, hfail', hremarked.trans hremarked'⟩
          · rw [hfirst _ hfail]
            exact .inr ⟨v, f, rfl, hremarked⟩

/-- A state node revises the state and answers what it has become, or fails. -/
theorem state_revises (plan : Plan) (n : Node) (w : World) :
    (∃ v context updates, state plan n w = .done v (.dict none (v.lookEntries v.state)) ∧ Remarked n.id w v ∧
      updateContext plan w n = .ok context ∧ updatesOf w n = .ok updates ∧
      revise context n.id.key (w.rounds n.id.key) 0 w.state updates = .ok v.state) ∨
    ∃ v f, state plan n w = .fail v (.own (.fault f)) ∧ Remarked n.id w v := by
  have hstate : state plan n w = (do
      let context ← Work.lift (updateContext plan w n)
      let updates ← Work.lift (updatesOf w n)
      applyUpdates plan (w.node n) context (w.rounds n.id.key) 0 updates
      fun v => .done v (.dict none (v.lookEntries v.state)) : Work Value) w := rfl
  rw [hstate]
  cases hcontext : updateContext plan w n with
  | error f => exact .inr ⟨w, f, rfl, .refl n.id w⟩
  | ok context =>
      cases hupdates : updatesOf w n with
      | error f => exact .inr ⟨w, f, rfl, .refl n.id w⟩
      | ok updates =>
          have hrest : ∀ s, applyUpdates plan (w.node n) context (w.rounds n.id.key) 0 updates w = s →
              (do
                let context ← Work.lift (.ok context)
                let updates ← Work.lift (.ok updates)
                applyUpdates plan (w.node n) context (w.rounds n.id.key) 0 updates
                fun v => .done v (.dict none (v.lookEntries v.state)) : Work Value) w =
              s.bind fun _ v => .done v (.dict none (v.lookEntries v.state)) := by
            rintro s rfl
            rfl
          rcases applyUpdates_cases plan (w.node n) context (w.rounds n.id.key) updates 0 w with
            ⟨v, hdone, hremarked, hrevise⟩ | ⟨v, f, hfail, hremarked⟩
          · rw [hrest _ hdone]
            exact .inl ⟨v, context, updates, rfl, hremarked, rfl, rfl, hrevise⟩
          · rw [hrest _ hfail]
            exact .inr ⟨v, f, rfl, hremarked⟩

end Workflow.Execute
