import Workflow.Proofs.Failures
import Workflow.Proofs.Joins

/-!
# Workflow.Proofs.Choices

What the branching nodes of a run select.

The output of a node is stored in the step in which its execution ends
(`Moves.ended`), so what a node selects can be read off the state after that
step (`Launch.Selects`).  Where that is given beforehand it may be assumed of
every move of the run (`selecting_induct`).
-/

namespace Workflow.Run

open Machine

variable {σ : Type}

/-! ## Nodes that are done -/

/-- Is the task a visit that executes the node? -/
def Task.executes (k : Key) : Task → Bool
  | ⟨.visit id _, stage⟩ => id.key == k && stage.isExecuting
  | _ => false

/-- The node has been taken up, and nobody executes it any more. -/
def Done (m : Machine σ) (k : Key) : Prop := k ∈ m.visited ∧ ∀ task ∈ m.tasks, task.executes k = false

instance (m : Machine σ) (k : Key) : Decidable (Done m k) := inferInstanceAs (Decidable (_ ∧ _))

section

variable {s : Setup σ} {start : Node} {h h' : Hand} {m m' : Machine σ} {t u : Nat} {id : NodeId}
  {parent : Option Nat} {stage : Stage} {w : World} {v : Value}

theorem done_iff {k : Key} : Done m k ↔ k ∈ m.visited ∧ ∀ t id, Executing .idle m t id → id.key ≠ k := by
  refine and_congr_right fun _ => ⟨?_, ?_⟩
  · rintro hnone t id ⟨parent, stage, hvisits, hexec⟩ rfl
    have htask := hnone _ (List.mem_of_getElem? hvisits)
    rw [Task.executes, beq_self_eq_true, Bool.true_and] at htask
    rcases hexec with hexec | hexec
    · rw [hexec] at htask
      cases htask
    · cases hexec
  · rintro hnone ⟨job, stage⟩ htask
    obtain ⟨t, ht⟩ := List.mem_iff_getElem?.mp htask
    cases job with
    | visit id parent =>
        cases hexec : Task.executes k ⟨.visit id parent, stage⟩ with
        | false => rfl
        | true =>
            obtain ⟨hkey, hstage⟩ : id.key = k ∧ stage.isExecuting = true := by simpa [Task.executes] using hexec
            exact absurd hkey (hnone t id ⟨parent, stage, ht, .inl hstage⟩)
    | _ => rfl

/-! ## How the execution of a node ends -/

/-- The execution of a node ends when its dispatch has ended. -/
theorem Move.executing_ends (hmove : Move s h m h' m') (hshape : Shape s.plan.graph start h m) (htokens : Tokens h m)
    (hexec : Executing h m u id) :
    Executing h' m' u id ∨ (∃ w v, h = .works u (.done w v)) ∨ ∃ w f, h = .works u (.fail w f) := by
  obtain ⟨parent, stage, hvisits, hexec⟩ := hexec
  obtain ⟨stage', hu, hre⟩ := hmove.restage hshape htokens hvisits
  cases hre with
  | other habout =>
      exact .inl ⟨parent, _, hu, .inl (hexec.resolve_right fun hworks => habout (Hand.about_of_works hworks))⟩
  | late => exact .inl ⟨parent, _, hu, hexec.imp_right nofun⟩
  | answer | gather | reply | noTools => exact .inl ⟨parent, _, hu, .inr rfl⟩
  | fill | call | tools => exact .inl ⟨parent, _, hu, .inl rfl⟩
  | spread | stop => exact .inr (.inl ⟨_, _, rfl⟩)
  | fail => exact .inr (.inr ⟨_, _, rfl⟩)
  | enter | turn | park | pass | resume | count | leave => rcases hexec with hexec | hexec <;> cases hexec

theorem checkStalled_writes (plan : Plan) (hkeys : (m.joins.map (·.id.key)).Nodup) :
    (m.checkStalled plan).world.writes = m.world.writes :=
  checkStalled_same plan hkeys (·.world.writes) fun _ => rfl

/-- As a visit ends, outputs and writes stay as they are. -/
theorem Moves.ends_world {failure : Option Failure} (hmoves : Moves s (.ends t failure) m m') (htokens : Tokens h m) :
    m'.world.outputs = m.world.outputs ∧ m'.world.writes = m.world.writes := by
  have hkeys := htokens.keys
  have houtputs := checkStalled_outputs s.plan (m := m.addActive (-1)) hkeys
  have hwrites := checkStalled_writes s.plan (m := m.addActive (-1)) hkeys
  cases hmoves with
  | move hlast hrest =>
      cases hlast with
      | tell =>
          cases hrest with
          | idle => exact ⟨houtputs, hwrites⟩
          | move hmove => cases hmove
      | conclude =>
          cases hrest with
          | idle => cases failure <;> exact ⟨houtputs, hwrites⟩
          | move hmove => cases hmove

/-- Once the event in hand has been dealt with, nobody begins to execute. -/
theorem Moves.executing (hmoves : Moves s h m m') (hdispatch : KeptDispatch s) (hsound : Sound s start h m)
    (hempty : h.event? = none) (hexec : Executing .idle m' u id) : Executing h m u id := by
  induction hmoves with
  | idle => exact hexec
  | move hfirst _ ih =>
      refine (hfirst.executing hsound.shape hsound.tokens
        (ih (hsound.move hfirst hdispatch) hfirst.empty hexec)).resolve_right fun henters => ?_
      rw [henters.start] at hempty
      cases hempty

/-- When the work of a node has ended the node is done, and its output is in
its place. -/
theorem Moves.ended (hmoves : Moves s (.works t (.done w v)) m m') (hdispatch : KeptDispatch s)
    (hsound : Sound s start (.works t (.done w v)) m) (hvisits : m.Visits t id parent stage) :
    Done m' id.key ∧ Entries.get? m'.world.outputs id.key = some v ∧ m'.world.writes = w.writes := by
  have hexecuting : Executing (.works t (.done w v)) m t id := ⟨parent, stage, hvisits, .inr rfl⟩
  have hvisited := hmoves.visited hdispatch hsound rfl
  have houtput : Entries.get? w.outputs id.key = some v := (hsound.keeping.works rfl hvisits).2
  refine ⟨done_iff.mpr ⟨hvisited ▸ hsound.ran.executing hexecuting, fun u id' hu hkey => ?_⟩, ?_⟩
  · obtain rfl := hsound.ran.sole (hmoves.executing hdispatch hsound rfl hu) hexecuting hkey
    cases hmoves with
    | move hfirst hrest =>
        exact Ran.done_of_move hfirst hsound.shape hsound.tokens
          (hrest.executing hdispatch (hsound.move hfirst hdispatch) hfirst.empty hu)
  · cases hmoves with
    | move hfirst hrest =>
        have htokens := (hsound.move hfirst hdispatch).tokens
        cases hfirst with
        | spread =>
            cases hrest with
            | idle => exact ⟨houtput, rfl⟩
            | move hmove => cases hmove
        | stop =>
            obtain ⟨houtputs, hwrites⟩ := hrest.ends_world htokens
            exact ⟨houtputs ▸ houtput, hwrites⟩

end

/-! ## Runs with given choices -/

/-- Where a branching node leads does not depend on anything else than its handle. -/
theorem targets_of_not_branching {g : Graph} {n : Node} (h : n.kind.isBranching = false) (a b : Value) :
    g.targets n a = g.targets n b := by
  simp [Graph.targets, h]

/-- A node whose work is done leads where the given choice leads. -/
def Chosen (g : Graph) (sel : Key → Value) (h : Hand) (m : Machine σ) : Prop :=
  ∀ {t w v id parent stage n}, h = .works t (.done w v) → m.Visits t id parent stage → g.node? id.key = some n →
    g.targets n (w.look (selectedHandle v)) = g.targets n (sel id.key)

namespace Launch

/-- Whenever the execution of a branching node ends, its output selects the
handle that is given for the node. -/
def Selects (l : Launch σ) (sel : Key → Value) : Prop :=
  ∀ i n v, l.graph.node? n.id.key = some n → n.kind.isBranching = true → ¬Done (l.state i) n.id.key →
    Done (l.state (i + 1)) n.id.key → Entries.get? (l.state (i + 1)).world.outputs n.id.key = some v →
    (l.state (i + 1)).world.look (selectedHandle v) = sel n.id.key

/-- What holds at first, and is preserved by every move of a run without
failures that makes the given choices, holds in every state of it. -/
theorem selecting_induct (l : Launch σ) (hnone : ∀ k, (l.state k).failures = []) {sel : Key → Value}
    (hselects : l.Selects sel) {I : Hand → Machine σ → Prop} (hfirst : I .idle l.first)
    (htake : ∀ {m e m₁}, Takes m e m₁ → Sound l.setup l.start .idle m → I .idle m → I (.holds e) m₁)
    (hmove : ∀ {h₁ m₁ h₂ m₂}, Move l.setup h₁ m₁ h₂ m₂ → Sound l.setup l.start h₁ m₁ → ¬Failed h₁ m₁ →
      Chosen l.graph sel h₁ m₁ → I h₁ m₁ → I h₂ m₂) (k : Nat) : I .idle (l.state k) := by
  induction k with
  | zero => exact hfirst
  | succ k ih =>
      have hafter := hnone (k + 1)
      have hselected := hselects k
      rw [l.state_succ] at hafter hselected ⊢
      cases hstep : step l.setup (l.state k) with
      | none => exact ih
      | some m' =>
          rw [hstep, Option.getD_some] at hafter hselected
          rw [Option.getD_some]
          -- Who executes in the middle of the step has executed before, or its node is new.
          let J : Hand → Machine σ → Prop := fun h m => I h m ∧ (l.state k).visited ⊆ m.visited ∧
            ∀ {t id}, Executing h m t id → Executing .idle (l.state k) t id ∨ id.key ∉ (l.state k).visited
          refine (Run.unfailing_induct l.keptDispatch (l.sound k) (hnone k) hafter (I := J) ?_ ?_ hstep).1
          · intro e m₁ htakes _ _
            refine ⟨htake htakes (l.sound k) ih, htakes.visited ▸ List.Subset.refl _, fun hexec => .inl ?_⟩
            exact hexec.of_tasks htakes.tasks nofun
          · rintro h₁ m₁ h₂ m₂ hfirst hrest hsound hunfailed _ ⟨hI, hgrown, hbefore⟩
            refine ⟨hmove hfirst hsound hunfailed ?_ hI, ?_, fun hexec => ?_⟩
            · intro t w v id parent stage n hh hvisits hn
              cases hbranching : n.kind.isBranching with
              | false => exact targets_of_not_branching hbranching ..
              | true =>
                  subst hh
                  obtain ⟨hdone, houtput, hwrites⟩ := (Moves.move hfirst hrest).ended l.keptDispatch hsound hvisits
                  have hundone : ¬Done (l.state k) id.key := fun hdone => by
                    obtain ⟨hvisited, hnobody⟩ := done_iff.mp hdone
                    rcases hbefore ⟨parent, stage, hvisits, .inr rfl⟩ with hexec | hnew
                    · exact hnobody _ _ hexec rfl
                    · exact hnew hvisited
                  have hkey := (Graph.node?_some hn).2
                  have hlook := hselected n v (hkey ▸ hn) hbranching (hkey ▸ hundone) (hkey ▸ hdone) (hkey ▸ houtput)
                  unfold World.look at hlook
                  rw [hwrites, hkey] at hlook
                  exact congrArg _ hlook
            · rcases hfirst.visited hsound.tokens with ⟨_, _, henters⟩ | hsame
              · rw [henters.visited]
                exact List.subset_cons_of_subset _ hgrown
              · rw [hsame]
                exact hgrown
            · rcases hfirst.executing hsound.shape hsound.tokens hexec with hold | henters
              · exact hbefore hold
              · exact .inr fun hmem => henters.new (hgrown hmem)

end Launch
end Workflow.Run
