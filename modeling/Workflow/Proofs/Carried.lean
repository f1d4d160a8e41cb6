import Workflow.Proofs.Visited

/-!
# Workflow.Proofs.Carried

Work under way.

A visit that executes its node has the rest of its work in hand, or it keeps it
until an answer comes, in whatever world there is then.  Something that is known
of all such work (`Carried`) may change for the visit whose work a move takes
further, and for no other (`Carried.move`).
-/

namespace Workflow.Run

open Machine

variable {σ : Type}

/-- What is known, by visit, node and world, of all work under way. -/
structure Carried (P : Nat → NodeId → World → Step Value → Prop) (h : Hand) (m : Machine σ) : Prop where
  works : ∀ {t work id parent stage}, h = .works t work → m.Visits t id parent stage → P t id m.world work
  calling : ∀ {t id parent next}, m.Visits t id parent (.calling next) → ∀ r w, P t id w (next r w)
  gathering : ∀ {t id parent slots next}, m.Visits t id parent (.gathering slots next) → ∀ r w, P t id w (next r w)

namespace Carried

variable {P P' : Nat → NodeId → World → Step Value → Prop} {h h' : Hand} {m m' : Machine σ}

/-- As long as it is not in hand, work is known by the tasks alone. -/
theorem of_tasks (hcarried : Carried P h m) (hh' : h'.works? = none) (htasks : m'.tasks = m.tasks) : Carried P h' m' where
  works hworks := by
    subst hworks
    cases hh'
  calling hu := hcarried.calling (hu.of_tasks htasks.symm)
  gathering hu := hcarried.gathering (hu.of_tasks htasks.symm)

theorem takes {e : Event} (hcarried : Carried P .idle m) (htakes : Takes m e m') : Carried P (.holds e) m' :=
  hcarried.of_tasks rfl (by cases htakes <;> rfl)

/-- A move begins the work of a node, takes the work of one visit further, or
leaves all work as it is. -/
theorem move {s : Setup σ} {start : Node} (hmove : Move s h m h' m') (hshape : Shape s.plan.graph start h m)
    (htokens : Tokens h m) (hcarried : Carried P h m)
    (hothers : ∀ {u id w work}, h.works? ≠ some u → P u id w work → P' u id w work)
    (hbegin : ∀ {t id n} (w : World), Enters h m h' m' t id → s.plan.graph.node? id.key = some n →
      P' t id w (s.dispatch n w))
    (hnoTools : ∀ {t id parent w next}, h = .works t (.tools w [] next) → m.Visits t id parent .over →
      P' t id m.world (next (.ok []) w))
    (hcall : ∀ {t id parent w c next}, h = .works t (.call w c next) → m.Visits t id parent .over →
      ∀ r u, P' t id u (next r u))
    (htools : ∀ {t id parent w tasks next}, h = .works t (.tools w tasks next) → tasks ≠ [] →
      m.Visits t id parent .over → ∀ r u, P' t id u (next r u)) : Carried P' h' m' := by
  have hwaits : ∀ {u id parent stage}, m.Visits u id parent stage → stage.isExecuting = true → h.works? ≠ some u := by
    intro u id parent stage hu hexec hworks
    have hhand : h.visit? = some u := by
      cases h with
      | works => exact hworks
      | _ => cases hworks
    obtain ⟨_, _, hover⟩ := hshape.hand u hhand
    rw [(hu.unique hover).2.2] at hexec
    cases hexec
  constructor
  case works =>
    intro t work id parent _ hh hu
    subst hh
    obtain ⟨stage, hvisits⟩ : ∃ stage, m.Visits t id parent stage := by
      rcases hmove.staged hshape htokens hu with ⟨stage, hvisits, _⟩ | ⟨_, hfalse, _⟩
      · exact ⟨stage, hvisits⟩
      · cases hfalse
    have hover : h.visit? = some t → m.Visits t id parent .over := by
      intro hh
      obtain ⟨_, _, hover⟩ := hshape.hand t hh
      obtain ⟨rfl, rfl, _⟩ := hvisits.unique hover
      exact hover
    cases hmove with
    | enter hvisits' hnew _ _ hn =>
        obtain ⟨rfl, _⟩ := hvisits.unique hvisits'
        exact hbegin _ (.of_enter htokens hvisits' hnew) hn
    | release hvisits' hnew _ _ _ hn =>
        obtain ⟨rfl, _⟩ := hvisits.unique hvisits'
        exact hbegin _ (.of_release htokens hvisits' hnew) hn
    | answer hvisits' =>
        obtain ⟨rfl, _⟩ := hvisits.unique hvisits'
        exact hothers (hwaits hvisits' rfl) (hcarried.calling hvisits' _ _)
    | spoil hvisits' | gather hvisits' =>
        obtain ⟨rfl, _⟩ := hvisits.unique hvisits'
        exact hothers (hwaits hvisits' rfl) (hcarried.gathering hvisits' _ _)
    | reply => exact hcall rfl (hover rfl) _ _
    | noTools => exact hnoTools rfl (hover rfl)
  case calling =>
    intro t id parent next hu r w
    rcases hmove.staged hshape htokens hu with ⟨_, hvisits, hre⟩ | ⟨hfalse, _⟩
    · cases hre with
      | other | late => exact hothers (hwaits hvisits rfl) (hcarried.calling hvisits r w)
      | call => exact hcall rfl hvisits r w
    · cases hfalse
  case gathering =>
    intro t id parent slots next hu r w
    rcases hmove.staged hshape htokens hu with ⟨_, hvisits, hre⟩ | ⟨hfalse, _⟩
    · cases hre with
      | other | late | fill => exact hothers (hwaits hvisits rfl) (hcarried.gathering hvisits r w)
      | tools htasks => exact htools rfl htasks hvisits r w
    · cases hfalse

end Carried
end Workflow.Run
