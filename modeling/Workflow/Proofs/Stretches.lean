import Workflow.Proofs.Fate

/-!
# Workflow.Proofs.Stretches

A run, stretch by stretch.

The work of a visit goes on in stretches: from where it begins or is answered to
where it waits or ends.  While it is in hand, the world that its stretch leaves
is known already (`Hand.world`).  Seen that way, a move adds nothing but remarks,
or the work of one visit goes on by one stretch (`Move.ahead`).
-/

namespace Workflow.Run

open Machine

variable {σ α : Type}

/-! ## Where a stretch ends -/

/-- The world in which the computation waits or ends. -/
def Step.world : Step α → World
  | .done w _ => w
  | .fail w _ => w
  | .call w _ _ => w
  | .tools w _ _ => w

/-- The world that the stretch in hand leaves, or that there is. -/
def Hand.world : Hand → Machine σ → World
  | .works _ work, _ => work.world
  | _, m => m.world

/-- What the computation waits for, whenever it comes and whatever it is, the
rest of it has the property. -/
def Step.Goes (P : World → Step α → Prop) : Step α → Prop
  | .call _ _ next => ∀ r u, P u (next r u)
  | .tools _ _ next => ∀ r u, P u (next r u)
  | _ => True

/-- The rest of the work that waits at the stage has the property, whenever it
goes on. -/
def Stage.Goes (P : World → Step Value → Prop) : Stage → Prop
  | .calling next => ∀ r u, P u (next r u)
  | .gathering _ next => ∀ r u, P u (next r u)
  | _ => True

/-- The work of the visit has begun and is not done. -/
def Underway (h : Hand) (m : Machine σ) (t : Nat) (id : NodeId) : Prop :=
  ∃ parent stage, m.Visits t id parent stage ∧
    (stage.isExecuting = true ∨ ∃ work, h = .works t work ∧ work.waits = true)

/-- The visit goes on with work in the given world: that of a new node, or the
rest of its own. -/
inductive Resumes (s : Setup σ) (h : Hand) (m : Machine σ) (h' : Hand) (m' : Machine σ) (t : Nat) (id : NodeId)
    (w : World) : Step Value → Prop
  | enters {n} : Enters h m h' m' t id → s.plan.graph.node? id.key = some n →
      Resumes s h m h' m' t id w (s.dispatch n w)
  | answered {parent next outcome} : h = .holds (.answer t outcome) → m.Visits t id parent (.calling next) →
      Resumes s h m h' m' t id w (next outcome w)
  | gathered {parent slots next index outcome r} : h = .holds (.settled t index outcome) →
      m.Visits t id parent (.gathering slots next) → Resumes s h m h' m' t id w (next r w)
  | replied {parent v c next services served} : h = .works t (.call v c next) → m.Visits t id parent .over →
      s.serve m.services v.clock c = (services, served) → Resumes s h m h' m' t id w (next served.outcome w)
  | spared {parent v next} : h = .works t (.tools v [] next) → m.Visits t id parent .over →
      Resumes s h m h' m' t id w (next (.ok []) w)

section

variable {s : Setup σ} {start : Node} {h h' : Hand} {m m' : Machine σ} {t : Nat} {id : NodeId} {parent : Option Nat}
  {stage : Stage}

theorem Hand.world_of_works (hnone : h.works? = none) : h.world m = m.world := by
  cases h with
  | works => cases hnone
  | _ => rfl

/-- A move adds remarks, or the work of a visit goes on by one stretch. -/
theorem Move.ahead (hmove : Move s h m h' m') (hsound : Sound s start h m) :
    (h'.works? = none ∧ Whisper (h.world m) (h'.world m')) ∨
    ∃ t id parent w work, h' = .works t work ∧ Whisper (h.world m) w ∧ m'.Visits t id parent .over ∧
      Resumes s h m h' m' t id w work := by
  have hquiet : h.works? = none → h'.works? = none → Whisper (h.world m) (h'.world m') := by
    intro hnone hnone'
    rw [Hand.world_of_works hnone, Hand.world_of_works hnone']
    exact hmove.whisper hsound hnone
  have hgoes : ∀ {t work}, h.works? = none → h' = .works t work → (∃ id parent, m'.Visits t id parent .over ∧
      Resumes s h m h' m' t id m'.world work) → ∃ t id parent w work, h' = .works t work ∧ Whisper (h.world m) w ∧
        m'.Visits t id parent .over ∧ Resumes s h m h' m' t id w work := by
    rintro t work hnone hh' ⟨id, parent, hover, hresumes⟩
    have hwhisper := hmove.whisper hsound hnone
    rw [← Hand.world_of_works (m := m) hnone] at hwhisper
    exact ⟨t, id, parent, _, work, hh', hwhisper, hover, hresumes⟩
  cases hmove with
  | drop | skip | refuse | absent | park | turn | pass | resume | count | fill | toolError | toolReply | toolCall
  | toolAnswer | tell | conclude => exact .inl ⟨rfl, hquiet rfl rfl⟩
  | @enter _ t id parent _ _ n hvisits hnew _ _ hn =>
      exact .inr (hgoes rfl rfl ⟨id, parent, Visits.setStage (m := m.visit _) hvisits _,
        .enters (.of_enter hsound.tokens hvisits hnew) hn⟩)
  | @release _ t id parent _ _ _ _ n hvisits hnew _ _ _ hn =>
      exact .inr (hgoes rfl rfl ⟨id, some parent,
        (Visits.setStage hvisits _).of_tasks (setStage_tasks (wake_tasks ..) ..),
        .enters (.of_release hsound.tokens hvisits hnew) hn⟩)
  | answer hvisits => exact .inr (hgoes rfl rfl ⟨_, _, hvisits.setStage _, .answered rfl hvisits⟩)
  | spoil hvisits | gather hvisits => exact .inr (hgoes rfl rfl ⟨_, _, hvisits.setStage _, .gathered rfl hvisits⟩)
  | spread | fail | tools => exact .inl ⟨rfl, .refl _⟩
  | call => exact .inl ⟨rfl, .records ..⟩
  | @stop _ t id parent stage w v log records result _ _ hlog =>
      refine .inl ⟨rfl, rfl, rfl, rfl, rfl, log, rfl, fun e he => ?_⟩
      rw [(hlog e he).1]
      rfl
  | @reply _ t w c next services served hserve =>
      obtain ⟨id, parent, hover⟩ := hsound.shape.hand t rfl
      exact .inr ⟨t, id, parent, _, _, rfl, .records .., hover, .replied rfl hover hserve⟩
  | @noTools _ t w next =>
      obtain ⟨id, parent, hover⟩ := hsound.shape.hand t rfl
      exact .inr ⟨t, id, parent, w, _, rfl, .refl w, hover, .spared rfl hover⟩

/-! ## Who is underway -/

theorem Underway.executing (h₀ : Underway h m t id) : Executing h m t id := by
  obtain ⟨parent, stage, hvisits, hexec | ⟨work, rfl, _⟩⟩ := h₀
  · exact ⟨parent, stage, hvisits, .inl hexec⟩
  · exact ⟨parent, stage, hvisits, .inr rfl⟩

/-- Whoever executes a node is underway, or its work has come to its end. -/
theorem Executing.underway (hexec : Executing h m t id) :
    Underway h m t id ∨ (∃ w v, h = .works t (.done w v)) ∨ ∃ w f, h = .works t (.fail w f) := by
  obtain ⟨parent, stage, hvisits, hexec | hworks⟩ := hexec
  · exact .inl ⟨parent, stage, hvisits, .inl hexec⟩
  · cases h with
    | works u work =>
        cases hworks
        cases work with
        | done w v => exact .inr (.inl ⟨w, v, rfl⟩)
        | fail w f => exact .inr (.inr ⟨w, f, rfl⟩)
        | call | tools => exact .inl ⟨parent, stage, hvisits, .inr ⟨_, rfl, rfl⟩⟩
    | _ => cases hworks

/-- Only what waits is underway. -/
theorem Underway.waits (hshape : Shape s.plan.graph start h m) {work : Step Value} (hh : h = .works t work)
    (h₀ : Underway h m t id) : work.waits = true := by
  subst hh
  obtain ⟨parent, stage, hvisits, hexec | ⟨work', hh, hwaits⟩⟩ := h₀
  · obtain ⟨_, _, hover⟩ := hshape.hand t rfl
    obtain ⟨_, _, rfl⟩ := hvisits.unique hover
    cases hexec
  · cases hh
    exact hwaits

/-- Work is underway until it comes to its end. -/
theorem Underway.move (hmove : Move s h m h' m') (hsound : Sound s start h m) (h₀ : Underway h m t id) :
    Underway h' m' t id ∨ (∃ w v, h' = .works t (.done w v)) ∨ ∃ w f, h' = .works t (.fail w f) := by
  rcases hmove.executing_ends hsound.shape hsound.tokens h₀.executing with hexec | ⟨w, v, hh⟩ | ⟨w, f, hh⟩
  · exact hexec.underway
  · cases h₀.waits hsound.shape hh
  · cases h₀.waits hsound.shape hh

/-- What a task is for never changes. -/
theorem Move.job (hmove : Move s h m h' m') {job : Job} (hjob : m.jobs[t]? = some job) : m'.jobs[t]? = some job := by
  have hlt := (List.getElem?_eq_some_iff.mp hjob).1
  rcases hmove.jobs with hjobs | ⟨_, _, _, _, _, _, _, _, _, _, hjobs⟩ | ⟨_, _, _, _, _, hjobs⟩
  · rw [hjobs, hjob]
  · rw [hjobs, List.getElem?_append_left hlt, hjob]
  · rw [hjobs, List.getElem?_append_left hlt, hjob]

/-- Work that waits has waited before, or its stretch was in hand. -/
theorem Move.stage_goes (hmove : Move s h m h' m') (hsound : Sound s start h m) (hvisits : m'.Visits t id parent stage)
    (hexec : stage.isExecuting = true) :
    (∃ stage₀, m.Visits t id parent stage₀ ∧ stage₀.isExecuting = true ∧ ∀ P, stage₀.Goes P → stage.Goes P) ∨
    ∃ work, h = .works t work ∧ work.waits = true ∧ m.Visits t id parent .over ∧ ∀ P, work.Goes P → stage.Goes P := by
  rcases hmove.staged hsound.shape hsound.tokens hvisits with ⟨stage₀, hold, hre⟩ | ⟨rfl, _⟩
  · cases hre with
    | other | late => exact .inl ⟨_, hold, hexec, fun _ hgoes => hgoes⟩
    | fill => exact .inl ⟨_, hold, rfl, fun _ hgoes => hgoes⟩
    | call | tools => exact .inr ⟨_, rfl, rfl, hold, fun _ hgoes => hgoes⟩
    | _ => cases hexec
  · cases hexec

/-- What is known of the rest of all work that waits, and of that in hand, is
known of all work that waits after the move. -/
theorem Move.goes (hmove : Move s h m h' m') (hsound : Sound s start h m) {P : World → Step Value → Prop}
    (hstages : ∀ {stage}, m.Visits t id parent stage → stage.Goes P)
    (hhand : ∀ {work}, h = .works t work → m.Visits t id parent .over → work.Goes P)
    (hvisits : m'.Visits t id parent stage) : stage.Goes P := by
  cases hexec : stage.isExecuting with
  | false =>
      cases stage with
      | calling | gathering => cases hexec
      | _ => trivial
  | true =>
      rcases hmove.stage_goes hsound hvisits hexec with ⟨_, hold, _, hgoes⟩ | ⟨_, hh, _, hover, hgoes⟩
      · exact hgoes P (hstages hold)
      · exact hgoes P (hhand hh hover)

/-- Whoever is underway was so before, or its work is in hand. -/
theorem Move.underway (hmove : Move s h m h' m') (hsound : Sound s start h m) (h₀ : Underway h' m' t id) :
    Underway h m t id ∨ h'.works? = some t := by
  obtain ⟨parent, stage, hvisits, hexec | ⟨work, rfl, _⟩⟩ := h₀
  · rcases hmove.stage_goes hsound hvisits hexec with ⟨stage₀, hold, hexec₀, _⟩ | ⟨work, hh, hwaits, hover, _⟩
    · exact .inl ⟨parent, stage₀, hold, .inl hexec₀⟩
    · exact .inl ⟨parent, .over, hover, .inr ⟨work, hh, hwaits⟩⟩
  · exact .inr rfl

theorem Underway.takes_iff {e : Event} (htakes : Takes m e m') : Underway (.holds e) m' t id ↔ Underway .idle m t id := by
  have hvisits : ∀ {parent stage}, m'.Visits t id parent stage ↔ m.Visits t id parent stage := by
    intro parent stage
    unfold Visits
    rw [htakes.tasks]
  refine exists_congr fun parent => exists_congr fun stage => and_congr hvisits (or_congr_right ?_)
  exact ⟨nofun, nofun⟩

/-- For every visit in the queue there is the event that begins it. -/
theorem Sound.ready_of_queued (hsound : Sound s start .idle m) (hvisits : m.Visits t id parent .queued) :
    .start t ∈ m.ready := by
  have hone : m.ready.countP (Event.starts t) = 1 := hsound.tokens.start hvisits
  obtain ⟨e, he, hstarts⟩ := List.countP_pos_iff.mp (hone.symm ▸ Nat.one_pos)
  cases e with
  | start u =>
      obtain rfl : u = t := by simpa [Event.starts] using hstarts
      exact he
  | _ => cases hstarts

/-- When nothing is ready in a run that goes on well, somebody is underway. -/
theorem Alive.underway (hsound : Sound s start .idle m) (halive : Alive .idle m) (hrunning : m.outcome = none)
    (hready : m.ready = []) : ∃ t id, Underway .idle m t id := by
  by_contra hnobody
  refine halive.not_stranded hsound ⟨hrunning, fun t id parent stage hvisits => ?_⟩
  have hnothing : ∀ e, e ∉ m.ready := fun e he => by rw [hready] at he; cases he
  cases stage with
  | parked => exact .inr (.inl ⟨rfl, hnothing _⟩)
  | waiting n => exact .inr (.inr ⟨⟨n, rfl⟩, fun _ => hnothing _⟩)
  | queued => exact absurd (hsound.ready_of_queued hvisits) (hnothing _)
  | calling next => exact absurd ⟨t, id, parent, _, hvisits, .inl rfl⟩ hnobody
  | gathering slots next => exact absurd ⟨t, id, parent, _, hvisits, .inl rfl⟩ hnobody
  | _ => exact .inl rfl

/-- Nobody is underway when a run without failures has come to a halt. -/
theorem Launch.Halted.not_underway {l : Launch σ} {N : Nat} (hhalt : l.Halted N) (hnone : ∀ k, (l.state k).failures = []) :
    ¬Underway .idle (l.state N) t id := by
  obtain ⟨v, houtcome⟩ := hhalt.returns hnone
  rintro ⟨parent, stage, hvisits, hexec | ⟨_, hh, _⟩⟩
  · have hover := (l.alive hnone N).finished (by rw [houtcome]; exact Option.some_ne_none _) hvisits
    rw [hover] at hexec
    cases hexec
  · cases hh

/-! ## How far nodes are -/

/-- A node has not been taken up, is being worked on, or is done. -/
inductive Status where
  | fresh | underway | done

/-- What the world tells of every node, by how far it is. -/
structure Standing (P : Status → World → Key → Prop) (h : Hand) (m : Machine σ) : Prop where
  fresh : ∀ {k}, k ∉ m.visited → P .fresh (h.world m) k
  underway : ∀ {t id}, Underway h m t id → P .underway (h.world m) id.key
  done : ∀ {k}, k ∈ m.visited → (∀ t id, Underway h m t id → id.key ≠ k) → P .done (h.world m) k

/-- The visit has just taken up its node, or it has been underway. -/
theorem Resumes.taken {w : World} {work : Step Value} (hmove : Move s h m h' m') (hsound : Sound s start h m)
    (hresumes : Resumes s h m h' m' t id w work) :
    Enters h m h' m' t id ∨ Underway h m t id ∧ m'.visited = m.visited := by
  have hold : (∀ u, h ≠ .holds (.start u)) → m'.visited = m.visited := fun hother =>
    (hmove.visited hsound.tokens).resolve_left fun ⟨u, _, henters⟩ => hother u henters.start
  have hrests : ∀ {parent stage}, m.Visits t id parent stage →
      (stage.isExecuting = true ∨ ∃ work, h = .works t work ∧ work.waits = true) → (∀ u, h ≠ .holds (.start u)) →
      Underway h m t id ∧ m'.visited = m.visited :=
    fun hu hwaits hother => ⟨⟨_, _, hu, hwaits⟩, hold hother⟩
  cases hresumes with
  | enters henters => exact .inl henters
  | answered hh hu | gathered hh hu =>
      subst hh
      exact .inr (hrests hu (.inl rfl) fun u heq => by cases heq)
  | replied hh hover | spared hh hover =>
      subst hh
      exact .inr (hrests hover (.inr ⟨_, rfl, rfl⟩) fun u heq => by cases heq)

namespace Standing

variable {P : Status → World → Key → Prop}

/-- Remarks change nothing of how far nodes are. -/
theorem whisper (hmove : Move s h m h' m') (hsound : Sound s start h m) (hstanding : Standing P h m)
    (hnone : h'.works? = none) (hkeep : ∀ {status k}, P status (h.world m) k → P status (h'.world m') k) :
    Standing P h' m' := by
  have hvisited : m'.visited = m.visited := by
    refine (hmove.visited hsound.tokens).resolve_left ?_
    rintro ⟨t, id, henters⟩
    rw [henters.works] at hnone
    cases hnone
  have hnot : ∀ {t work}, h' ≠ .works t work := by
    rintro t work rfl
    cases hnone
  constructor
  case fresh => exact fun hk => hkeep (hstanding.fresh (hvisited ▸ hk))
  case underway =>
    intro t id hu
    exact hkeep (hstanding.underway ((hmove.underway hsound hu).resolve_right fun hworks => by cases hnone.symm.trans hworks))
  case done =>
    intro k hk hnobody
    refine hkeep (hstanding.done (hvisited ▸ hk) fun t id hu => hnobody t id ?_)
    rcases hu.move hmove hsound with hu | ⟨_, _, hh⟩ | ⟨_, _, hh⟩
    · exact hu
    · exact absurd hh hnot
    · exact absurd hh hnot

/-- A stretch changes how far its own node is, and no other. -/
theorem goes_on {work : Step Value} (hmove : Move s h m h' m') (hsound : Sound s start h m) (hkept : KeptDispatch s)
    (hstanding : Standing P h m) (hh' : h' = .works t work) (hover : m'.Visits t id parent .over)
    (htaken : Enters h m h' m' t id ∨ Underway h m t id ∧ m'.visited = m.visited)
    (hothers : ∀ {status k}, k ≠ id.key → P status (h.world m) k → P status (h'.world m') k)
    (hmine : P (if work.waits then .underway else .done) (h'.world m') id.key) : Standing P h' m' := by
  have hsound' := hsound.move hmove hkept
  have hexec : Executing h' m' t id := ⟨parent, .over, hover, .inr (by rw [hh']; rfl)⟩
  have hvisited : ∀ {a}, a ∈ m'.visited ↔ a = id.key ∨ a ∈ m.visited := by
    intro a
    rcases htaken with henters | ⟨hunderway, hsame⟩
    · rw [henters.visited, List.mem_cons]
    · rw [hsame]
      refine ⟨.inr, fun ha => ha.elim (fun heq => ?_) fun ha => ha⟩
      rw [heq]
      exact hsound.ran.executing hunderway.executing
  constructor
  case fresh =>
    intro k hk
    obtain ⟨hne, hk⟩ := not_or.mp (mt hvisited.mpr hk)
    exact hothers hne (hstanding.fresh hk)
  case underway =>
    intro u uid hu
    by_cases hkey : uid.key = id.key
    · obtain rfl := hsound'.ran.sole hu.executing hexec hkey
      rw [hu.waits hsound'.shape hh'] at hmine
      rw [hkey]
      exact hmine
    · refine hothers hkey (hstanding.underway ((hmove.underway hsound hu).resolve_right fun hhand => hkey ?_))
      obtain ⟨_, _, hu, _⟩ := hu
      rw [hh'] at hhand
      cases hhand
      rw [(hu.unique hover).1]
  case done =>
    intro k hk hnobody
    by_cases hkey : k = id.key
    · subst hkey
      cases hwaits : work.waits with
      | true => exact absurd rfl (hnobody t id ⟨parent, .over, hover, .inr ⟨work, hh', hwaits⟩⟩)
      | false =>
          rw [hwaits] at hmine
          exact hmine
    · refine hothers hkey (hstanding.done ((hvisited.mp hk).resolve_left hkey) fun u uid hu heq => ?_)
      -- Nobody but the visit in hand can have come to its end by the move.
      have hends : ∀ {work'}, h' ≠ .works u work' := by
        rintro work' hh
        cases hh.symm.trans hh'
        have hjob := hover.job
        obtain ⟨_, _, hvisits, _⟩ := hu
        rw [hmove.job hvisits.job] at hjob
        cases hjob
        exact hkey heq.symm
      rcases hu.move hmove hsound with hu | ⟨_, _, hh⟩ | ⟨_, _, hh⟩
      · exact hnobody u uid hu heq
      · exact hends hh
      · exact hends hh

theorem takes {e : Event} (htakes : Takes m e m') (hstanding : Standing P .idle m)
    (hkeep : ∀ {status k}, P status m.world k → P status m'.world k) : Standing P (.holds e) m' where
  fresh hk := hkeep (hstanding.fresh (htakes.visited ▸ hk))
  underway hu := hkeep (hstanding.underway ((Underway.takes_iff htakes).mp hu))
  done hk hnobody := hkeep (hstanding.done (htakes.visited ▸ hk) fun t id hu =>
    hnobody t id ((Underway.takes_iff htakes).mpr hu))

theorem single {w : World} (hfresh : ∀ k, P .fresh w k) (services : σ) (id : NodeId) (active : Int) :
    Standing P .idle (Machine.single w services (.visit id none) active) := by
  refine ⟨fun {k} _ => hfresh k, fun {t id'} hu => ?_, fun hk => absurd hk List.not_mem_nil⟩
  obtain ⟨_, _, hu, hexec | ⟨_, hh, _⟩⟩ := hu
  · obtain ⟨_, _, _, rfl⟩ := visits_single hu
    cases hexec
  · cases hh

end Standing

/-! ## Who is about to begin -/

/-- As long as no node has been executed there is only the visit of the start node. -/
theorem Sound.first_visit (hsound : Sound s start h m) (hempty : m.visited = []) (hvisits : m.Visits t id parent stage) :
    parent = none ∧ id = start.id := by
  cases parent with
  | none =>
      obtain rfl := hsound.shape.tree.parentless hvisits.job
      cases hsound.shape.tree.root.symm.trans hvisits.job
      exact ⟨rfl, rfl⟩
  | some p =>
      obtain ⟨_, pid, pparent, _, hp, _⟩ := hsound.shape.tree.child hvisits.job
      have hmem := hsound.ran.follows ⟨hvisits.job, pparent, hp⟩
      rw [hempty] at hmem
      cases hmem

/-- A visit in the queue was there before, or one whose work is done has just
begun it. -/
theorem Move.queued_of (hmove : Move s h m h' m') (hsound : Sound s start h m) (hu : m'.Visits t id parent .queued) :
    m.Visits t id parent .queued ∨
    ∃ p w v pid pparent, parent = some p ∧ h = .works p (.done w v) ∧ m.Visits p pid pparent .over := by
  rcases hmove.staged hsound.shape hsound.tokens hu with ⟨_, hvisits, hre⟩ | ⟨_, _, p, w, v, hparent, rfl⟩
  · cases hre with
    | other | late => exact .inl hvisits
  · obtain ⟨pid, pparent, hover⟩ := hsound.shape.hand p rfl
    exact .inr ⟨p, w, v, pid, pparent, hparent, rfl, hover⟩

end
end Workflow.Run
