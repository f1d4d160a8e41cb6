import Workflow.Proofs.Carried
import Workflow.Proofs.Choices
import Workflow.Proofs.History

/-!
# Workflow.Proofs.Ledger

What the scheduler does to the world.

`Acting` ties the executions that the visits of a run have open to the work that
is under way.  `Acting.move` says what a move adds to the world: nothing but
remarks, or deeds of the visit whose work is in hand, or deeds and a lapse as
that visit fails.
-/

namespace Workflow.Run

open Machine

variable {σ : Type}

/-! ## Remarks of the scheduler -/

theorem whisper_checkStalled (plan : Plan) {m : Machine σ} (hkeys : (m.joins.map (·.id.key)).Nodup) :
    Whisper m.world (m.checkStalled plan).world := by
  obtain ⟨records, heq⟩ := checkStalled_eq plan hkeys
  rw [heq]
  split
  · exact .refl _
  · refine ⟨rfl, rfl, rfl, rfl, _, rfl, fun e he => ?_⟩
    obtain ⟨j, _, rfl⟩ := List.mem_map.mp he
    rfl

theorem whisper_turnAway (plan : Plan) {m : Machine σ} (hkeys : (m.joins.map (·.id.key)).Nodup) (j : Join) :
    Whisper m.world (m.turnAway plan j).world := by
  have hkeys' : ((m.arrived j).joins.map (·.id.key)).Nodup := keys_putJoin_nodup hkeys j
  have harrived : (m.setJoin j).addActive (-1) = m.arrived j := by
    rw [setJoin_eq]
    rfl
  unfold turnAway
  rw [harrived]
  exact whisper_checkStalled (m := m.arrived j) plan hkeys'

/-- Where no work is in hand, a move adds nothing but remarks. -/
theorem Move.whisper {s : Setup σ} {start : Node} {h h' : Hand} {m m' : Machine σ} (hmove : Move s h m h' m')
    (hsound : Sound s start h m) (hnone : h.works? = none) : Whisper m.world m'.world := by
  have hkeys := hsound.tokens.keys
  have htool : ∀ {t p index task stage} {w : World} {r : Except Problem Call}, m.Tools t p index task stage →
      task.start m.world = (w, r) → ∀ records, Whisper m.world { w with records } := by
    intro t p index task stage w r htools hstart records
    obtain ⟨records', hquiet⟩ := hsound.keeping.tools (jobs_getElem?.mpr ⟨_, htools⟩) m.world
    rw [hstart] at hquiet
    cases hquiet
    exact .records m.world records
  cases hmove with
  | @release _ t id parent stage required gate records =>
      have hwhisper : Whisper m.world (m.wake { m.join id required with gate }).world := by
        rw [wake_world]
        exact .refl _
      exact hwhisper.withRecords records
  | park => exact whisper_turnAway _ hkeys _
  | @turn _ t id parent stage required gate records =>
      exact (whisper_turnAway s.plan hkeys { m.join id required with gate }).withRecords records
  | tell => exact whisper_checkStalled s.plan (m := m.addActive (-1)) hkeys
  | @conclude _ _ _ _ failure =>
      have hwhisper := whisper_checkStalled s.plan (m := m.addActive (-1)) hkeys
      cases failure with
      | none => exact hwhisper.withRecords _
      | some f => exact hwhisper
  | toolError htools hstart => exact htool htools hstart _
  | toolReply htools hstart | toolCall htools hstart => exact htool htools hstart _
  | drop | skip | refuse | absent | enter | answer | resume | count | spoil | gather | fill | toolAnswer => exact .refl _
  | pass => exact .records ..
  | spread | stop | fail | reply | call | noTools | tools => cases hnone

/-! ## The piles of visits -/

/-- Does the computation wait for something? -/
def Step.waits {α : Type} : Step α → Bool
  | .call _ _ _ => true
  | .tools _ _ _ => true
  | _ => false

/-- How the work of a visit goes on with the executions it has open; failures have `F`. -/
def Acts (plan : Plan) (F : Failure → Prop) (piles : Nat → List Node) (t : Nat) (id : NodeId) (w : World)
    (work : Step Value) : Prop :=
  ∃ n, plan.graph.node? id.key = some n ∧ work.Does plan (Execute.Closes plan n []) F (piles t) w

/-- The failure is that of a node. -/
def Failure.OfNode (f : Failure) : Prop := ∃ err, f = .node err

/-- All work under way goes on with the executions that its visit has open, and
other visits have none open. -/
structure Acting (plan : Plan) (F : Failure → Prop) (piles : Nat → List Node) (h : Hand) (m : Machine σ) : Prop where
  carried : Carried (Acts plan F piles) h m
  idle : ∀ t, (∀ id, ¬Executing h m t id) → piles t = []

/-- Every dispatch opens and closes the execution of its node, or fails as `F` says. -/
def ActingDispatch (s : Setup σ) (F : Failure → Prop) : Prop := ∀ n ∈ s.plan.graph.nodes, ∀ S w,
  (s.dispatch n w).Does s.plan (Execute.Closes s.plan n S) F S w

/-- What a move adds to the world: remarks; or deeds of the visit in hand; or
deeds and a lapse, as that visit fails. -/
inductive Adds (plan : Plan) (F : Failure → Prop) (piles : Nat → List Node) (h : Hand) (w : World) :
    (Nat → List Node) → Hand → World → Prop
  | whisper {h' v} : h.works? = none → Whisper w v → Adds plan F piles h w piles h' v
  | deeds {t S h' v} : h.works? = some t → h.failure? = none → Deeds plan (piles t) w S v →
      Adds plan F piles h w (Function.update piles t S) h' v
  | lapse {t S u v f} : h = .works t (.fail v f) → F f → Deeds plan (piles t) w S u → Lapse u v f →
      Adds plan F piles h w (Function.update piles t []) (.ends t (some f)) v

namespace Adds

variable {plan : Plan} {F : Failure → Prop} {piles piles' : Nat → List Node} {h h' : Hand} {w v : World}

/-- What is stored goes on to be what the log says. -/
theorem mirrors (hadds : Adds plan F piles h w piles' h' v) (hmirrors : Mirrors w) : Mirrors v := by
  cases hadds with
  | whisper _ hwhisper => exact hmirrors.whisper hwhisper
  | deeds _ _ hdeeds => exact hmirrors.deeds hdeeds
  | lapse _ _ hdeeds hlapse => exact (hmirrors.deeds hdeeds).lapse hlapse

/-- The log goes on, and the clock stands still. -/
theorem log (hadds : Adds plan F piles h w piles' h' v) : v.clock = w.clock ∧ ∃ es, v.log = w.log ++ es := by
  cases hadds with
  | whisper _ hwhisper =>
      obtain ⟨es, hes, _⟩ := hwhisper.log
      exact ⟨hwhisper.clock, es, hes⟩
  | deeds _ _ hdeeds =>
      obtain ⟨hclock, es, hes, _⟩ := hdeeds.log
      exact ⟨hclock, es, hes⟩
  | lapse _ _ hdeeds hlapse =>
      obtain ⟨hclock, es, hes, _⟩ := hdeeds.log
      obtain ⟨fs, hfs, _⟩ := hlapse.log
      exact ⟨hlapse.clock.trans hclock, es ++ fs, by rw [hfs, hes, List.append_assoc]⟩

end Adds

section

variable {s : Setup σ} {start : Node} {h h' : Hand} {m m' : Machine σ} {piles : Nat → List Node} {F : Failure → Prop}

/-- A move in which no work is in hand adds nothing but remarks, and opens no
execution. -/
theorem Acting.quiet_move (hmove : Move s h m h' m') (hdispatch : ActingDispatch s F) (hsound : Sound s start h m)
    (hacting : Acting s.plan F piles h m) (hnone : h.works? = none) :
    Adds s.plan F piles h m.world piles h' m'.world ∧ Acting s.plan F piles h' m' := by
  have hnot : ∀ {t work}, h ≠ .works t work := by
    rintro t work rfl
    cases hnone
  refine ⟨.whisper hnone (hmove.whisper hsound hnone), ?_, fun t hidle => hacting.idle t fun id hexec => ?_⟩
  · refine hacting.carried.move hmove hsound.shape hsound.tokens (fun _ h => h) (fun {t id n} w henters hn => ?_)
      (fun hh => absurd hh hnot) (fun hh => absurd hh hnot) fun hh => absurd hh hnot
    have hempty : piles t = [] := hacting.idle t fun id' hexec => by
      obtain ⟨parent', stage', hu, hexec⟩ := hexec
      obtain ⟨parent, hvisits⟩ := henters.visits
      obtain ⟨_, _, rfl⟩ := hvisits.unique hu
      rw [hnone] at hexec
      rcases hexec with hexec | hexec <;> cases hexec
    refine ⟨n, hn, ?_⟩
    rw [hempty]
    exact hdispatch n (Graph.node?_some hn).1 [] w
  · rcases hmove.executing_ends hsound.shape hsound.tokens hexec with hexec' | ⟨_, _, hh⟩ | ⟨_, _, hh⟩
    · exact hidle id hexec'
    · exact hnot hh
    · exact hnot hh

/-- A move that takes the work of a visit further leaves the executions of all
other visits as they are, and the visit itself without any if its work has ended. -/
theorem Acting.work_move {t : Nat} {work : Step Value} {S : List Node} (hmove : Move s h m h' m')
    (hsound : Sound s start h m) (hacting : Acting s.plan F piles h m) (hh : h = .works t work)
    (hends : S = [] ∨ work.waits = true)
    (hnoTools : ∀ {id parent w next}, work = .tools w [] next → m.Visits t id parent .over →
      Acts s.plan F (Function.update piles t S) t id m.world (next (.ok []) w))
    (hcall : ∀ {id parent w c next}, work = .call w c next → m.Visits t id parent .over → ∀ r u,
      Acts s.plan F (Function.update piles t S) t id u (next r u))
    (htools : ∀ {id parent w tasks next}, work = .tools w tasks next → tasks ≠ [] → m.Visits t id parent .over → ∀ r u,
      Acts s.plan F (Function.update piles t S) t id u (next r u)) :
    Acting s.plan F (Function.update piles t S) h' m' := by
  subst hh
  refine ⟨hacting.carried.move hmove hsound.shape hsound.tokens (fun hu hacts => ?_) (fun w henters _ => ?_)
    (fun hh => ?_) (fun hh => ?_) (fun hh => ?_), fun u hidle => ?_⟩
  · unfold Acts
    rw [Function.update_of_ne fun heq => hu (congrArg some heq.symm)]
    exact hacts
  · cases henters.start
  · cases hh
    exact hnoTools rfl
  · cases hh
    exact hcall rfl
  · cases hh
    exact htools rfl
  · by_cases hut : u = t
    · subst hut
      rw [Function.update_self]
      refine hends.resolve_right fun hwaits => ?_
      obtain ⟨id, parent, hover⟩ := hsound.shape.hand u rfl
      rcases hmove.executing_ends hsound.shape hsound.tokens ⟨parent, _, hover, .inr rfl⟩ with
        hexec | ⟨w, v, hh⟩ | ⟨w, f, hh⟩
      · exact hidle id hexec
      · cases hh
        cases hwaits
      · cases hh
        cases hwaits
    · rw [Function.update_of_ne hut]
      refine hacting.idle u fun id hexec => ?_
      rcases hmove.executing_ends hsound.shape hsound.tokens hexec with hexec' | ⟨_, _, hh⟩ | ⟨_, _, hh⟩
      · exact hidle id hexec'
      · cases hh
        exact hut rfl
      · cases hh
        exact hut rfl

/-- Work that is done has closed all its executions. -/
theorem Acting.done {t : Nat} {id : NodeId} {parent : Option Nat} {stage : Stage} {w : World} {v : Value}
    (hacting : Acting s.plan F piles (.works t (.done w v)) m) (hvisits : m.Visits t id parent stage) :
    Deeds s.plan (piles t) m.world [] w := by
  obtain ⟨n, hn, hcloses⟩ := hacting.carried.works rfl hvisits
  obtain ⟨T, u, hdeeds, hdeed, _⟩ := Execute.Closes.deed (Graph.node?_some hn).1 hcloses
  exact hdeeds.tail hdeed

/-- Every move adds to the world in one of the three ways. -/
theorem Acting.move (hmove : Move s h m h' m') (hdispatch : ActingDispatch s F) (hsound : Sound s start h m)
    (hacting : Acting s.plan F piles h m) :
    ∃ piles', Adds s.plan F piles h m.world piles' h' m'.world ∧ Acting s.plan F piles' h' m' := by
  have hshape := hsound.shape
  have hquiet := hacting.quiet_move hmove hdispatch hsound
  have hwork := fun {t work} S (hh : h = .works t work) => hacting.work_move (S := S) hmove hsound hh
  cases hmove with
  | release | park | turn | tell | conclude | toolError | toolReply | toolCall | drop | skip | refuse | absent | enter
  | answer | resume | count | spoil | gather | fill | toolAnswer | pass => exact ⟨piles, hquiet rfl⟩
  | @spread _ t id parent stage n w v hvisits =>
      exact ⟨_, .deeds rfl rfl (hacting.done hvisits), hwork [] rfl (.inl rfl) nofun nofun nofun⟩
  | @stop _ t id parent stage w v log records result hvisits _ hlog =>
      have haside : Aside s.plan.graph.Separate w { w with log := w.log ++ log, records } := by
        refine ⟨rfl, rfl, rfl, ⟨log, rfl, fun e he => ?_⟩, fun _ => rfl⟩
        obtain ⟨hphase, text, hmessage⟩ := hlog e he
        refine ⟨by rw [hphase]; rfl, ?_⟩
        unfold LogEntry.tellsAbandonment
        rw [hmessage]
        exact (Apart.append ⟨_, _, rfl, by decide⟩ text).differs
      exact ⟨_, .deeds rfl rfl ((hacting.done hvisits).trans (.aside haside)), hwork [] rfl (.inl rfl) nofun nofun nofun⟩
  | @fail _ t w f =>
      obtain ⟨id, parent, hover⟩ := hshape.hand t rfl
      obtain ⟨n, hn, hf, T, u, hdeeds, hlapse⟩ := hacting.carried.works rfl hover
      exact ⟨_, .lapse rfl hf hdeeds hlapse, hwork [] rfl (.inl rfl) nofun nofun nofun⟩
  | @reply _ t w c next | @call _ t w c next =>
      obtain ⟨id, parent, hover⟩ := hshape.hand t rfl
      obtain ⟨n, hn, T, hdeeds, hnext⟩ := hacting.carried.works rfl hover
      refine ⟨_, .deeds rfl rfl (hdeeds.trans (.aside (.records ..))),
        hwork T rfl (.inr rfl) nofun (fun heq hu r u => ?_) nofun⟩
      cases heq
      obtain ⟨rfl, _⟩ := hover.unique hu
      refine ⟨n, hn, ?_⟩
      rw [Function.update_self]
      exact hnext r u
  | @noTools _ t w next =>
      obtain ⟨id, parent, hover⟩ := hshape.hand t rfl
      obtain ⟨n, hn, T, hdeeds, _, hnext⟩ := hacting.carried.works rfl hover
      refine ⟨_, .deeds rfl rfl (.refl : Deeds s.plan (piles t) m.world (piles t) m.world),
        hwork (piles t) rfl (.inr rfl) (fun heq hu => ?_) nofun fun heq hsome hu => ?_⟩
      · cases heq
        obtain ⟨rfl, _⟩ := hover.unique hu
        refine ⟨n, hn, ?_⟩
        rw [Function.update_self]
        exact (hnext (.ok []) w).after (Execute.closes_absorbs n []) hdeeds
      · cases heq
        exact absurd rfl hsome
  | @tools _ t w tasks next =>
      obtain ⟨id, parent, hover⟩ := hshape.hand t rfl
      obtain ⟨n, hn, T, hdeeds, _, hnext⟩ := hacting.carried.works rfl hover
      refine ⟨_, .deeds rfl rfl hdeeds, hwork T rfl (.inr rfl) (fun heq hu => ?_) nofun
        fun heq hsome hu r u => ?_⟩
      · cases heq
        contradiction
      · cases heq
        obtain ⟨rfl, _⟩ := hover.unique hu
        refine ⟨n, hn, ?_⟩
        rw [Function.update_self]
        exact hnext r u

theorem Acting.takes {e : Event} (htakes : Takes m e m') (hacting : Acting s.plan F piles .idle m) :
    Acting s.plan F piles (.holds e) m' where
  carried := hacting.carried.takes htakes
  idle t hidle := hacting.idle t fun id hexec => hidle id (hexec.of_tasks htakes.tasks.symm nofun)

/-- Nothing is open as a run begins. -/
theorem Acting.single (plan : Plan) (w : World) (services : σ) (id : NodeId) (active : Int) :
    Acting plan F (fun _ => []) .idle (Machine.single w services (.visit id none) active) := by
  refine ⟨⟨nofun, fun hu => ?_, fun hu => ?_⟩, fun _ _ => rfl⟩
  · cases (visits_single hu).2.2.2
  · cases (visits_single hu).2.2.2

end

namespace Launch

variable (l : Launch σ)

theorem actingDispatch : ActingDispatch l.setup Execute.DispatchFailure := fun _ hn S w =>
  (Execute.dispatch_does hn S w).weaken (fun _ _ _ _ h => h) fun _ h => h.dispatchFailure

/-- Where nodes of all kinds can be executed, every failure is that of a node. -/
theorem actingDispatch_of_kinds (hkinds : ∀ kind, kind ∈ l.plan.kinds) : ActingDispatch l.setup Failure.OfNode :=
  fun n hn S w =>
  (Execute.dispatch_does hn S w).weaken (fun _ _ _ _ h => h) fun _ h =>
    h.resolve_right fun hnone => hnone.1 (hkinds n.kind)

end Launch
end Workflow.Run
