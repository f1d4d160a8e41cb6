import Workflow.Proofs.Confluence
import Workflow.Proofs.Stretches

/-!
# Workflow.Proofs.Timing

Branches wait only for their own predecessors.

The clock of a run stands still as long as anything is ready, so a node begins in
the second in which the last of its sources comes to its end, and in the graph of
a run without loops the times of the START and COMPLETE entries are those of a
longest path (`begins_with_last_source`).

`Timed` says so of every state.  It rests on three facts: a visit is begun, and
taken up, in the second in which its source is done; the clock goes on only while
some node is underway; and a node that has come to its end says nothing more.
-/

namespace Workflow.Run

open Machine

variable {σ α : Type}

/-! ## Times -/

namespace World

/-- The seconds at which executions of the node have begun, as the log says. -/
def startTimes (w : World) (k : Key) : List Nat := (w.log.filter (LogEntry.begins k)).map LogEntry.time

/-- The seconds at which executions of the node have come to their end, as the log says. -/
def endTimes (w : World) (k : Key) : List Nat := (w.log.filter (LogEntry.completes k)).map LogEntry.time

/-- The seconds at which executions of sources of the node have come to their end. -/
def sourceTimes (w : World) (g : Graph) (k : Key) : Set Nat := {t | ∃ a ∈ g.sources k, t ∈ w.endTimes a}

end World

/-- The world goes on within a second.  Of the node of the key so many executions
begin and come to their end, and of other nodes none. -/
structure Stretch (k : Key) (starts ends : Nat) (w v : World) : Prop where
  clock : v.clock = w.clock
  started : ∀ a, v.startTimes a = w.startTimes a ++ List.replicate (if a = k then starts else 0) w.clock
  ended : ∀ a, v.endTimes a = w.endTimes a ++ List.replicate (if a = k then ends else 0) w.clock

namespace Stretch

variable {k : Key} {b b' c c' : Nat} {u v w : World}

theorem trans (h₁ : Stretch k b c u v) (h₂ : Stretch k b' c' v w) : Stretch k (b + b') (c + c') u w := by
  refine ⟨h₂.clock.trans h₁.clock, fun a => ?_, fun a => ?_⟩
  · rw [h₂.started, h₁.started, h₁.clock, List.append_assoc, List.replicate_append_replicate]
    split <;> rfl
  · rw [h₂.ended, h₁.ended, h₁.clock, List.append_assoc, List.replicate_append_replicate]
    split <;> rfl

/-- Remarks tell of no execution. -/
theorem of_remarks (hclock : v.clock = w.clock)
    (hlog : ∃ es, v.log = w.log ++ es ∧ ∀ e ∈ es, e.phase.isRemark = true) : Stretch k 0 0 w v := by
  obtain ⟨es, hes, hremarks⟩ := hlog
  refine ⟨hclock, fun a => ?_, fun a => ?_⟩
  · have hnone : es.filter (LogEntry.begins a) = [] := List.filter_eq_nil_iff.mpr fun e he => by
      simp [LogEntry.not_begins (Phase.ne_of_isRemark (hremarks e he)).1 a]
    simp [World.startTimes, hes, hnone]
  · have hnone : es.filter (LogEntry.completes a) = [] := List.filter_eq_nil_iff.mpr fun e he => by
      simp [LogEntry.not_completes (Phase.ne_of_isRemark (hremarks e he)).2.1 a]
    simp [World.endTimes, hes, hnone]

theorem of_aside {still : Prop} (h : Aside still w v) : Stretch k 0 0 w v := by
  obtain ⟨es, hes, hremarks⟩ := h.log
  exact of_remarks h.clock ⟨es, hes, fun e he => (hremarks e he).1⟩

theorem begun (plan : Plan) (w : World) (n : Node) : Stretch n.id.key 1 0 w (w.begun plan n) := by
  have hlog : (w.begun plan n).log = w.log ++ [startEntry n w.clock] := rfl
  have htime : (startEntry n w.clock).time = w.clock := rfl
  refine ⟨rfl, fun a => ?_, fun a => ?_⟩
  · by_cases ha : a = n.id.key
    · simp [World.startTimes, hlog, begins_startEntry, htime, ha]
    · simp [World.startTimes, hlog, begins_startEntry, ha, Ne.symm ha]
  · simp [World.endTimes, hlog, LogEntry.not_completes (e := startEntry n w.clock) Phase.noConfusion]

theorem completed (plan : Plan) (w : World) (n : Node) (output : Value) (elapsed : Nat) :
    Stretch n.id.key 0 1 w (w.completed plan n output elapsed) := by
  have hlog : (w.completed plan n output elapsed).log = w.log ++ [completeEntry n output elapsed w.clock] := rfl
  have htime : (completeEntry n output elapsed w.clock).time = w.clock := rfl
  refine ⟨rfl, fun a => ?_, fun a => ?_⟩
  · simp [World.startTimes, hlog, LogEntry.not_begins (e := completeEntry n output elapsed w.clock) Phase.noConfusion]
  · by_cases ha : a = n.id.key
    · simp [World.endTimes, hlog, completes_completeEntry, htime, ha]
    · simp [World.endTimes, hlog, completes_completeEntry, ha, Ne.symm ha]

end Stretch

/-! ## Work and its times -/

/-- In its first stretch the work tells of so many executions of the node that
begin, and later of none.  As it is done it tells of the end of one. -/
def Step.Timely (k : Key) : Nat → World → Step α → Prop
  | b, w, .done v _ => Stretch k b 1 w v
  | _, _, .fail _ _ => True
  | b, w, .call v _ next => Stretch k b 0 w v ∧ ∀ r u, Timely k 0 u (next r u)
  | b, w, .tools v _ next => Stretch k b 0 w v ∧ ∀ r u, Timely k 0 u (next r u)

namespace Step.Timely

variable {k : Key} {b c : Nat} {v w : World}

/-- A stretch may begin earlier. -/
theorem after (h : Stretch k b 0 w v) {s : Step α} (hs : s.Timely k c v) : s.Timely k (b + c) w := by
  have hmore : ∀ {d u}, Stretch k c d v u → Stretch k (b + c) d w u := fun hu => by
    have hboth := h.trans hu
    rwa [Nat.zero_add] at hboth
  cases s with
  | done u a => exact hmore hs
  | fail u f => trivial
  | call u c next => exact ⟨hmore hs.1, hs.2⟩
  | tools u tasks next => exact ⟨hmore hs.1, hs.2⟩

theorem goes {s : Step α} (hs : s.Timely k b w) : s.Goes (Timely k 0) := by
  cases s with
  | call u c next => exact hs.2
  | tools u tasks next => exact hs.2
  | _ => trivial

/-- The stretch of work that does not fail. -/
theorem stretch {work : Step Value} (hs : work.Timely k b w) (hfail : ∀ v f, work ≠ .fail v f) :
    Stretch k b (if work.waits then 0 else 1) w work.world := by
  cases work with
  | done v a => exact hs
  | fail v f => exact absurd rfl (hfail v f)
  | call v c next => exact hs.1
  | tools v tasks next => exact hs.1

end Step.Timely
end Workflow.Run

namespace Workflow.Execute

open Run

/-- What makes nothing but remarks, and is told of at its end. -/
theorem timely_conclude {still : Prop} {plan : Plan} {n : Node} {origin : Origin} {started : Nat} {Q : World → Value → Prop}
    {F : World → Failure → Prop} : {s : Step Value} → {w : World} → s.Keeps (Aside still) Q F w →
      (s.attempt.bind (conclude plan n origin started)).Timely n.id.key 0 w
  | .done v _, _, h => (Stretch.of_aside h.1).trans (.completed plan v n _ _)
  | .fail _ _, _, _ => trivial
  | .call _ _ _, _, h => ⟨.of_aside h.1, fun r u => timely_conclude (h.2 r u)⟩
  | .tools _ _ _, _, h => ⟨.of_aside h.1, fun r u => timely_conclude (h.2.2 r u)⟩

/-- A dispatch of a node that is no loop tells of one execution, that of the node. -/
theorem dispatch_timely (plan : Plan) {n : Node} (hloop : n.kind ≠ .loop) (w : World) :
    (dispatch plan n w).Timely n.id.key 1 w := by
  by_cases hkinds : plan.kinds.contains n.kind = true
  case neg =>
    have hrefused : dispatch plan n w = .fail w (.own (.noExecutor n.kind n.id)) := by
      unfold dispatch dispatchWith
      simp only [hkinds]
      rfl
    rw [hrefused]
    trivial
  have hrest : ((perform plan plan.nesting n (w.begun plan n)).attempt.bind
      (conclude plan n (.result n.id.key (w.rounds n.id.key)) w.clock)).Timely n.id.key 0 (w.begun plan n) := by
    by_cases hstate : n.kind = .state
    · have hperform : perform plan plan.nesting n = state plan n := by rw [perform_eq, hstate]
      rw [hperform]
      rcases state_revises plan n (w.begun plan n) with ⟨v, _, _, hdone, hremarked, _⟩ | ⟨v, f, hfail, _⟩
      · obtain ⟨es, hes, hremarks⟩ := hremarked.log
        rw [hdone]
        exact (Stretch.of_remarks hremarked.clock ⟨es, hes, fun e he => (hremarks e he).2.2⟩).trans
          (.completed plan v n _ _)
      · rw [hfail]
        trivial
    · have hasides : (perform plan plan.nesting n).Asides False := perform_asides plan plan.nesting nofun hstate hloop
      exact timely_conclude (hasides _)
  unfold dispatch
  rw [dispatchWith_apply hkinds]
  exact .after (.begun plan w n) hrest

end Workflow.Execute

namespace Workflow.Run

open Machine

variable {σ : Type}

/-! ## Every state is timely -/

/-- The start node begins in the first second, and every other node in the one in
which the last of its sources comes to its end. -/
def BeginsAt (g : Graph) (start : Node) (first : Nat) (w : World) (k : Key) (t : Nat) : Prop :=
  (k = start.id.key → t = first) ∧
  (k ≠ start.id.key → (∀ a ∈ g.sources k, w.endTimes a ≠ []) ∧ IsGreatest (w.sourceTimes g k) t)

/-- What the log tells of the times of a node, by how far it is. -/
def World.Reports : Status → World → Key → Prop
  | .fresh, w, k => w.startTimes k = [] ∧ w.endTimes k = []
  | .underway, w, k => w.endTimes k = []
  | .done, w, k => ∃ t, w.endTimes k = [t]

theorem World.Reports.congr {status : Status} {w v : World} {k : Key} (hstarted : v.startTimes k = w.startTimes k)
    (hended : v.endTimes k = w.endTimes k) (h : World.Reports status w k) : World.Reports status v k := by
  cases status with
  | fresh => exact ⟨hstarted.trans h.1, hended.trans h.2⟩
  | underway => exact hended.trans h
  | done =>
      obtain ⟨t, ht⟩ := h
      exact ⟨t, hended.trans ht⟩

/-- What the log tells of times, with the stretch in hand. -/
structure Timed (g : Graph) (start : Node) (first : Nat) (h : Hand) (m : Machine σ) : Prop where
  standing : Standing World.Reports h m
  begun : ∀ {k}, k ∈ m.visited → ∃ t, (h.world m).startTimes k = [t] ∧ BeginsAt g start first (h.world m) k t
  past : ∀ {k t}, t ∈ (h.world m).endTimes k → t ≤ (h.world m).clock
  /-- Calls are answered later than now. -/
  sleepers : ∀ x ∈ m.sleepers, (h.world m).clock ≤ x.time
  /-- The start node is the first to be executed. -/
  rooted : m.visited ≠ [] → start.id.key ∈ m.visited
  /-- A visit that has not begun yet is not late. -/
  root : ∀ {t id}, m.Visits t id none .queued → (h.world m).clock = first
  queued : ∀ {t id p pid pparent}, m.Visits t id (some p) .queued → m.jobs[p]? = some (.visit pid pparent) →
    (h.world m).clock ∈ (h.world m).endTimes pid.key
  ends : ∀ {t w v id parent stage}, h = .works t (.done w v) → m.Visits t id parent stage →
    w.clock ∈ w.endTimes id.key
  hand : ∀ {t work id parent stage}, h = .works t work → m.Visits t id parent stage →
    work.Goes (Step.Timely id.key 0)
  stages : ∀ {t id parent stage}, m.Visits t id parent stage → stage.Goes (Step.Timely id.key 0)
  /-- As long as nobody is underway the clock stands still. -/
  now : m.visited = [] ∨ (∃ t id, Underway h m t id) ∨ ∃ k, (h.world m).clock ∈ (h.world m).endTimes k

section

variable {s : Setup σ} {start : Node} {first : Nat} {h h' : Hand} {m m' : Machine σ} {t : Nat} {id : NodeId}
  {w v : World} {work : Step Value} {k : Key}

/-- What has been said of the ends of sources stays as it was. -/
theorem BeginsAt.of_ends {g : Graph} (hbegins : BeginsAt g start first w k t)
    (hends : ∀ a, w.endTimes a ≠ [] → v.endTimes a = w.endTimes a) : BeginsAt g start first v k t := by
  refine ⟨hbegins.1, fun hk => ?_⟩
  obtain ⟨hsome, hgreatest⟩ := hbegins.2 hk
  have hsame : v.sourceTimes g k = w.sourceTimes g k := Set.ext fun t => exists_congr fun a =>
    and_congr_right fun ha => by rw [hends a (hsome a ha)]
  refine ⟨fun a ha => ?_, hsame ▸ hgreatest⟩
  rw [hends a (hsome a ha)]
  exact hsome a ha

namespace Timed

/-- Remarks tell of no times. -/
theorem whisper (hmove : Move s h m h' m') (hsound : Sound s start h m) (htimed : Timed s.plan.graph start first h m)
    (hnone : h'.works? = none) (hwhisper : Whisper (h.world m) (h'.world m')) :
    Timed s.plan.graph start first h' m' := by
  obtain ⟨hclock, hstarted, hended⟩ : Stretch default 0 0 (h.world m) (h'.world m') :=
    .of_remarks hwhisper.clock hwhisper.log
  simp only [ite_self, List.replicate_zero, List.append_nil] at hstarted hended
  have hvisited : m'.visited = m.visited := by
    refine (hmove.visited hsound.tokens).resolve_left ?_
    rintro ⟨t, id, henters⟩
    rw [henters.works] at hnone
    cases hnone
  have hnot : ∀ {t work}, h' ≠ .works t work := by
    rintro t work rfl
    cases hnone
  have hstill : ∀ {t id}, Underway h m t id → Underway h' m' t id := fun hu =>
    (hu.move hmove hsound).resolve_right fun hends => by
      rcases hends with ⟨_, _, hh⟩ | ⟨_, _, hh⟩ <;> exact hnot hh
  constructor
  case standing =>
    exact htimed.standing.whisper hmove hsound hnone fun hreports => hreports.congr (hstarted _) (hended _)
  case begun =>
    intro k hk
    rw [hvisited] at hk
    obtain ⟨t, ht, hbegins⟩ := htimed.begun hk
    exact ⟨t, (hstarted k).trans ht, hbegins.of_ends fun a _ => hended a⟩
  case past =>
    intro k t ht
    rw [hclock]
    exact htimed.past (hended k ▸ ht)
  case sleepers =>
    rcases hmove.sleepers_eq hsound.tokens with hsame | ⟨_, x, hmore, hlate, _⟩
    · rw [hsame, hclock]
      exact htimed.sleepers
    · intro y hy
      rw [hmore] at hy
      rcases List.mem_append.mp hy with hy | hy
      · rw [hclock]
        exact htimed.sleepers y hy
      · rw [List.mem_singleton.mp hy, Hand.world_of_works hnone]
        exact hlate
  case rooted =>
    rw [hvisited]
    exact htimed.rooted
  case root =>
    intro t id hu
    rcases hmove.queued_of hsound hu with hold | ⟨_, _, _, _, _, hparent, _⟩
    · rw [hclock]
      exact htimed.root hold
    · cases hparent
  case queued =>
    intro t id p pid pparent hu hp
    rw [hclock, hended]
    rcases hmove.queued_of hsound hu with hold | ⟨p', w, v, pid', pparent', hparent, rfl, hdone⟩
    · obtain ⟨_, pid', pparent', _, hp', _⟩ := hsound.shape.tree.child hold.job
      cases (hmove.job hp').symm.trans hp
      exact htimed.queued hold hp'
    · cases hparent
      cases (hmove.job hdone.job).symm.trans hp
      exact htimed.ends rfl hdone
  case ends => exact fun hh => absurd hh hnot
  case hand => exact fun hh => absurd hh hnot
  case stages => exact fun hu => hmove.goes hsound htimed.stages htimed.hand hu
  case now =>
    rcases htimed.now with hempty | ⟨t, id, hu⟩ | ⟨k, hk⟩
    · exact .inl (hvisited.trans hempty)
    · exact .inr (.inl ⟨t, id, hstill hu⟩)
    · refine .inr (.inr ⟨k, ?_⟩)
      rw [hclock, hended]
      exact hk

/-- A node is taken up in the second in which the last of its sources comes to its
end: it has been reached from there, and all others have been done before. -/
theorem begins (hmove : Move s h m h' m') (hsound : Sound s start h m) (htimed : Timed s.plan.graph start first h m)
    (henters : Enters h m h' m' t id) {n : Node} (hn : s.plan.graph.node? id.key = some n) (hloop : n.kind ≠ .loop) :
    BeginsAt s.plan.graph start first (h.world m) id.key (h.world m).clock := by
  obtain ⟨parent, hvisits⟩ := henters.visits
  refine ⟨fun hkey => ?_, fun hkey => ?_⟩
  · have hempty : m.visited = [] := by
      by_contra hsome
      exact henters.new (hkey ▸ htimed.rooted hsome)
    obtain ⟨rfl, _⟩ := hsound.first_visit hempty hvisits
    exact htimed.root hvisits
  · obtain ⟨p, pid, rfl, hfollows⟩ := hsound.shape.tree.follows hvisits hkey
    obtain ⟨_, _, _, _, hp, _, _, hlinks⟩ := hsound.shape.tree.child hvisits.job
    obtain ⟨_, pparent, hp'⟩ := hfollows
    cases hp.symm.trans hp'
    have hsources := hsound.sources hmove henters hkey hn hloop
    refine ⟨fun a ha => ?_, ⟨pid.key, Graph.mem_sources.mpr hlinks, htimed.queued hvisits hp⟩, ?_⟩
    · obtain ⟨c, cid, q, qid, hfollows, _, rfl⟩ := hsources a ha
      obtain ⟨t, ht⟩ := htimed.standing.done (hsound.ran.follows hfollows) fun u uid hu heq =>
        hsound.ran.childless hu.executing hfollows heq.symm
      simp [ht]
    · rintro t ⟨a, _, ht⟩
      exact htimed.past ht

/-- A node is taken up, or the work of a visit that is underway goes on. -/
theorem stretch (hmove : Move s h m h' m') (hsound : Sound s start h m) (htimed : Timed s.plan.graph start first h m)
    (hdispatch : ∀ n ∈ s.plan.graph.nodes, n.kind ≠ .loop ∧ ∀ w, (s.dispatch n w).Timely n.id.key 1 w)
    (hwhisper : Whisper (h.world m) w) (hresumes : Resumes s h m h' m' t id w work) :
    ∃ b, work.Timely id.key b (h.world m) ∧ (h.world m).endTimes id.key = [] ∧
      (b = 1 ∧ (h.world m).startTimes id.key = [] ∧
        BeginsAt s.plan.graph start first (h.world m) id.key (h.world m).clock ∨ b = 0 ∧ Underway h m t id) := by
  have hremarks : Stretch id.key 0 0 (h.world m) w := .of_remarks hwhisper.clock hwhisper.log
  have hrest : ∀ {work : Step Value}, work.Timely id.key 0 w → Underway h m t id →
      work.Timely id.key 0 (h.world m) ∧ (h.world m).endTimes id.key = [] ∧ Underway h m t id :=
    fun htimely hunderway => ⟨.after hremarks htimely, htimed.standing.underway hunderway, hunderway⟩
  cases hresumes with
  | @enters n henters hn =>
      obtain ⟨hloop, htimely⟩ := hdispatch n (Graph.node?_some hn).1
      obtain ⟨hstarted, hended⟩ := htimed.standing.fresh henters.new
      refine ⟨1, ?_, hended, .inl ⟨rfl, hstarted, htimed.begins hmove hsound henters hn hloop⟩⟩
      rw [← (Graph.node?_some hn).2] at hremarks ⊢
      exact .after hremarks (htimely w)
  | answered hh hu | gathered hh hu =>
      obtain ⟨htimely, hnone, hunderway⟩ := hrest (htimed.stages hu _ _) ⟨_, _, hu, .inl rfl⟩
      exact ⟨0, htimely, hnone, .inr ⟨rfl, hunderway⟩⟩
  | replied hh hover | spared hh hover =>
      obtain ⟨htimely, hnone, hunderway⟩ := hrest (htimed.hand hh hover _ _) ⟨_, _, hover, .inr ⟨_, hh, rfl⟩⟩
      exact ⟨0, htimely, hnone, .inr ⟨rfl, hunderway⟩⟩

/-- The stretch of one visit tells of the times of its node only. -/
theorem goes_on (hmove : Move s h m h' m') (hsound : Sound s start h m) (hkept : KeptDispatch s)
    (htimed : Timed s.plan.graph start first h m)
    (hdispatch : ∀ n ∈ s.plan.graph.nodes, n.kind ≠ .loop ∧ ∀ w, (s.dispatch n w).Timely n.id.key 1 w)
    (hunfailed : ¬Failed h' m') (hh' : h' = .works t work) {parent : Option Nat} (hover : m'.Visits t id parent .over)
    (hwhisper : Whisper (h.world m) w) (hresumes : Resumes s h m h' m' t id w work) :
    Timed s.plan.graph start first h' m' := by
  obtain ⟨b, htimely, hnone, hbegins⟩ := htimed.stretch hmove hsound hdispatch hwhisper hresumes
  have htaken := hresumes.taken hmove hsound
  have hfail : ∀ v f, work ≠ .fail v f := by
    rintro v f rfl
    exact hunfailed (.inl (hh' ▸ rfl))
  obtain ⟨hclock, hstarted, hended⟩ := htimely.stretch hfail
  have hworld : h'.world m' = work.world := by rw [hh']; rfl
  rw [← hworld] at hclock hstarted hended
  -- Of other nodes nothing new is told, and of this one no end had been told.
  have hother : ∀ {a}, a ≠ id.key → (h'.world m').startTimes a = (h.world m).startTimes a ∧
      (h'.world m').endTimes a = (h.world m).endTimes a := fun ha => by
    simp [hstarted, hended, ha]
  have hkeeps : ∀ a, (h.world m).endTimes a ≠ [] → (h'.world m').endTimes a = (h.world m).endTimes a := by
    intro a ha
    refine (hother ?_).2
    rintro rfl
    exact ha hnone
  have hmine : (h'.world m').endTimes id.key = List.replicate (if work.waits then 0 else 1) (h'.world m').clock := by
    rw [hended, hnone, hclock, if_pos rfl]
    rfl
  have hworks : ∀ {u work' id' parent' stage'}, h' = .works u work' → m'.Visits u id' parent' stage' →
      u = t ∧ work' = work ∧ id' = id := by
    intro u work' id' parent' stage' hh hu
    cases hh.symm.trans hh'
    exact ⟨rfl, rfl, (hu.unique hover).1⟩
  constructor
  case standing =>
    refine htimed.standing.goes_on hmove hsound hkept hh' hover htaken
      (fun hne hreports => hreports.congr (hother hne).1 (hother hne).2) ?_
    cases hwaits : work.waits with
    | true =>
        rw [hwaits] at hmine
        exact hmine
    | false =>
        rw [hwaits] at hmine
        exact ⟨_, hmine⟩
  case begun =>
    intro k hk
    by_cases hkey : k = id.key
    · subst hkey
      rw [hstarted, if_pos rfl]
      rcases hbegins with ⟨rfl, hfresh, hbegins⟩ | ⟨rfl, hunderway⟩
      · exact ⟨_, by rw [hfresh]; rfl, hbegins.of_ends hkeeps⟩
      · obtain ⟨c, hc, hbegins⟩ := htimed.begun (hsound.ran.executing hunderway.executing)
        exact ⟨c, by rw [hc]; rfl, hbegins.of_ends hkeeps⟩
    · have hold : k ∈ m.visited := by
        rcases htaken with henters | ⟨_, hsame⟩
        · rw [henters.visited] at hk
          exact (List.mem_cons.mp hk).resolve_left hkey
        · exact hsame ▸ hk
      obtain ⟨c, hc, hbegins⟩ := htimed.begun hold
      exact ⟨c, (hother hkey).1.trans hc, hbegins.of_ends hkeeps⟩
  case past =>
    intro k c hc
    rw [hclock]
    rw [hended] at hc
    rcases List.mem_append.mp hc with hc | hc
    · exact htimed.past hc
    · exact (List.eq_of_mem_replicate hc).le
  case sleepers =>
    rw [hclock]
    rcases hmove.sleepers_eq hsound.tokens with hsame | ⟨hidle, _⟩
    · rw [hsame]
      exact htimed.sleepers
    · cases hidle.symm.trans hh'
  case rooted =>
    intro _
    rcases htaken with henters | ⟨hunderway, hsame⟩
    · rw [henters.visited]
      by_cases hempty : m.visited = []
      · obtain ⟨_, hu⟩ := henters.visits
        rw [(hsound.first_visit hempty hu).2]
        exact List.mem_cons_self
      · exact List.mem_cons_of_mem _ (htimed.rooted hempty)
    · rw [hsame]
      exact htimed.rooted (List.ne_nil_of_mem (hsound.ran.executing hunderway.executing))
  case root =>
    intro u uid hu
    rw [hclock]
    rcases hmove.queued_of hsound hu with hold | ⟨_, _, _, _, _, hparent, _⟩
    · exact htimed.root hold
    · cases hparent
  case queued =>
    intro u uid p pid pparent hu hp
    rcases hmove.queued_of hsound hu with hold | ⟨p', w', v, pid', parent', _, rfl, _⟩
    · obtain ⟨_, pid', pparent', _, hp', _⟩ := hsound.shape.tree.child hold.job
      cases (hmove.job hp').symm.trans hp
      have hmem := htimed.queued hold hp'
      rw [hclock, hkeeps _ (List.ne_nil_of_mem hmem)]
      exact hmem
    · cases hmove <;> cases hh'
  case ends =>
    intro u w' v uid uparent ustage hh hu
    obtain ⟨rfl, rfl, rfl⟩ := hworks hh hu
    rw [hworld] at hmine
    exact hmine ▸ List.mem_singleton_self _
  case hand =>
    intro u work' uid uparent ustage hh hu
    obtain ⟨rfl, rfl, rfl⟩ := hworks hh hu
    exact htimely.goes
  case stages => exact fun hu => hmove.goes hsound htimed.stages htimed.hand hu
  case now =>
    cases hwaits : work.waits with
    | true => exact .inr (.inl ⟨t, id, parent, .over, hover, .inr ⟨work, hh', hwaits⟩⟩)
    | false =>
        rw [hwaits] at hmine
        exact .inr (.inr ⟨id.key, hmine ▸ List.mem_singleton_self _⟩)

theorem move (hmove : Move s h m h' m') (hsound : Sound s start h m) (hkept : KeptDispatch s)
    (hdispatch : ∀ n ∈ s.plan.graph.nodes, n.kind ≠ .loop ∧ ∀ w, (s.dispatch n w).Timely n.id.key 1 w)
    (hunfailed : ¬Failed h' m') (htimed : Timed s.plan.graph start first h m) :
    Timed s.plan.graph start first h' m' := by
  rcases hmove.ahead hsound with ⟨hnone, hwhisper⟩ | ⟨t, id, parent, w, work, hh', hwhisper, hover, hresumes⟩
  · exact htimed.whisper hmove hsound hnone hwhisper
  · exact htimed.goes_on hmove hsound hkept hdispatch hunfailed hh' hover hwhisper hresumes

/-- The clock goes on to the first answer, while somebody is underway and no visit
is in the queue. -/
theorem takes {g : Graph} {e : Event} (htakes : Takes m e m') (hsound : Sound s start .idle m) (halive : Alive .idle m)
    (htimed : Timed g start first .idle m) : Timed g start first (.holds e) m' := by
  have hvisits : ∀ {t id parent stage}, m'.Visits t id parent stage → m.Visits t id parent stage := fun hu =>
    hu.of_tasks htakes.tasks.symm
  have hstarted : ∀ k, m'.world.startTimes k = m.world.startTimes k := fun k => by
    unfold World.startTimes
    rw [htakes.log]
  have hended : ∀ k, m'.world.endTimes k = m.world.endTimes k := fun k => by
    unfold World.endTimes
    rw [htakes.log]
  have hlater : m.world.clock ≤ m'.world.clock := by
    cases htakes with
    | next => exact le_rfl
    | tick _ _ hearliest => exact htimed.sleepers _ ((earliest_perm hearliest).mem_iff.mpr List.mem_cons_self)
  have hclock : ∀ {t id parent}, m.Visits t id parent .queued → m'.world.clock = m.world.clock := fun hu => by
    cases htakes with
    | next => rfl
    | tick _ hready =>
        have hmem := hsound.ready_of_queued hu
        rw [hready] at hmem
        cases hmem
  constructor
  case standing => exact htimed.standing.takes htakes fun hreports => hreports.congr (hstarted _) (hended _)
  case begun =>
    intro k hk
    rw [htakes.visited] at hk
    obtain ⟨t, ht, hbegins⟩ := htimed.begun hk
    exact ⟨t, (hstarted k).trans ht, hbegins.of_ends fun a _ => hended a⟩
  case past =>
    intro k t ht
    have hmem : t ∈ m.world.endTimes k := hended k ▸ ht
    exact (htimed.past hmem).trans hlater
  case sleepers =>
    cases htakes with
    | next => exact htimed.sleepers
    | tick _ _ hearliest =>
        exact fun x hx => earliest_le hearliest x ((earliest_perm hearliest).mem_iff.mpr (List.mem_cons_of_mem _ hx))
  case rooted =>
    rw [htakes.visited]
    exact htimed.rooted
  case root => exact fun hu => (hclock (hvisits hu)).trans (htimed.root (hvisits hu))
  case queued =>
    intro t id p pid pparent hu hp
    rw [htakes.jobs] at hp
    have hmem : m.world.clock ∈ m.world.endTimes pid.key := htimed.queued (hvisits hu) hp
    rw [← hended, ← hclock (hvisits hu)] at hmem
    exact hmem
  case ends => exact fun hh => by cases hh
  case hand => exact fun hh => by cases hh
  case stages => exact fun hu => htimed.stages (hvisits hu)
  case now =>
    rcases htimed.now with hempty | ⟨t, id, hu⟩ | ⟨k, hk⟩
    · exact .inl (htakes.visited.trans hempty)
    · exact .inr (.inl ⟨t, id, (Underway.takes_iff htakes).mpr hu⟩)
    · cases htakes with
      | next => exact .inr (.inr ⟨k, hk⟩)
      | tick hrunning hready hearliest =>
          obtain ⟨t, id, hu⟩ := halive.underway hsound hrunning hready
          exact .inr (.inl ⟨t, id, (Underway.takes_iff (.tick hrunning hready hearliest)).mpr hu⟩)

/-- Nothing has been told as a run begins. -/
theorem single (g : Graph) (start : Node) {w : World} (hlog : w.log = []) (hclock : w.clock = first) (services : σ)
    (active : Int) : Timed g start first .idle (Machine.single w services (.visit start.id none) active) := by
  have hstarted : ∀ k, w.startTimes k = [] := fun k => by simp [World.startTimes, hlog]
  have hended : ∀ k, w.endTimes k = [] := fun k => by simp [World.endTimes, hlog]
  constructor
  case standing => exact .single (fun k => ⟨hstarted k, hended k⟩) services start.id active
  case begun => exact fun hk => absurd hk List.not_mem_nil
  case past =>
    intro k t ht
    have hmem : t ∈ w.endTimes k := ht
    rw [hended] at hmem
    cases hmem
  case sleepers => exact nofun
  case rooted => exact fun hsome => absurd rfl hsome
  case root => exact fun _ => hclock
  case queued =>
    intro t id p pid pparent hu
    cases (visits_single hu).2.2.1
  case ends => exact nofun
  case hand => exact nofun
  case stages =>
    intro t id parent stage hu
    rw [(visits_single hu).2.2.2]
    trivial
  case now => exact .inl rfl

end Timed
end

namespace Launch

/-- Every state of a run without failures in a graph without loops is timely. -/
theorem timed (l : Launch σ) (hloop : ∀ n ∈ l.graph.nodes, n.kind ≠ .loop) (hnone : ∀ k, (l.state k).failures = [])
    (k : Nat) : Timed l.graph l.start l.world.clock .idle (l.state k) := by
  have hdispatch : ∀ n ∈ l.setup.plan.graph.nodes, n.kind ≠ .loop ∧ ∀ w, (l.setup.dispatch n w).Timely n.id.key 1 w :=
    fun n hn => ⟨hloop n hn, Execute.dispatch_timely l.given (hloop n hn)⟩
  refine (l.unfailing_induct hnone (I := fun h m => Alive h m ∧ Timed l.graph l.start l.world.clock h m)
    ⟨.single .., .single l.graph l.start (w := l.first.world) rfl rfl ..⟩ ?_ ?_ k).2
  · exact fun htakes hsound ⟨halive, htimed⟩ => ⟨halive.takes htakes, htimed.takes htakes hsound halive⟩
  · exact fun hmove hsound hunfailed hunfailed' ⟨halive, htimed⟩ =>
      ⟨halive.move hmove hsound hunfailed, htimed.move hmove hsound l.keptDispatch hdispatch hunfailed'⟩

end Launch

/-- Branches wait for nobody but their own predecessors.  In every run of a graph
without loops that returns, each node that is executed begins once and comes to
its end once.  The start node begins in the first second, and every other node in
the second in which the last of its sources comes to its end.  The run is over in
the second in which the last of all nodes comes to its end. -/
theorem begins_with_last_source (l : Launch σ) (hloop : ∀ n ∈ l.graph.nodes, n.kind ≠ .loop) {fuel : Nat} {v : Value}
    (hreturns : (runGraph l.plan l.services fuel l.world).outcome = .ok v) :
    let w := (runGraph l.plan l.services fuel l.world).world
    (∀ k ∉ l.executed, w.startTimes k = [] ∧ w.endTimes k = []) ∧
    (∀ k ∈ l.executed, ∃ begins ends, w.startTimes k = [begins] ∧ w.endTimes k = [ends] ∧
      if k = l.start.id.key then begins = l.world.clock else IsGreatest (w.sourceTimes l.graph k) begins) ∧
    IsGreatest {t | ∃ k, t ∈ w.endTimes k} w.clock := by
  rw [l.runGraph_eq] at hreturns ⊢
  obtain ⟨v', houtcome⟩ : ∃ v', (l.state fuel).outcome = some (.ok v') := by
    unfold Machine.ended at hreturns
    cases houtcome : (l.state fuel).outcome with
    | none => simp [houtcome] at hreturns
    | some outcome =>
        cases outcome with
        | ok v' => exact ⟨v', rfl⟩
        | error f => simp [houtcome] at hreturns
  have hhalt : l.Halted fuel := by
    unfold Launch.Halted step
    rw [houtcome]
    rfl
  have hnone := hhalt.unfailing houtcome
  have htimed := l.timed hloop hnone fuel
  have hnobody : ∀ t id, ¬Underway .idle (l.state fuel) t id := fun t id => hhalt.not_underway hnone
  have hsome : (l.state fuel).visited ≠ [] := by
    have hlast : l.state (fuel + 1) = l.state fuel := run_of_halt hhalt (Nat.le_succ fuel)
    have hstart := l.visited_mono (Nat.succ_le_succ (Nat.zero_le fuel)) (l.start_visited (Graph.required_of_no_loops hloop))
    exact List.ne_nil_of_mem (hlast ▸ hstart)
  rw [hhalt.executed_eq]
  refine ⟨fun k hk => htimed.standing.fresh hk, fun k hk => ?_, ?_, ?_⟩
  · obtain ⟨begins, hbegins, hstart, hothers⟩ := htimed.begun hk
    obtain ⟨ends, hends⟩ := htimed.standing.done hk fun t id hu => absurd hu (hnobody t id)
    refine ⟨begins, ends, hbegins, hends, ?_⟩
    split
    next hkey => exact hstart hkey
    next hkey => exact (hothers hkey).2
  · exact (htimed.now.resolve_left hsome).resolve_left fun ⟨t, id, hu⟩ => hnobody t id hu
  · rintro t ⟨k, ht⟩
    exact htimed.past ht

/-! ## Two tools side by side -/

/-- A node that calls a built-in tool. -/
def sampleTool (name : String) : Node :=
  sampleNode name .tool [("type", .str "built-in"), ("tool", .record [("id", .str name)])]

/-- Two tools side by side, and a third one that waits for both. -/
def relay : Graph where
  nodes := [sampleStart, sampleTool "left", sampleTool "right", sampleTool "meet",
    sampleNode "out" .finish [("output_type", .str "JSON")]]
  edges := [sampleEdge "in" "left", sampleEdge "in" "right", sampleEdge "left" "meet", sampleEdge "right" "meet",
    sampleEdge "meet" "out"]
  keys_nodup := by decide +kernel
  ends_mem := by decide +kernel

/-- A run in which each call takes a second longer than the one before. -/
def relayRun : Launch Nat where
  plan := openPlan relay
  services := ⟨1, fun n _ _ => (n + 1, ⟨n, .ok (.value .null), []⟩)⟩
  world := .empty
  start := sampleStart
  inputs := .record []
  startNode_eq := rfl
  inputs_eq := rfl

/-- The run in which each call takes a second longer returns. -/
theorem relay_returns : ∃ v, (runGraph relayRun.plan relayRun.services 20 relayRun.world).outcome = .ok v := by
  cases houtcome : (runGraph relayRun.plan relayRun.services 20 relayRun.world).outcome with
  | ok v => exact ⟨v, rfl⟩
  | error e =>
      have hok : (runGraph relayRun.plan relayRun.services 20 relayRun.world).outcome.isOk = true := by decide +kernel
      rw [houtcome] at hok
      cases hok

/-- The third tool waits for the slower of the two, and the run for the third. -/
theorem relay_times :
    let w := (runGraph relayRun.plan relayRun.services 20 relayRun.world).world
    w.endTimes (Key.ofString "left") = [1] ∧ w.startTimes (Key.ofString "meet") = [2] ∧
      IsGreatest (w.sourceTimes relayRun.graph (Key.ofString "meet")) 2 ∧ IsGreatest {t | ∃ k, t ∈ w.endTimes k} 5 := by
  have hloop : ∀ n ∈ relayRun.graph.nodes, n.kind ≠ .loop := by decide +kernel
  obtain ⟨v, hreturns⟩ := relay_returns
  have hall := begins_with_last_source relayRun hloop hreturns
  have hleft : (runGraph relayRun.plan relayRun.services 20 relayRun.world).world.endTimes (Key.ofString "left") = [1] := by
    decide +kernel
  have htwo : (runGraph relayRun.plan relayRun.services 20 relayRun.world).world.startTimes (Key.ofString "meet") = [2] := by
    decide +kernel
  have hclock : (runGraph relayRun.plan relayRun.services 20 relayRun.world).world.clock = 5 := by decide +kernel
  have hother : Key.ofString "meet" ≠ relayRun.start.id.key := by decide +kernel
  have hmeet : Key.ofString "meet" ∈ (relayRun.state 20).visited := by decide +kernel
  generalize runGraph relayRun.plan relayRun.services 20 relayRun.world = r at *
  obtain ⟨_, hexecuted, hlast⟩ := hall
  obtain ⟨begins, ends, hbegins, _, hgreatest⟩ := hexecuted _ (Launch.dispatches_of_visited hmeet)
  rw [if_neg hother] at hgreatest
  obtain rfl : begins = 2 := List.singleton_injective (hbegins.symm.trans htwo)
  exact ⟨hleft, htwo, hgreatest, hclock ▸ hlast⟩

end Workflow.Run
