import Workflow.Proofs.Calls
import Workflow.Proofs.Timing
import Workflow.Proofs.Views

/-!
# Workflow.Proofs.Foresight

What a run comes to can be known beforehand.

In a graph without cycles the outcome of every node follows from those of its
ancestors, so all of them can be foreseen before anything is run
(`Forecast.exists_right`).  In a run without failures each node sees what is
foreseen of its ancestors: they have all come to their end by the time it is
taken up, and nobody touches their outputs any more.  So whatever the delays, it
comes to the output that is foreseen for it (`Foreseen`).
-/

namespace Workflow.Run

open Machine

variable {σ : Type}

/-! ## Forecasts -/

/-- What the nodes of a run are foreseen to come to, as the world at first and the
answers of collaborators have it.  Of outputs all is foreseen but the time that
they may carry. -/
structure Forecast where
  plan : Plan
  start : Node
  first : World
  answer : Call → Except Problem Reply
  known : Key → Option Value

namespace Forecast

/-- What the node can see. -/
def view (f : Forecast) (n : Node) : View := ⟨f.plan, n, f.first, f.known⟩

/-- From the given world on, the work of the node comes to the output foreseen. -/
def Foresees (f : Forecast) (n : Node) (w : World) (work : Step Value) : Prop :=
  (f.view n).Foresees f.answer (f.known n.id.key) w work

/-- Whatever the answer, the rest of the work comes to the output foreseen. -/
def Awaits (f : Forecast) (id : NodeId) (rest : World → Step Value) : Prop :=
  ∀ n, f.plan.graph.node? id.key = some n → ∀ w, (f.view n).Shows 1 w → f.Foresees n w (rest w)

/-- What the world tells of a node, by how far it is. -/
def Tells (f : Forecast) : Status → World → Key → Prop
  | .fresh, w, k => w.rounds k = 0 ∧ Entries.get? w.outputs k = none
  | .underway, w, k => w.rounds k = 1 ∧ Entries.get? w.outputs k = none ∧
    ∀ n, f.plan.graph.node? k = some n → n.kind ≠ .start
  | .done, w, k => ∀ n, f.plan.graph.node? k = some n →
    ∃ output, Entries.get? w.outputs k = some output ∧ f.known k = some (f.first.undated n output)

/-- What is foreseen for the key is what its node comes to, where it sees what is
foreseen of its ancestors.  What comes before the start node has no output. -/
structure Fits (f : Forecast) (k : Key) (e : Option Value) : Prop where
  before : f.plan.graph.Precedes k f.start.id.key → e = none
  node : ∀ n, f.plan.graph.node? k = some n → ¬f.plan.graph.Precedes k f.start.id.key →
    ∀ w, (f.view n).Shows 0 w → (f.view n).Foresees f.answer e w (Execute.dispatch f.plan n w)

/-- The forecast fits a graph without cycles and choices. -/
structure Right (f : Forecast) : Prop where
  acyclic : f.plan.graph.Acyclic
  simple : f.plan.graph.Simple
  start : f.plan.graph.startNode = .ok f.start
  fits : ∀ k, f.Fits k (f.known k)

/-- Only what is foreseen of ancestors matters to a node. -/
theorem Fits.congr {f : Forecast} {known : Key → Option Value} {k : Key} {e : Option Value}
    (hsame : ∀ a, f.plan.graph.Precedes a k → f.known a = known a) (h : f.Fits k e) :
    Fits { f with known } k e := by
  refine ⟨h.before, fun n hn hbefore => ?_⟩
  have hshows : (view { f with known } n).Shows = (f.view n).Shows :=
    View.Shows.congr rfl rfl rfl fun a ha => (hsame a ((Graph.node?_some hn).2 ▸ ha)).symm
  have hnode := h.node n hn hbefore
  unfold View.Foresees at hnode ⊢
  rw [hshows]
  exact hnode

/-- What comes after the start node does not come before it. -/
theorem Right.not_before {f : Forecast} (hright : f.Right) {k : Key}
    (h : k = f.start.id.key ∨ f.plan.graph.Precedes f.start.id.key k) : ¬f.plan.graph.Precedes k f.start.id.key := by
  rintro hbefore
  rcases h with rfl | hafter
  · exact hright.acyclic _ hbefore
  · exact hright.acyclic _ (hbefore.trans hafter)

/-- All outcomes can be foreseen at once. -/
theorem exists_right {plan : Plan} {start : Node} (first : World) (answer : Call → Except Problem Reply)
    (hstart : plan.graph.startNode = .ok start) (hacyclic : plan.graph.Acyclic) (hsimple : plan.graph.Simple)
    (hseparate : plan.graph.Separate) (halike : ∀ n ∈ plan.graph.nodes, plan.graph.BindsAlike n) :
    ∃ known, Right ⟨plan, start, first, answer, known⟩ := by
  have hexists : ∀ k known, ∃ e, Fits ⟨plan, start, first, answer, known⟩ k e := by
    intro k known
    by_cases hbefore : plan.graph.Precedes k start.id.key
    · exact ⟨none, fun _ => rfl, fun _ _ hnot => absurd hbefore hnot⟩
    cases hn : plan.graph.node? k with
    | none => exact ⟨none, fun _ => rfl, fun n hn' => by cases hn.symm.trans hn'⟩
    | some n =>
        have hmem := (Graph.node?_some hn).1
        obtain ⟨e, he⟩ := Execute.dispatch_settles ⟨plan, n, first, known⟩ answer (hsimple n hmem) (halike n hmem)
          (hseparate n hmem)
        refine ⟨e, fun hyes => absurd hyes hbefore, fun n' hn' _ => ?_⟩
        cases hn.symm.trans hn'
        exact he
  obtain ⟨known, hfits⟩ := hacyclic.exists_solution hexists fun hsame hfits => hfits.congr hsame
  exact ⟨known, hacyclic, hsimple, hstart, hfits⟩

section

variable {f : Forecast} {k : Key} {w v : World} {n : Node} {work : Step Value}

theorem Tells.congr {status : Status} (hrounds : v.rounds k = w.rounds k)
    (houtput : Entries.get? v.outputs k = Entries.get? w.outputs k) (h : f.Tells status w k) : f.Tells status v k := by
  cases status with
  | fresh => exact ⟨hrounds.trans h.1, houtput.trans h.2⟩
  | underway => exact ⟨hrounds.trans h.1, houtput.trans h.2.1, h.2.2⟩
  | done =>
      intro n hn
      obtain ⟨output, houtput', hknown⟩ := h n hn
      exact ⟨output, houtput.trans houtput', hknown⟩

/-- The rest of the work is foreseen from where its stretch ends, and the world
tells so. -/
theorem Foresees.stretch (hforesees : f.Foresees n w work) (hn : f.plan.graph.node? n.id.key = some n)
    (hfail : ∀ v p, work ≠ .fail v p) :
    Alone n.id.key w work.world ∧ f.Foresees n work.world work ∧
      f.Tells (if work.waits then .underway else .done) work.world n.id.key := by
  have hrefl : ∀ w, Alone n.id.key w w := fun w => .tick w w.clock
  cases work with
  | done v output =>
      obtain ⟨halone, houtput, hknown⟩ := hforesees
      refine ⟨halone, ⟨hrefl v, houtput, hknown⟩, fun n' hn' => ?_⟩
      cases hn.symm.trans hn'
      exact ⟨output, houtput, hknown⟩
  | fail v p => exact absurd rfl (hfail v p)
  | call v c next =>
      obtain ⟨halone, hshows, hnext⟩ := hforesees
      refine ⟨halone, ⟨hrefl v, hshows, hnext⟩, (hshows 0).rounds, (hshows 0).own, fun n' hn' hkind => ?_⟩
      -- What waits for an answer shows its node nothing of the time.
      cases hn.symm.trans hn'
      have hclock : f.first.clock + 1 = f.first.clock := (hshows (f.first.clock + 1)).clock hkind
      omega
  | tools v tasks next => exact hforesees.elim

end
end Forecast

/-! ## Every state is foreseen -/

/-- The node of the key has begun other visits. -/
def Sent (m : Machine σ) (a : Key) : Prop := ∃ c id p pid, Follows m.jobs c id p pid ∧ pid.key = a

/-- What has come about is what is foreseen, the stretch in hand included. -/
structure Foreseen (f : Forecast) (h : Hand) (m : Machine σ) : Prop where
  writes : (h.world m).writes = f.first.writes
  state : (h.world m).state = []
  standing : Standing f.Tells h m
  after : ∀ {k}, k ∈ m.visited → k = f.start.id.key ∨ f.plan.graph.Precedes f.start.id.key k
  sources : ∀ {k}, k ∈ m.visited → k ≠ f.start.id.key → ∀ a ∈ f.plan.graph.sources k, Sent m a
  hand : ∀ {t work id parent stage n}, h = .works t work → m.Visits t id parent stage →
    f.plan.graph.node? id.key = some n → f.Foresees n work.world work

/-- What a run is carried out with that goes by the forecast. -/
def Forecast.setup (f : Forecast) (serve : σ → Nat → Call → σ × Served) : Setup σ :=
  ⟨f.plan, Execute.dispatch f.plan, serve⟩

section

variable {f : Forecast} {serve : σ → Nat → Call → σ × Served} {h h' : Hand} {m m' : Machine σ} {t : Nat}
  {id : NodeId} {n : Node} {w : World} {work : Step Value}

theorem Sent.move {s : Setup σ} (hmove : Move s h m h' m') {a : Key} (hsent : Sent m a) : Sent m' a := by
  obtain ⟨c, id, p, pid, hfollows, hkey⟩ := hsent
  exact ⟨c, id, p, pid, hfollows.move hmove, hkey⟩

namespace Foreseen

/-- Of the ancestors of a node whose sources are all done the world tells what is
foreseen. -/
theorem output_eq (hforeseen : Foreseen f h m) (hright : f.Right) (hsound : Sound (f.setup serve) f.start h m) {a k : Key}
    (hsources : k ≠ f.start.id.key → ∀ b ∈ f.plan.graph.sources k, Sent m b) (ha : f.plan.graph.Precedes a k) :
    Entries.get? (h.world m).outputs a = f.known a := by
  have hcases : Sent m a ∨ f.plan.graph.Precedes a f.start.id.key := by
    by_cases hkey : k = f.start.id.key
    · exact .inr (hkey ▸ ha)
    · refine ha.upwards (fun hlinks => hsources hkey _ (Graph.mem_sources.mpr hlinks)) ?_
      rintro a b ⟨_, _, _, _, hfollows, rfl⟩ hne hlinks
      exact hforeseen.sources (hsound.ran.follows hfollows) hne _ (Graph.mem_sources.mpr hlinks)
  rcases hcases with ⟨c, cid, p, pid, hfollows, rfl⟩ | hbefore
  · obtain ⟨hchild, pparent, hp⟩ := hfollows
    obtain ⟨_, _, _, n, hp', hn, hkind, _⟩ := hsound.shape.tree.child hchild
    cases hp.symm.trans hp'
    obtain ⟨output, houtput, hknown⟩ := hforeseen.standing.done (hsound.ran.follows ⟨hchild, pparent, hp⟩)
      (fun u uid hu heq => hsound.ran.childless hu.executing ⟨hchild, pparent, hp⟩ heq.symm) n hn
    rw [houtput, hknown, World.undated_of_kind hkind]
  · rw [(hright.fits a).before hbefore]
    exact (hforeseen.standing.fresh fun hmem => hright.not_before (hforeseen.after hmem) hbefore).2

/-- Whatever is visited comes after the start node. -/
theorem reached (hforeseen : Foreseen f h m) (hsound : Sound (f.setup serve) f.start h m) {parent : Option Nat}
    {stage : Stage} (hvisits : m.Visits t id parent stage) :
    id.key = f.start.id.key ∨ f.plan.graph.Precedes f.start.id.key id.key := by
  by_cases hkey : id.key = f.start.id.key
  · exact .inl hkey
  obtain ⟨p, pid, rfl, hfollows⟩ := hsound.shape.tree.follows hvisits hkey
  obtain ⟨_, _, _, _, hp, _, _, hlinks⟩ := hsound.shape.tree.child hvisits.job
  have hmem := hsound.ran.follows hfollows
  obtain ⟨_, pparent, hp'⟩ := hfollows
  cases hp.symm.trans hp'
  rcases hforeseen.after hmem with heq | hafter
  · exact .inr (heq ▸ .single hlinks)
  · exact .inr (hafter.tail hlinks)

/-- Remarks tell of no outputs. -/
theorem whisper (hmove : Move (f.setup serve) h m h' m') (hsound : Sound (f.setup serve) f.start h m)
    (hforeseen : Foreseen f h m) (hnone : h'.works? = none) (hwhisper : Whisper (h.world m) (h'.world m')) :
    Foreseen f h' m' := by
  have hvisited : m'.visited = m.visited := by
    refine (hmove.visited hsound.tokens).resolve_left ?_
    rintro ⟨t, id, henters⟩
    rw [henters.works] at hnone
    cases hnone
  obtain ⟨es, hes, hremarks⟩ := hwhisper.log
  constructor
  case writes => exact hwhisper.writes.trans hforeseen.writes
  case state => exact hwhisper.state.trans hforeseen.state
  case standing =>
    refine hforeseen.standing.whisper hmove hsound hnone fun htells => htells.congr (tally_of_remarks hes hremarks _).1 ?_
    rw [hwhisper.outputs]
  case after =>
    rw [hvisited]
    exact hforeseen.after
  case sources =>
    intro k hk hne a ha
    exact (hforeseen.sources (hvisited ▸ hk) hne a ha).move hmove
  case hand =>
    intro t work id parent stage n hh
    rw [hh] at hnone
    cases hnone

/-- The world shows a node what is foreseen of its ancestors when its sources are
all done. -/
theorem shows {r : Nat} (hforeseen : Foreseen f h m) (hright : f.Right) (hsound : Sound (f.setup serve) f.start h m)
    (hn : f.plan.graph.node? id.key = some n) (hrounds : (h.world m).rounds id.key = r)
    (hown : Entries.get? (h.world m).outputs id.key = none)
    (hsources : id.key ≠ f.start.id.key → ∀ b ∈ f.plan.graph.sources id.key, Sent m b)
    (hclock : n.kind = .start → (h.world m).clock = f.first.clock) : (f.view n).Shows r (h.world m) := by
  rw [← (Graph.node?_some hn).2] at hrounds hown hsources
  exact ⟨hforeseen.writes, hforeseen.state, hrounds, hown, hforeseen.output_eq hright hsound hsources, hclock⟩

/-- A collaborator gives the answer that has been foreseen. -/
theorem awaits (hanswers : ∀ st clock c, (serve st clock c).2.outcome = f.answer c) (hforeseen : Foreseen f h m)
    {parent : Option Nat} {c : Call} {next : Except Problem Reply → World → Step Value} {services : σ} {served : Served}
    (hh : h = .works t (.call w c next)) (hserve : serve m.services w.clock c = (services, served))
    (hover : m.Visits t id parent .over) : f.Awaits id (next served.outcome) := by
  intro n hn v hshows
  obtain ⟨_, _, hnext⟩ := hforeseen.hand hh hover hn
  have hanswer : served.outcome = f.answer c := by
    rw [← hanswers m.services w.clock c]
    exact congrArg (·.2.outcome) hserve.symm
  rw [hanswer]
  exact hnext v hshows

theorem not_tools (hforeseen : Foreseen f h m) (hsound : Sound (f.setup serve) f.start h m) {tasks : List ToolTask}
    {next : Except Problem (List Value) → World → Step Value} : h ≠ .works t (.tools w tasks next) := by
  rintro rfl
  obtain ⟨id, parent, hover⟩ := hsound.shape.hand t rfl
  obtain ⟨n, hn⟩ := hsound.shape.tree.known hover.job
  exact hforeseen.hand rfl hover hn

/-- Work that is taken up, or goes on, comes to the output foreseen. -/
theorem resumes (hright : f.Right) (hanswers : ∀ st clock c, (serve st clock c).2.outcome = f.answer c)
    (hmove : Move (f.setup serve) h m h' m') (hsound : Sound (f.setup serve) f.start h m)
    (htimed : Timed f.plan.graph f.start f.first.clock h m) (hcalls : Calls f.Awaits h m) (hforeseen : Foreseen f h m)
    (hn : f.plan.graph.node? id.key = some n) (hwhisper : Whisper (h.world m) w)
    (hresumes : Resumes (f.setup serve) h m h' m' t id w work) : f.Foresees n w work := by
  obtain ⟨hmem, hkey⟩ := Graph.node?_some hn
  have hunderway : Underway h m t id → (f.view n).Shows 1 w := fun hunderway => by
    obtain ⟨hrounds, hown, hkind⟩ := hforeseen.standing.underway hunderway
    have hsources := hforeseen.sources (hsound.ran.executing hunderway.executing)
    exact (hforeseen.shows hright hsound hn hrounds hown hsources fun hstart => absurd hstart (hkind n hn)).whisper hwhisper
  cases hresumes with
  | @enters n' henters hn' =>
      cases hn.symm.trans hn'
      obtain ⟨hrounds, hown⟩ := hforeseen.standing.fresh henters.new
      have hloop := hright.simple.not_loop n hmem
      have hshows : (f.view n).Shows 0 w := by
        refine (hforeseen.shows hright hsound hn hrounds hown (fun hne a ha => ?_) fun hkind => ?_).whisper hwhisper
        · obtain ⟨c, cid, p, pid, hfollows, _, hsource⟩ := hsound.sources hmove henters hne hn hloop a ha
          exact ⟨c, cid, p, pid, hfollows, hsource⟩
        · refine (htimed.begins hmove hsound henters hn hloop).1 ?_
          rw [← hkey, Graph.startNode_unique hright.start hmem hkind]
      obtain ⟨parent, hvisits⟩ := henters.visits
      have hnode := (hright.fits id.key).node n hn (hright.not_before (hforeseen.reached hsound hvisits)) w hshows
      rw [← hkey] at hnode
      exact hnode
  | answered hh hu =>
      obtain ⟨id', parent', next', hu', hawaits⟩ := hcalls.awaited (t := t) (by rw [hh]; exact List.mem_cons_self)
      obtain ⟨rfl, _, heq⟩ := hu.unique hu'
      cases heq
      exact hawaits n hn w (hunderway ⟨_, _, hu, .inl rfl⟩)
  | gathered hh hu => exact absurd hu hcalls.ungathered
  | replied hh hover hserve =>
      exact hforeseen.awaits hanswers hh hserve hover n hn w (hunderway ⟨_, _, hover, .inr ⟨_, hh, rfl⟩⟩)
  | spared hh => exact absurd hh (hforeseen.not_tools hsound)

/-- The stretch of one visit tells of the output of its node only. -/
theorem goes_on (hmove : Move (f.setup serve) h m h' m') (hsound : Sound (f.setup serve) f.start h m)
    (hkept : KeptDispatch (f.setup serve)) (hsimple : f.plan.graph.Simple) (hforeseen : Foreseen f h m)
    (hunfailed : ¬Failed h' m') (hh' : h' = .works t work) {parent : Option Nat} (hover : m'.Visits t id parent .over)
    (hwhisper : Whisper (h.world m) w) (hresumes : Resumes (f.setup serve) h m h' m' t id w work)
    (hn : f.plan.graph.node? id.key = some n) (hforesees : f.Foresees n w work) : Foreseen f h' m' := by
  obtain ⟨hmem, hkey⟩ := Graph.node?_some hn
  have hfail : ∀ v p, work ≠ .fail v p := by
    rintro v p rfl
    exact hunfailed (.inl (hh' ▸ rfl))
  obtain ⟨hstretch, hrest, htells⟩ := hforesees.stretch (hkey ▸ hn) hfail
  have hworld : h'.world m' = work.world := by rw [hh']; rfl
  have halone : Alone id.key (h.world m) (h'.world m') := by
    rw [hworld, ← hkey]
    exact .trans _ _ _ (.of_whisper _ _ hwhisper) hstretch
  have htaken := hresumes.taken hmove hsound
  constructor
  case writes => exact halone.writes.trans hforeseen.writes
  case state => exact halone.state.trans hforeseen.state
  case standing =>
    refine hforeseen.standing.goes_on hmove hsound hkept hh' hover htaken ?_ (by rw [hworld, ← hkey]; exact htells)
    exact fun hne htells => htells.congr (halone.rounds hne) (halone.outputs hne)
  case after =>
    intro k hk
    rcases htaken with henters | ⟨_, hsame⟩
    · rw [henters.visited] at hk
      rcases List.mem_cons.mp hk with rfl | hk
      · obtain ⟨_, hvisits⟩ := henters.visits
        exact hforeseen.reached hsound hvisits
      · exact hforeseen.after hk
    · exact hforeseen.after (hsame ▸ hk)
  case sources =>
    intro k hk hne a ha
    rcases htaken with henters | ⟨_, hsame⟩
    · rw [henters.visited] at hk
      rcases List.mem_cons.mp hk with rfl | hk
      · obtain ⟨c, cid, p, pid, hfollows, _, hsource⟩ := hsound.sources hmove henters hne hn (hsimple.not_loop n hmem) a ha
        exact Sent.move hmove ⟨c, cid, p, pid, hfollows, hsource⟩
      · exact (hforeseen.sources hk hne a ha).move hmove
    · exact (hforeseen.sources (hsame ▸ hk) hne a ha).move hmove
  case hand =>
    intro u work' uid uparent ustage n' hh hu hn'
    cases hh.symm.trans hh'
    obtain ⟨rfl, _⟩ := hu.unique hover
    cases hn.symm.trans hn'
    exact hrest

theorem move (hright : f.Right) (hanswers : ∀ st clock c, (serve st clock c).2.outcome = f.answer c)
    (hmove : Move (f.setup serve) h m h' m') (hsound : Sound (f.setup serve) f.start h m)
    (hkept : KeptDispatch (f.setup serve)) (hunfailed : ¬Failed h' m')
    (htimed : Timed f.plan.graph f.start f.first.clock h m) (hcalls : Calls f.Awaits h m) (hforeseen : Foreseen f h m) :
    Foreseen f h' m' := by
  rcases hmove.ahead hsound with ⟨hnone, hwhisper⟩ | ⟨t, id, parent, w, work, hh', hwhisper, hover, hresumes⟩
  · exact hforeseen.whisper hmove hsound hnone hwhisper
  · obtain ⟨n, hn⟩ := (hsound.move hmove hkept).shape.tree.known hover.job
    exact hforeseen.goes_on hmove hsound hkept hright.simple hunfailed hh' hover hwhisper hresumes hn
      (hforeseen.resumes hright hanswers hmove hsound htimed hcalls hn hwhisper hresumes)

/-- Nobody looks at the time but the start node, so the clock may go on. -/
theorem takes {e : Event} (htakes : Takes m e m') (hforeseen : Foreseen f .idle m) : Foreseen f (.holds e) m' := by
  have hwrites : m'.world.writes = m.world.writes := by cases htakes <;> rfl
  have hstate : m'.world.state = m.world.state := by cases htakes <;> rfl
  constructor
  case writes => exact hwrites.trans hforeseen.writes
  case state => exact hstate.trans hforeseen.state
  case standing =>
    refine hforeseen.standing.takes htakes fun htells => htells.congr ?_ (by rw [htakes.outputs])
    unfold World.rounds
    rw [htakes.log]
  case after =>
    rw [htakes.visited]
    exact hforeseen.after
  case sources =>
    unfold Sent
    rw [htakes.visited, htakes.jobs]
    exact hforeseen.sources
  case hand => exact fun hh => by cases hh

theorem single (f : Forecast) {w : World} (hwrites : w.writes = f.first.writes) (hstate : w.state = [])
    (houtputs : w.outputs = []) (hlog : w.log = []) (services : σ) (id : NodeId) (active : Int) :
    Foreseen f .idle (Machine.single w services (.visit id none) active) := by
  refine ⟨hwrites, hstate, .single (fun k => ⟨?_, ?_⟩) services id active, fun hk => absurd hk List.not_mem_nil,
    fun hk => absurd hk List.not_mem_nil, fun hh => by cases hh⟩
  · unfold World.rounds
    rw [hlog]
    rfl
  · rw [houtputs]
    rfl

end Foreseen
end

namespace Launch

/-- A forecast for a run. -/
def forecast (l : Launch σ) (answer : Call → Except Problem Reply) (known : Key → Option Value) : Forecast :=
  ⟨l.given, l.start, l.first.world, answer, known⟩

/-- Every state of a run without failures is foreseen by a forecast that fits. -/
theorem foreseen (l : Launch σ) {answer : Call → Except Problem Reply} {known : Key → Option Value}
    (hright : (l.forecast answer known).Right) (hnone : ∀ k, (l.state k).failures = [])
    (hanswers : ∀ st clock c, (l.services.serve st clock c).2.outcome = answer c) (k : Nat) :
    Foreseen (l.forecast answer known) .idle (l.state k) := by
  have hloop := hright.simple.not_loop
  have hdispatch : ∀ n ∈ l.setup.plan.graph.nodes, n.kind ≠ .loop ∧ ∀ w, (l.setup.dispatch n w).Timely n.id.key 1 w :=
    fun n hn => ⟨hloop n hn, Execute.dispatch_timely l.given (hloop n hn)⟩
  refine (l.unfailing_induct hnone (I := fun h m => Alive h m ∧ Timed l.graph l.start l.world.clock h m ∧
    Calls (l.forecast answer known).Awaits h m ∧ Foreseen (l.forecast answer known) h m) ?_ ?_ ?_ k).2.2.2
  · exact ⟨.single .., .single l.graph l.start (w := l.first.world) rfl rfl .., .single .., .single _ rfl rfl rfl rfl ..⟩
  · exact fun htakes hsound ⟨halive, htimed, hcalls, hforeseen⟩ =>
      ⟨halive.takes htakes, htimed.takes htakes hsound halive, hcalls.takes htakes, hforeseen.takes htakes⟩
  · rintro h m h' m' hmove hsound hunfailed hunfailed' ⟨halive, htimed, hcalls, hforeseen⟩
    exact ⟨halive.move hmove hsound hunfailed, htimed.move hmove hsound l.keptDispatch hdispatch hunfailed',
      hcalls.move hmove hsound (hforeseen.awaits hanswers) (hforeseen.not_tools hsound),
      hforeseen.move hright hanswers hmove hsound l.keptDispatch hunfailed' htimed hcalls⟩

end Launch
end Workflow.Run
