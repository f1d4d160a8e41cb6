import Workflow.Proofs.Shape
import Mathlib.Algebra.GroupWithZero.Nat

/-!
# Workflow.Proofs.Tokens

Every visit that may begin, or may leave the gate it was parked at, is told so
exactly once.

A visit that has not begun has one start event in the queue.  A parked visit
is named once, either by the join it is parked at or by the event that lets it
go.  All other visits have neither.  So no visit begins twice, and none passes
a gate twice.
-/

namespace Workflow.Run

open Machine

variable {σ : Type}

/-! ## Counting -/

/-- Does the event begin the task? -/
def Event.starts (t : Nat) : Event → Bool
  | .start u => u == t
  | _ => false

/-- Does the event let the visit go? -/
def Event.passes (t : Nat) : Event → Bool
  | .pass u => u == t
  | _ => false

/-- The event in hand. -/
def Hand.event? : Hand → Option Event
  | .holds e => some e
  | _ => none

/-- The events that are still to be handled. -/
def pending (h : Hand) (m : Machine σ) : List Event := h.event?.toList ++ m.ready

/-- How often joins have a visit parked. -/
def parkings (js : List Join) (t : Nat) : Nat := (js.map fun j => j.parked.count t).sum

/-- How often a visit is named by joins or by the events that let visits go. -/
def passes (h : Hand) (m : Machine σ) (t : Nat) : Nat :=
  (pending h m).countP (Event.passes t) + parkings m.joins t

/-- How often a task is about to begin. -/
def starts (h : Hand) (m : Machine σ) (t : Nat) : Nat := (pending h m).countP (Event.starts t)

theorem countP_starts_pass (ts : List Nat) (t : Nat) : (ts.map .pass).countP (Event.starts t) = 0 := by
  simp [List.countP_eq_zero, Event.starts]

theorem countP_passes_pass (ts : List Nat) (t : Nat) : (ts.map .pass).countP (Event.passes t) = ts.count t := by
  rw [List.countP_map]
  rfl

theorem parkings_append (js js' : List Join) (t : Nat) : parkings (js ++ js') t = parkings js t + parkings js' t := by
  simp [parkings]

theorem parkings_cons (j : Join) (js : List Join) (t : Nat) :
    parkings (j :: js) t = j.parked.count t + parkings js t := by
  simp [parkings]

/-- One join in the place of another. -/
theorem parkings_replace {js : List Join} (hkeys : (js.map (·.id.key)).Nodup) {i : Join} {k : Key}
    (h : gateAt js k = some i) (j : Join) (t : Nat) :
    parkings (js.map fun i => if i.id.key == k then j else i) t + i.parked.count t =
      parkings js t + j.parked.count t := by
  induction js with
  | nil => cases h
  | cons i' js ih =>
      obtain ⟨hnew, hkeys⟩ := List.nodup_cons.mp hkeys
      by_cases hkey : i'.id.key = k
      · have hi : i' = i := by
          unfold gateAt at h
          rw [List.find?_cons_of_pos (by simpa using hkey)] at h
          exact Option.some.inj h
        have hrest : (js.map fun i => if i.id.key == k then j else i) = js := by
          conv => rhs; rw [← List.map_id js]
          refine List.map_congr_left fun i'' hi'' => ?_
          have hne : i''.id.key ≠ k := fun h => hnew (List.mem_map.mpr ⟨i'', hi'', h.trans hkey.symm⟩)
          simp [hne]
        rw [List.map_cons, hrest, parkings_cons, parkings_cons, if_pos (by simpa using hkey), hi]
        omega
      · have htail : gateAt js k = some i := by
          unfold gateAt at h ⊢
          rw [List.find?_cons_of_neg (by simpa using hkey)] at h
          exact h
        have hih := ih hkeys htail
        rw [List.map_cons, parkings_cons, parkings_cons, if_neg (by simpa using hkey)]
        omega

theorem parkings_putJoin {js : List Join} (hkeys : (js.map (·.id.key)).Nodup) (j : Join) (t : Nat) :
    parkings (putJoin js j) t + ((gateAt js j.id.key).elim 0 fun i => i.parked.count t) =
      parkings js t + j.parked.count t := by
  cases hgate : gateAt js j.id.key with
  | none =>
      have hnew := gateAt_none.mp hgate
      have hany : ¬(js.any fun i => i.id.key == j.id.key) = true := fun h => hnew (by simpa [List.any_eq_true] using h)
      unfold putJoin
      rw [if_neg hany, parkings_append]
      simp [parkings]
  | some i =>
      have hany : (js.any fun i => i.id.key == j.id.key) = true :=
        List.any_eq_true.mpr ⟨i, (gateAt_some hgate).1, by simpa using (gateAt_some hgate).2⟩
      unfold putJoin
      rw [if_pos hany]
      exact parkings_replace hkeys hgate j t

/-- One more visit is parked. -/
theorem parkings_addParked {m : Machine σ} (hkeys : (m.joins.map (·.id.key)).Nodup) {id : NodeId}
    (hjoin : (gateAt m.joins id.key).isSome) (t u : Nat) :
    parkings (m.addParked t id).joins u = parkings m.joins u + if u = t then 1 else 0 := by
  obtain ⟨j, hj⟩ := Option.isSome_iff_exists.mp hjoin
  have hreplace := parkings_replace hkeys hj { j with parked := j.parked ++ [t] } u
  have hsame : (m.addParked t id).joins =
      m.joins.map fun i => if i.id.key == id.key then { j with parked := j.parked ++ [t] } else i := by
    refine List.map_congr_left fun i hi => ?_
    by_cases hkey : i.id.key = id.key
    · have hij : i = j := by
        have hi' := gateAt_mem hkeys hi
        rw [hkey, hj] at hi'
        exact (Option.some.inj hi').symm
      rw [hij]
    · simp [hkey]
  have hone : [t].count u = if u = t then 1 else 0 := by
    rw [List.count_singleton]
    exact if_congr (by rw [beq_iff_eq]; exact eq_comm) rfl rfl
  rw [hsame]
  dsimp only at hreplace
  rw [List.count_append, hone] at hreplace
  omega

/-- Giving up all closed gates frees the visits that were parked there. -/
theorem parkings_givenUp (js : List Join) (t : Nat) :
    parkings (js.map givenUp) t + ((closed js).flatMap (·.parked)).count t = parkings js t := by
  induction js with
  | nil => rfl
  | cons j js ih =>
      rw [List.map_cons, parkings_cons, parkings_cons]
      cases hreleased : j.gate.released with
      | true =>
          have hclosed : closed (j :: js) = closed js := by simp [closed, hreleased]
          have hstays : givenUp j = j := by simp [givenUp, hreleased]
          rw [hclosed, hstays]
          omega
      | false =>
          have hclosed : closed (j :: js) = j :: closed js := by simp [closed, hreleased]
          have hempty : (givenUp j).parked = [] := by simp [givenUp, hreleased]
          rw [hclosed, hempty, List.flatMap_cons, List.count_append, List.count_nil]
          omega

/-- An arriving visit changes the gate, but not who is parked there. -/
theorem parkings_join {m : Machine σ} (hkeys : (m.joins.map (·.id.key)).Nodup) (id : NodeId) (required : Nat)
    (gate : Gate) (t : Nat) :
    parkings (putJoin m.joins { m.join id required with gate }) t = parkings m.joins t := by
  have hput := parkings_putJoin hkeys { m.join id required with gate } t
  have hparked : ((gateAt m.joins id.key).elim 0 fun j => j.parked.count t) =
      (m.join id required).parked.count t := by
    rw [join_eq]
    cases gateAt m.joins id.key <;> rfl
  dsimp only at hput
  rw [join_key, hparked] at hput
  exact Nat.add_right_cancel hput

/-! ## What moves do to the counts -/

theorem starts_idle (m : Machine σ) (t : Nat) : starts .idle m t = m.ready.countP (Event.starts t) := rfl

theorem passes_idle (m : Machine σ) (t : Nat) :
    passes .idle m t = m.ready.countP (Event.passes t) + parkings m.joins t := rfl

theorem starts_of_empty {h : Hand} (hh : h.event? = none) (m : Machine σ) (t : Nat) :
    starts h m t = starts .idle m t := by
  unfold starts pending
  rw [hh]
  rfl

theorem passes_of_empty {h : Hand} (hh : h.event? = none) (m : Machine σ) (t : Nat) :
    passes h m t = passes .idle m t := by
  unfold passes pending
  rw [hh]
  rfl

/-- No move takes an event in hand. -/
theorem Move.empty {s : Setup σ} {h h' : Hand} {m m' : Machine σ} (hmove : Move s h m h' m') : h'.event? = none := by
  cases hmove <;> rfl

theorem starts_holds (e : Event) (m : Machine σ) (t : Nat) :
    starts (.holds e) m t = (Event.starts t e).toNat + starts .idle m t := by
  unfold starts pending
  simp only [Hand.event?, Option.toList_some, Option.toList_none, List.nil_append, List.singleton_append,
    List.countP_cons]
  cases e.starts t
  · simp
  · simp [Nat.add_comm]

theorem passes_holds (e : Event) (m : Machine σ) (t : Nat) :
    passes (.holds e) m t = (Event.passes t e).toNat + passes .idle m t := by
  unfold passes pending
  simp only [Hand.event?, Option.toList_some, Option.toList_none, List.nil_append, List.singleton_append,
    List.countP_cons]
  cases e.passes t
  · simp
  · simp; omega

/-- A change of joins and queue that begins nothing, and that moves visits from
joins to the queue at most. -/
structure Frees (m m' : Machine σ) : Prop where
  keys : (m.joins.map (·.id.key)).Nodup → (m'.joins.map (·.id.key)).Nodup
  starts : ∀ t, starts .idle m' t = starts .idle m t
  passes : (m.joins.map (·.id.key)).Nodup → ∀ t, passes .idle m' t = passes .idle m t

theorem Frees.trans {m₁ m₂ m₃ : Machine σ} (h₁ : Frees m₁ m₂) (h₂ : Frees m₂ m₃) : Frees m₁ m₃ :=
  ⟨fun h => h₂.keys (h₁.keys h), fun t => (h₂.starts t).trans (h₁.starts t),
    fun h t => (h₂.passes (h₁.keys h) t).trans (h₁.passes h t)⟩

/-- What leaves joins and queue alone. -/
theorem Frees.of_eq {m m' : Machine σ} (hjoins : m'.joins = m.joins) (hready : m'.ready = m.ready) : Frees m m' := by
  constructor
  · rw [hjoins]
    exact id
  · intro t
    rw [starts_idle, starts_idle, hready]
  · intro _ t
    rw [passes_idle, passes_idle, hready, hjoins]

theorem frees_setJoin (m : Machine σ) (id : NodeId) (required : Nat) (gate : Gate) :
    Frees m (m.setJoin { m.join id required with gate }) := by
  rw [setJoin_eq]
  refine ⟨fun h => keys_putJoin_nodup h _, fun t => rfl, fun h t => ?_⟩
  rw [passes_idle, passes_idle, parkings_join h]

theorem frees_wake (m : Machine σ) (id : NodeId) (required : Nat) (gate : Gate) :
    Frees m (m.wake { m.join id required with gate }) := by
  rw [wake_eq]
  refine ⟨fun h => keys_putJoin_nodup h _, fun t => ?_, fun h t => ?_⟩
  · rw [starts_idle, starts_idle, List.countP_append]
    unfold freed
    split
    · rw [countP_starts_pass, Nat.add_zero]
    · rfl
  · have hput := parkings_putJoin h { m.join id required with gate } t
    have hjoin := parkings_join h id required gate t
    have hopened := parkings_putJoin h (opened { m.join id required with gate }) t
    rw [passes_idle, passes_idle, List.countP_append]
    unfold opened freed at *
    dsimp only at *
    split at hopened
    next hreleased =>
      rw [if_pos hreleased, if_pos hreleased, countP_passes_pass]
      simp only [List.count_nil] at hopened
      omega
    next hclosed =>
      rw [if_neg hclosed, if_neg hclosed, List.countP_nil]
      omega

theorem frees_checkStalled (plan : Plan) {m : Machine σ} (hkeys : (m.joins.map (·.id.key)).Nodup) :
    Frees m (m.checkStalled plan) := by
  obtain ⟨records, hstalled⟩ := checkStalled_eq plan hkeys
  rw [hstalled]
  split
  · exact .of_eq rfl rfl
  · have hevents : ((closed m.joins).flatMap fun j => j.parked.map Event.pass) =
        ((closed m.joins).flatMap (·.parked)).map .pass := by
      rw [List.map_flatMap]
    refine ⟨fun h => ?_, fun t => ?_, fun h t => ?_⟩
    · have hids : (m.joins.map givenUp).map (·.id.key) = m.joins.map (·.id.key) := by
        rw [List.map_map]
        exact List.map_congr_left fun j _ => by simp [givenUp_id]
      exact hids ▸ h
    · rw [starts_idle, starts_idle]
      unfold stalled
      dsimp only
      rw [List.countP_append, hevents, countP_starts_pass, Nat.add_zero]
    · have hgivenUp := parkings_givenUp m.joins t
      rw [passes_idle, passes_idle]
      unfold stalled
      dsimp only
      rw [List.countP_append, hevents, countP_passes_pass]
      omega

theorem frees_push (m : Machine σ) {es : List Event}
    (hes : ∀ e ∈ es, ∀ t, e.starts t = false ∧ e.passes t = false) : Frees m (m.push es) := by
  refine ⟨fun h => h, fun t => ?_, fun _ t => ?_⟩
  · have hnone : es.countP (Event.starts t) = 0 := List.countP_eq_zero.mpr fun e he => by simp [(hes e he t).1]
    rw [starts_idle, starts_idle]
    unfold push
    rw [List.countP_append, hnone, Nat.add_zero]
  · have hnone : es.countP (Event.passes t) = 0 := List.countP_eq_zero.mpr fun e he => by simp [(hes e he t).2]
    rw [passes_idle, passes_idle]
    unfold push
    rw [List.countP_append, hnone, Nat.add_zero]

theorem frees_conclude (m : Machine σ) (failure : Option Failure) : Frees m (m.conclude failure) := by
  cases failure with
  | none => exact .of_eq rfl rfl
  | some f =>
      have hparkings : ∀ t, parkings (m.joins.map fun j => { j with gate := j.gate.abandon }) t = parkings m.joins t := by
        intro t
        unfold parkings
        rw [List.map_map]
        rfl
      refine ⟨fun h => ?_, fun t => rfl, fun _ t => ?_⟩
      · have hids : (m.conclude (some f)).joins.map (·.id.key) = m.joins.map (·.id.key) := by
          unfold conclude releaseAll
          rw [List.map_map]
          rfl
        rw [hids]
        exact h
      · rw [passes_idle, passes_idle]
        exact congrArg (_ + ·) (hparkings t)

/-! ## One token each -/

/-- Is the task about to begin? -/
def Stage.isQueued : Stage → Bool
  | .queued => true
  | _ => false

/-- Is the task parked at a gate? -/
def Stage.isParked : Stage → Bool
  | .parked => true
  | _ => false

/-- A visit that has not begun is about to begin once, a parked visit is named
once, and nothing is said of visits that there are not. -/
structure Tokens (h : Hand) (m : Machine σ) : Prop where
  keys : (m.joins.map (·.id.key)).Nodup
  start : ∀ {t id parent stage}, m.Visits t id parent stage → starts h m t = stage.isQueued.toNat
  pass : ∀ {t id parent stage}, m.Visits t id parent stage → passes h m t = stage.isParked.toNat
  fresh : ∀ {t}, m.tasks.length ≤ t → starts h m t = 0 ∧ passes h m t = 0

namespace Tokens

variable {h h' : Hand} {m m' : Machine σ} {t : Nat} {id : NodeId} {parent : Option Nat} {stage : Stage}

/-- Where neither the counts nor the stages that matter change. -/
theorem of_counts (htokens : Tokens h m) (hkeys : (m'.joins.map (·.id.key)).Nodup)
    (hlength : m'.tasks.length = m.tasks.length)
    (hstage : ∀ {u id parent stage}, m'.Visits u id parent stage → ∃ stage₀, m.Visits u id parent stage₀ ∧
      stage₀.isQueued = stage.isQueued ∧ stage₀.isParked = stage.isParked)
    (hcounts : ∀ u, (∃ id parent stage, m.Visits u id parent stage) ∨ m.tasks.length ≤ u →
      starts h' m' u = starts h m u ∧ passes h' m' u = passes h m u) : Tokens h' m' := by
  refine ⟨hkeys, fun hvisits => ?_, fun hvisits => ?_, fun {t} hle => ?_⟩
  · obtain ⟨stage₀, hvisits₀, hqueued, _⟩ := hstage hvisits
    rw [(hcounts _ (.inl ⟨_, _, _, hvisits₀⟩)).1, htokens.start hvisits₀, hqueued]
  · obtain ⟨stage₀, hvisits₀, _, hparked⟩ := hstage hvisits
    rw [(hcounts _ (.inl ⟨_, _, _, hvisits₀⟩)).2, htokens.pass hvisits₀, hparked]
  · rw [hlength] at hle
    rw [(hcounts t (.inr hle)).1, (hcounts t (.inr hle)).2]
    exact htokens.fresh hle

/-- Where the tokens of one visit change with its stage. -/
theorem restage (htokens : Tokens h m) (hkeys : (m'.joins.map (·.id.key)).Nodup) (hvisits : m.Visits t id parent stage)
    {stage' : Stage} (htasks : m'.tasks = (m.setStage t stage').tasks)
    (hothers : ∀ u, u ≠ t → starts h' m' u = starts h m u ∧ passes h' m' u = passes h m u)
    (hat : starts h' m' t = stage'.isQueued.toNat ∧ passes h' m' t = stage'.isParked.toNat) : Tokens h' m' := by
  have hcases : ∀ {u id' parent' st}, m'.Visits u id' parent' st →
      u = t ∧ st = stage' ∨ u ≠ t ∧ m.Visits u id' parent' st := by
    intro u id' parent' st hu
    rw [Visits, htasks] at hu
    rcases visits_setStage.mp hu with ⟨hut, hst, _⟩ | hother
    · exact .inl ⟨hut, hst⟩
    · exact .inr hother
  refine ⟨hkeys, fun hu => ?_, fun hu => ?_, fun {u} hle => ?_⟩
  · rcases hcases hu with ⟨rfl, rfl⟩ | ⟨hne, hu⟩
    · exact hat.1
    · rw [(hothers _ hne).1, htokens.start hu]
  · rcases hcases hu with ⟨rfl, rfl⟩ | ⟨hne, hu⟩
    · exact hat.2
    · rw [(hothers _ hne).2, htokens.pass hu]
  · rw [htasks, length_setStage] at hle
    have hne : u ≠ t := fun heq => Nat.not_lt.mpr hle (heq ▸ hvisits.lt)
    rw [(hothers u hne).1, (hothers u hne).2]
    exact htokens.fresh hle

/-- A visit that begins was queued, and will not begin again. -/
theorem begun (htokens : Tokens (.holds (.start t)) m) (hvisits : m.Visits t id parent stage) :
    stage = .queued ∧ starts .idle m t = 0 ∧ passes .idle m t = 0 := by
  have hstart := htokens.start hvisits
  have hpass := htokens.pass hvisits
  rw [starts_holds] at hstart
  rw [passes_holds] at hpass
  simp only [Event.starts, Event.passes, beq_self_eq_true, Bool.toNat_true, Bool.toNat_false] at hstart hpass
  cases stage with
  | queued => exact ⟨rfl, by simpa [Stage.isQueued] using hstart, by simpa [Stage.isParked] using hpass⟩
  | _ =>
      simp only [Stage.isQueued, Bool.toNat_false] at hstart
      omega

/-- A visit that passes a gate was parked, and will not pass again. -/
theorem passed (htokens : Tokens (.holds (.pass t)) m) (hvisits : m.Visits t id parent stage) :
    stage = .parked ∧ starts .idle m t = 0 ∧ passes .idle m t = 0 := by
  have hstart := htokens.start hvisits
  have hpass := htokens.pass hvisits
  rw [starts_holds] at hstart
  rw [passes_holds] at hpass
  simp only [Event.starts, Event.passes, beq_self_eq_true, Bool.toNat_true, Bool.toNat_false] at hstart hpass
  cases stage with
  | parked => exact ⟨rfl, by simpa [Stage.isQueued] using hstart, by simpa [Stage.isParked] using hpass⟩
  | _ =>
      simp only [Stage.isParked, Bool.toNat_false] at hpass
      omega

/-- The counts of a visit that the event in hand is not about. -/
theorem counts_of_event (honly : ∀ e, h.event? = some e → e.starts t = false ∧ e.passes t = false) :
    starts h m t = starts .idle m t ∧ passes h m t = passes .idle m t := by
  cases h with
  | holds e =>
      obtain ⟨hstarts, hpasses⟩ := honly e rfl
      rw [starts_holds, passes_holds, hstarts, hpasses]
      exact ⟨Nat.zero_add _, Nat.zero_add _⟩
  | _ => exact ⟨rfl, rfl⟩

/-- A visit that nothing more is said about goes to a stage that needs no word. -/
theorem leave (htokens : Tokens h m) (hvisits : m.Visits t id parent stage) (hfrees : Frees m m')
    (htasks : m'.tasks = m.tasks) (hempty : h'.event? = none) {stage' : Stage}
    (hafter : stage'.isQueued = false ∧ stage'.isParked = false)
    (hothers : ∀ e, h.event? = some e → ∀ u, u ≠ t → e.starts u = false ∧ e.passes u = false)
    (hat : starts .idle m t = 0 ∧ passes .idle m t = 0) : Tokens h' (m'.setStage t stage') := by
  refine htokens.restage (hfrees.keys htokens.keys) hvisits (setStage_tasks htasks ..) (fun u hne => ?_) ?_
  · obtain ⟨hstarts, hpasses⟩ := counts_of_event (m := m) fun e he => hothers e he u hne
    rw [starts_of_empty hempty, passes_of_empty hempty, hstarts, hpasses]
    exact ⟨hfrees.starts u, hfrees.passes htokens.keys u⟩
  · rw [starts_of_empty hempty, passes_of_empty hempty, hafter.1, hafter.2]
    exact ⟨(hfrees.starts t).trans hat.1, (hfrees.passes htokens.keys t).trans hat.2⟩

/-- A visit that begins is taken in hand, or ends. -/
theorem start_over (htokens : Tokens (.holds (.start t)) m) (hvisits : m.Visits t id parent stage)
    (hfrees : Frees m m') (htasks : m'.tasks = m.tasks) (hempty : h'.event? = none) :
    Tokens h' (m'.setStage t .over) := by
  refine htokens.leave hvisits hfrees htasks hempty ⟨rfl, rfl⟩ (fun e he u hne => ?_) (htokens.begun hvisits).2
  cases he
  exact ⟨beq_false_of_ne (Ne.symm hne), rfl⟩

/-- A visit that is neither queued nor parked goes on to another such stage. -/
theorem go_on (htokens : Tokens h m) (hvisits : m.Visits t id parent stage) (hfrees : Frees m m')
    (htasks : m'.tasks = m.tasks) (hempty : h'.event? = none) {stage' : Stage}
    (hbefore : stage.isQueued = false ∧ stage.isParked = false)
    (hafter : stage'.isQueued = false ∧ stage'.isParked = false)
    (hevent : ∀ e, h.event? = some e → ∀ u, e.starts u = false ∧ e.passes u = false) :
    Tokens h' (m'.setStage t stage') := by
  refine htokens.leave hvisits hfrees htasks hempty hafter (fun e he u _ => hevent e he u) ?_
  obtain ⟨hstarts, hpasses⟩ := counts_of_event (m := m) fun e he => hevent e he t
  rw [← hstarts, ← hpasses, htokens.start hvisits, htokens.pass hvisits, hbefore.1, hbefore.2]
  exact ⟨rfl, rfl⟩

/-- The tasks stay as they are, and the event in hand is about none of them. -/
theorem same_tasks (htokens : Tokens h m) (hfrees : Frees m m') (htasks : m'.tasks = m.tasks)
    (hempty : h'.event? = none)
    (hevent : ∀ e, h.event? = some e → ∀ u, (∃ id parent stage, m.Visits u id parent stage) ∨ m.tasks.length ≤ u →
      e.starts u = false ∧ e.passes u = false) : Tokens h' m' := by
  refine htokens.of_counts (hfrees.keys htokens.keys) (by rw [htasks])
    (fun hvisits => ⟨_, Visits.of_tasks hvisits htasks.symm, rfl, rfl⟩) fun u hu => ?_
  obtain ⟨hstarts, hpasses⟩ := counts_of_event (m := m) fun e he => hevent e he u hu
  rw [starts_of_empty hempty, passes_of_empty hempty, hstarts, hpasses]
  exact ⟨hfrees.starts u, hfrees.passes htokens.keys u⟩

theorem countP_starts_range (first count t : Nat) :
    ((List.range count).map fun i => Event.start (first + i)).countP (Event.starts t) =
      if first ≤ t ∧ t < first + count then 1 else 0 := by
  induction count with
  | zero =>
      have hnot : ¬(first ≤ t ∧ t < first + 0) := by omega
      rw [if_neg hnot]
      rfl
  | succ count ih =>
      rw [List.range_succ, List.map_append, List.countP_append, ih, List.map_singleton, List.countP_singleton]
      by_cases ht : first + count = t
      · have hnot : ¬(first ≤ t ∧ t < first + count) := by omega
        have hin : first ≤ t ∧ t < first + (count + 1) := by omega
        have hstarts : Event.starts t (.start (first + count)) = true := by simp [Event.starts, ht]
        rw [hstarts, if_neg hnot, if_pos hin, if_pos rfl]
      · have hiff : (first ≤ t ∧ t < first + (count + 1)) ↔ first ≤ t ∧ t < first + count := by omega
        have hstarts : Event.starts t (.start (first + count)) = false := by simp [Event.starts, ht]
        rw [hstarts, if_neg Bool.false_ne_true, Nat.add_zero, if_congr hiff rfl rfl]

/-- New tasks are about to begin. -/
theorem add_tasks (htokens : Tokens .idle m) (js : List Job) : Tokens .idle (m.addTasks js) := by
  have hstarts : ∀ u, starts .idle (m.addTasks js) u =
      starts .idle m u + if m.tasks.length ≤ u ∧ u < m.tasks.length + js.length then 1 else 0 := by
    intro u
    rw [starts_idle, starts_idle]
    unfold addTasks
    dsimp only
    rw [List.countP_append, countP_starts_range]
  have hpasses : ∀ u, passes .idle (m.addTasks js) u = passes .idle m u := by
    intro u
    rw [passes_idle, passes_idle]
    unfold addTasks
    dsimp only
    have hnone : ((List.range js.length).map fun i => Event.start (m.tasks.length + i)).countP (Event.passes u) = 0 := by
      simp [List.countP_eq_zero, Event.passes]
    rw [List.countP_append, hnone, Nat.add_zero]
  have hlength : (m.addTasks js).tasks.length = m.tasks.length + js.length := by
    simp [addTasks]
  refine ⟨htokens.keys, fun {u _ _ _} hvisits => ?_, fun {u _ _ _} hvisits => ?_, fun {u} hle => ?_⟩
  · rw [hstarts]
    rcases visits_addTasks.mp hvisits with hold | ⟨rfl, i, hi, rfl⟩
    · have hlt := hold.lt
      rw [if_neg (by omega), htokens.start hold, Nat.add_zero]
    · have hlt := (List.getElem?_eq_some_iff.mp hi).1
      rw [if_pos (by omega), (htokens.fresh (Nat.le_add_right _ i)).1]
      rfl
  · rw [hpasses]
    rcases visits_addTasks.mp hvisits with hold | ⟨rfl, i, hi, rfl⟩
    · exact htokens.pass hold
    · exact (htokens.fresh (Nat.le_add_right _ i)).2
  · rw [hlength] at hle
    rw [hstarts, hpasses, if_neg (by omega)]
    exact htokens.fresh (by omega)

/-- A visit is parked at the gate of its node. -/
theorem park (htokens : Tokens (.holds (.start t)) m) (hvisits : m.Visits t id parent stage)
    (hfrees : Frees m m') (htasks : m'.tasks = m.tasks) (hjoin : (gateAt m'.joins id.key).isSome) :
    Tokens .idle (m'.addParked t id) := by
  obtain ⟨_, hstart, hpass⟩ := htokens.begun hvisits
  have hkeys := hfrees.keys htokens.keys
  have hkeys' : ((m'.addParked t id).joins.map (·.id.key)).Nodup := by
    have hids : (m'.addParked t id).joins.map (·.id.key) = m'.joins.map (·.id.key) := by
      unfold addParked
      dsimp only
      rw [List.map_map]
      refine List.map_congr_left fun i _ => ?_
      simp only [Function.comp_apply]
      split <;> rfl
    rw [hids]
    exact hkeys
  refine htokens.restage hkeys' hvisits (setStage_tasks htasks t .parked) (fun u hne => ?_) ?_
  · obtain ⟨hstarts, hpasses⟩ := counts_of_event (h := .holds (.start t)) (m := m) (t := u)
      fun e he => by cases he; exact ⟨beq_false_of_ne (Ne.symm hne), rfl⟩
    rw [hstarts, hpasses, ← hfrees.starts u, ← hfrees.passes htokens.keys u]
    refine ⟨rfl, ?_⟩
    rw [passes_idle, passes_idle, parkings_addParked hkeys hjoin, if_neg hne]
    rfl
  · rw [← hfrees.starts] at hstart
    rw [← hfrees.passes htokens.keys, passes_idle] at hpass
    refine ⟨hstart, ?_⟩
    rw [passes_idle, parkings_addParked hkeys hjoin, if_pos rfl, ← Nat.add_assoc]
    exact congrArg (· + 1) hpass

theorem frees_turnAway (plan : Plan) {m : Machine σ} (hkeys : (m.joins.map (·.id.key)).Nodup) (id : NodeId)
    (required : Nat) (gate : Gate) : Frees m (m.turnAway plan { m.join id required with gate }) := by
  have hset := frees_setJoin m id required gate
  have hactive : Frees (m.setJoin { m.join id required with gate })
      ((m.setJoin { m.join id required with gate }).addActive (-1)) := .of_eq rfl rfl
  exact (hset.trans hactive).trans (frees_checkStalled plan (hset.keys hkeys))

/-- A tool call ends, or goes on waiting. -/
theorem of_tool {p index : Nat} {task : ToolTask} {e : Event} (htokens : Tokens (.holds e) m)
    (htools : m.Tools t p index task stage) (he : e = .start t ∨ ∃ outcome, e = .answer t outcome)
    (hfrees : Frees m m') (hlength : m'.tasks.length = m.tasks.length)
    (hvisits : ∀ {u id parent st}, m'.Visits u id parent st → m.Visits u id parent st) : Tokens .idle m' := by
  refine htokens.of_counts (hfrees.keys htokens.keys) hlength (fun h => ⟨_, hvisits h, rfl, rfl⟩) fun u hu => ?_
  have hne : t ≠ u := by
    rintro rfl
    rcases hu with ⟨id, parent, st, hu⟩ | hle
    · exact hu.not_tools htools
    · exact Nat.not_lt.mpr hle (List.getElem?_eq_some_iff.mp htools).1
  have hevent : e.starts u = false ∧ e.passes u = false := by
    rcases he with rfl | ⟨outcome, rfl⟩
    · exact ⟨beq_false_of_ne hne, rfl⟩
    · exact ⟨rfl, rfl⟩
  rw [starts_holds, passes_holds, hevent.1, hevent.2]
  exact ⟨(hfrees.starts u).trans (Nat.zero_add _).symm, (hfrees.passes htokens.keys u).trans (Nat.zero_add _).symm⟩

theorem settle {p index : Nat} {task : ToolTask} {e : Event} (htokens : Tokens (.holds e) m) (m' : Machine σ)
    (htools : m.Tools t p index task stage) (he : e = .start t ∨ ∃ outcome, e = .answer t outcome)
    (hjoins : m'.joins = m.joins) (hready : m'.ready = m.ready) (htasks : m'.tasks = m.tasks)
    (outcome : Except Problem Value) : Tokens .idle (m'.settle t p index outcome) := by
  have hfrees : Frees m (m'.setStage t .over) := .of_eq hjoins hready
  have hpush : Frees (m'.setStage t .over) ((m'.setStage t .over).push [.settled p index outcome]) :=
    frees_push _ fun e he => by rw [List.mem_singleton.mp he]; exact fun t => ⟨rfl, rfl⟩
  refine htokens.of_tool htools he (hfrees.trans hpush) ((length_setStage ..).trans (by rw [htasks])) fun {u} _ _ _ h => ?_
  rcases visits_setStage.mp h with ⟨rfl, rfl, st₀, hvisits⟩ | ⟨_, hvisits⟩
  · exact absurd (hvisits.of_tasks htasks.symm) fun h => h.not_tools htools
  · exact hvisits.of_tasks htasks.symm

/-- Every move keeps the tokens. -/
theorem move {s : Setup σ} {start : Node} (hmove : Move s h m h' m') (hshape : Shape s.plan.graph start h m)
    (htokens : Tokens h m) : Tokens h' m' := by
  have hkeys := htokens.keys
  cases hmove with
  | skip hvisits | refuse hvisits | absent hvisits => exact htokens.start_over hvisits (.of_eq rfl rfl) rfl rfl
  | enter hvisits => exact htokens.start_over hvisits (.of_eq rfl rfl : Frees m (m.visit _)) rfl rfl
  | release hvisits =>
      exact htokens.start_over hvisits ((frees_wake ..).trans (.of_eq rfl rfl)) (wake_tasks ..) rfl
  | @turn _ t id _ _ required gate records hvisits =>
      have hfrees := frees_turnAway s.plan hkeys id required gate
      have hrest : ∀ m' : Machine σ, Frees m' ((m'.addActive 1).withRecords records) := fun m' => .of_eq rfl rfl
      exact htokens.start_over hvisits (hfrees.trans (hrest _)) (turned_tasks ..) rfl
  | @park _ t id _ _ required gate hvisits _ _ _ _ hclosed =>
      have hfrees := frees_turnAway s.plan hkeys id required gate
      refine htokens.park hvisits hfrees (turnAway_tasks ..) ?_
      obtain ⟨_, _, heq⟩ := closed_of_turnAway hkeys (j := { m.join id required with gate }) (join_key ..) hclosed
      rw [heq]
      exact Option.isSome_iff_exists.mpr ⟨_, (gateAt_putJoin ..).trans (if_pos (join_key ..).symm)⟩
  | @pass _ t _ _ _ records hvisits =>
      refine htokens.leave hvisits (.of_eq rfl rfl : Frees m ((m.addActive 1).withRecords records)) rfl rfl ⟨rfl, rfl⟩
        (fun e he u hne => ?_) (htokens.passed hvisits).2
      cases he
      exact ⟨rfl, beq_false_of_ne (Ne.symm hne)⟩
  | answer hvisits | spoil hvisits | gather hvisits =>
      exact htokens.go_on hvisits (.of_eq rfl rfl) rfl rfl ⟨rfl, rfl⟩ ⟨rfl, rfl⟩ fun e he u => by cases he; exact ⟨rfl, rfl⟩
  | count hvisits | fill hvisits =>
      exact htokens.go_on hvisits (.of_eq rfl rfl) rfl rfl ⟨rfl, rfl⟩ ⟨rfl, rfl⟩ fun e he u => by cases he; exact ⟨rfl, rfl⟩
  | resume hvisits =>
      exact htokens.go_on hvisits (.of_eq rfl rfl : Frees m (m.addActive 1)) rfl rfl ⟨rfl, rfl⟩ ⟨rfl, rfl⟩
        fun e he u => by cases he; exact ⟨rfl, rfl⟩
  | @drop _ e hstale =>
      refine htokens.same_tasks (.of_eq rfl rfl) rfl rfl fun e' he' u hu => ?_
      cases he'
      rcases hu with ⟨id, parent, stage, hvisits⟩ | hle
      · cases e with
        | start t =>
            refine ⟨beq_false_of_ne ?_, rfl⟩
            rintro rfl
            cases hvisits.symm.trans hstale
        | pass t =>
            refine ⟨rfl, beq_false_of_ne ?_⟩
            rintro rfl
            exact hstale _ _ _ hvisits
        | _ => exact ⟨rfl, rfl⟩
      · have hfresh := htokens.fresh hle
        rw [starts_holds, passes_holds] at hfresh
        constructor
        · exact Bool.toNat_eq_zero.mp (by omega)
        · exact Bool.toNat_eq_zero.mp (by omega)
  | @toolError _ _ _ _ _ _ w p htools => exact htokens.settle { m with world := w } htools (.inl rfl) rfl rfl rfl _
  | @toolReply _ _ _ _ _ _ w _ services served htools =>
      exact htokens.settle { m with world := { w with records := w.records ++ served.records }, services }
        htools (.inl rfl) rfl rfl rfl _
  | toolAnswer htools => exact htokens.settle m htools (.inr ⟨_, rfl⟩) rfl rfl rfl _
  | toolCall htools => exact htokens.of_tool htools (.inl rfl) (.of_eq rfl rfl) rfl fun h => h
  | @spread _ t id parent stage n w v hvisits =>
      obtain ⟨id', parent', hover⟩ := hshape.hand t rfl
      generalize s.plan.graph.targets n (w.look (selectedHandle v)) = ids
      have hwaiting : Tokens .idle
          ((({ m with world := w } : Machine σ).addActive (ids.length - 1)).setStage t (.waiting ids.length)) :=
        htokens.go_on hover (.of_eq rfl rfl : Frees m ({ m with world := w }.addActive (ids.length - 1))) rfl rfl ⟨rfl, rfl⟩ ⟨rfl, rfl⟩ fun e he => by cases he
      exact hwaiting.add_tasks _
  | @tools _ t w tasks next =>
      obtain ⟨id', parent', hover⟩ := hshape.hand t rfl
      have hgathering : Tokens .idle
          (({ m with world := w } : Machine σ).setStage t (.gathering (tasks.map fun _ => none) next)) :=
        htokens.go_on hover (.of_eq rfl rfl : Frees m { m with world := w }) rfl rfl ⟨rfl, rfl⟩ ⟨rfl, rfl⟩ fun e he => by cases he
      exact hgathering.add_tasks _
  | @call _ t w c next services served =>
      obtain ⟨id', parent', hover⟩ := hshape.hand t rfl
      have hfrees : Frees m ({ m with world := { w with records := w.records ++ served.records }, services }.sleep
          t served.delay served.outcome) := .of_eq rfl rfl
      exact htokens.go_on hover hfrees rfl rfl ⟨rfl, rfl⟩ ⟨rfl, rfl⟩ fun e he => by cases he
  | stop | fail | reply | noTools =>
      exact htokens.same_tasks (.of_eq rfl rfl) rfl rfl fun e he => by cases he
  | @tell _ t id parent stage failure hvisits =>
      have hstalled := frees_checkStalled s.plan (m := m.addActive (-1)) hkeys
      have hpush : Frees ((m.addActive (-1)).checkStalled s.plan)
          (((m.addActive (-1)).checkStalled s.plan).push [.ended parent failure]) :=
        frees_push _ fun e he => by rw [List.mem_singleton.mp he]; exact fun t => ⟨rfl, rfl⟩
      have hactive : Frees m (m.addActive (-1)) := .of_eq rfl rfl
      refine htokens.same_tasks ((hactive.trans hstalled).trans hpush) ?_ rfl fun e he => by cases he
      exact checkStalled_tasks s.plan (m.addActive (-1))
  | @conclude _ t id stage failure hvisits =>
      have hstalled := frees_checkStalled s.plan (m := m.addActive (-1)) hkeys
      have hactive : Frees m (m.addActive (-1)) := .of_eq rfl rfl
      refine htokens.same_tasks ((hactive.trans hstalled).trans (frees_conclude _ _)) ?_ rfl fun e he => by cases he
      exact (conclude_tasks ..).trans (checkStalled_tasks s.plan (m.addActive (-1)))

end Tokens
end Workflow.Run
