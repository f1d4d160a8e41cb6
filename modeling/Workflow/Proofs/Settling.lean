import Workflow.Proofs.History

/-!
# Workflow.Proofs.Settling

Computations whose outcome is settled beforehand.

`Step.settle` runs a computation to its end, all by itself: calls are answered as
a function of the call, each after a while.  `Step.Settles` says that the outcome
does not hang on when that is, nor on what others do meanwhile: wherever the
computation goes on in a world that looks the same to it, it comes to the same
end.  Then running it by itself comes to that end as well (`Step.Settles.settle`).
-/

namespace Workflow.Run

/-! ## Running a computation by itself -/

section

variable (answer : Call → Except Problem Reply) (delay : Call → Nat)

/-- Makes a tool call and waits for the answer. -/
def ToolTask.settle (task : ToolTask) (w : World) : World × Except Problem Value :=
  match task.start w with
  | (w, .error p) => (w, .error p)
  | (w, .ok c) => ({ w with clock := w.clock + delay c }, answer c >>= task.finish)

/-- Makes tool calls one after the other, up to the first that fails. -/
def settleTools : List ToolTask → World → World × Except Problem (List Value)
  | [], w => (w, .ok [])
  | task :: tasks, w => match task.settle answer delay w with
    | (w, .error p) => (w, .error p)
    | (w, .ok v) =>
      let (w, outcome) := settleTools tasks w
      (w, outcome.map (v :: ·))

/-- Runs a computation to its end.  Every call is answered as given, after so
many seconds. -/
def Step.settle {α : Type} : Step α → Except Failure (World × α)
  | .done w a => .ok (w, a)
  | .fail _ f => .error f
  | .call w c next => settle (next (answer c) { w with clock := w.clock + delay c })
  | .tools w tasks next =>
    let (w, outcome) := settleTools answer delay tasks w
    settle (next outcome w)

end

/-! ## Settled outcomes -/

namespace Step

variable {α β : Type} {I : World → Prop} {answer : Call → Except Problem Reply} {R R' : World → World → Prop}
  {F G : Prop}

/-- Every stretch keeps to `R`; results have `Q`, and where the computation fails
`F` holds.  It waits only where `I` holds of the world, whatever the time.  When
the call has been answered the next stretch begins in any world that has `I`.
Nothing is called beside the computation. -/
def Settles (I : World → Prop) (answer : Call → Except Problem Reply) (R : World → World → Prop)
    (Q : World → α → Prop) (F : Prop) : World → Step α → Prop
  | w, .done v a => R w v ∧ Q v a
  | _, .fail _ _ => F
  | w, .call v c next => R w v ∧ (∀ clock, I { v with clock }) ∧ ∀ u, I u → Settles I answer R Q F u (next (answer c) u)
  | _, .tools _ _ _ => False

/-- A stretch may begin earlier. -/
theorem Settles.after {Q : World → α → Prop} (htrans : ∀ u v w, R u v → R v w → R u w) {w v : World} (h : R w v)
    {s : Step α} (hs : Settles I answer R Q F v s) : Settles I answer R Q F w s := by
  cases s with
  | done u a => exact ⟨htrans _ _ _ h hs.1, hs.2⟩
  | fail u f => exact hs
  | call u c next => exact ⟨htrans _ _ _ h hs.1, hs.2⟩
  | tools u tasks next => exact hs

/-- Computations in a row are settled where each of them is. -/
theorem Settles.bind {Q : World → α → Prop} {P : World → β → Prop} (htrans : ∀ u v w, R u v → R v w → R u w)
    {next : α → Work β} (hnext : ∀ v a, Q v a → Settles I answer R P G v (next a v)) (hfail : F → G) :
    {s : Step α} → {w : World} → Settles I answer R Q F w s → Settles I answer R P G w (s.bind next)
  | .done v a, _, h => (hnext v a h.2).after htrans h.1
  | .fail _ _, _, h => hfail h
  | .call _ _ _, _, h => ⟨h.1, h.2.1, fun u hu => (h.2.2 u hu).bind htrans hnext hfail⟩

/-- The end of a computation may depend on whether it fails. -/
theorem Settles.bind_attempt {Q : World → α → Prop} {P : World → β → Prop} (hrelax : ∀ w v, R w v → R' w v)
    (htrans : ∀ u v w, R' u v → R' v w → R' u w) {next : Except Failure α → Work β}
    (hnext : ∀ v a, Q v a → Settles I answer R' P G v (next (.ok a) v))
    (hfail : ∀ w v f, F → Settles I answer R' P G w (next (.error f) v)) :
    {s : Step α} → {w : World} → Settles I answer R Q F w s → Settles I answer R' P G w (s.attempt.bind next)
  | .done v a, _, h => (hnext v a h.2).after htrans (hrelax _ _ h.1)
  | .fail v f, w, h => hfail w v f h
  | .call _ _ _, _, h =>
    ⟨hrelax _ _ h.1, h.2.1, fun u hu => (h.2.2 u hu).bind_attempt hrelax htrans hnext hfail⟩

/-- Where a computation cannot fail, it comes to its end by itself. -/
theorem Settles.settle {Q : World → α → Prop} (htrans : ∀ u v w, R u v → R v w → R u w)
    (htick : ∀ (w : World) clock, R w { w with clock }) (delay : Call → Nat) (hF : ¬F) :
    {s : Step α} → {w : World} → Settles I answer R Q F w s →
      ∃ v a, s.settle answer delay = .ok (v, a) ∧ R w v ∧ Q v a
  | .done v a, _, h => ⟨v, a, rfl, h⟩
  | .fail _ _, _, h => absurd h hF
  | .call v c _, _, h => by
      obtain ⟨hstretch, hI, hnext⟩ := h
      obtain ⟨u, a, hsettle, hrest, hQ⟩ := (hnext _ (hI (v.clock + delay c))).settle htrans htick delay hF
      exact ⟨u, a, hsettle, htrans _ _ _ hstretch (htrans _ _ _ (htick v _) hrest), hQ⟩

end Step

/-! ## Computations with settled outcomes -/

theorem Work.lift_ok {α β : Type} (a : α) (next : α → Work β) : (Work.lift (.ok a) >>= next) = next a := rfl

/-- Wherever `I` holds, the computation only makes remarks and has one and the
same outcome, up to what `f` makes of the result. -/
def Work.Determined {α β : Type} (I : World → Prop) (answer : Call → Except Problem Reply) (f : α → β)
    (x : Work α) : Prop :=
  ∃ e : Option β, ∀ w, I w → (x w).Settles I answer Whisper (fun v a => I v ∧ e = some (f a)) (e = none) w

theorem Whisper.trans (u v w : World) (h₁ : Whisper u v) (h₂ : Whisper v w) : Whisper u w := by
  obtain ⟨es, hes, hremarks⟩ := h₁.log
  obtain ⟨fs, hfs, hremarks'⟩ := h₂.log
  refine ⟨h₂.outputs.trans h₁.outputs, h₂.state.trans h₁.state, h₂.clock.trans h₁.clock, h₂.writes.trans h₁.writes,
    es ++ fs, by rw [hfs, hes, List.append_assoc], fun e he => ?_⟩
  rcases List.mem_append.mp he with he | he
  · exact hremarks e he
  · exact hremarks' e he

theorem Whisper.of_aside {still : Prop} {w v : World} (h : Aside still w v) (hstill : still) : Whisper w v := by
  obtain ⟨es, hes, hremarks⟩ := h.log
  exact ⟨h.outputs, h.state, h.clock, h.writes hstill, es, hes, fun e he => (hremarks e he).1⟩

namespace Work.Determined

variable {α β γ : Type} {I : World → Prop} {answer : Call → Except Problem Reply} {f : α → β}

/-- Only what is done where `I` holds matters. -/
theorem of_seen {x : Work α} (h : ∀ w, I w → x.Determined I answer f) : x.Determined I answer f := by
  by_cases hseen : ∃ w, I w
  · obtain ⟨w, hw⟩ := hseen
    exact h w hw
  · exact ⟨none, fun w hw => absurd ⟨w, hw⟩ hseen⟩

theorem bind {x : Work α} {next : α → Work β} {f : β → γ} (hx : x.Determined I answer id)
    (hnext : ∀ a, (next a).Determined I answer f) : (x >>= next).Determined I answer f := by
  obtain ⟨e, hx⟩ := hx
  cases e with
  | none => exact ⟨none, fun w hw => (hx w hw).bind Whisper.trans (fun v a h => by cases h.2) fun _ => rfl⟩
  | some a =>
      obtain ⟨e, hnext⟩ := hnext a
      refine ⟨e, fun w hw => (hx w hw).bind Whisper.trans (fun v b h => ?_) nofun⟩
      obtain ⟨hv, heq⟩ := h
      cases heq
      exact hnext v hv

theorem pure (a : α) : (Pure.pure a : Work α).Determined I answer f :=
  ⟨some (f a), fun w hw => ⟨.refl w, hw, rfl⟩⟩

theorem throw (p : Problem) : (Work.throw p : Work α).Determined I answer f := ⟨none, fun _ _ => rfl⟩

theorem lift (r : Except Fault α) : (Work.lift r).Determined I answer f := by
  cases r with
  | error fault => exact throw _
  | ok a => exact pure a

theorem check (r : Except Problem α) : (Work.check r).Determined I answer f := by
  cases r with
  | error p => exact throw p
  | ok a => exact pure a

theorem ite {c : Prop} [Decidable c] {x y : Work α} (hx : x.Determined I answer f) (hy : y.Determined I answer f) :
    (if c then x else y).Determined I answer f := by
  by_cases h : c
  · simpa [h] using hx
  · simpa [h] using hy

/-- A guard: where the condition holds the computation fails, and goes on else. -/
theorem guard {c : Prop} [Decidable c] {p : Problem} {rest : PUnit → Work α}
    (h : ∀ u, (rest u).Determined I answer f) :
    (if c then (do let u ← Work.throw p; rest u) else rest PUnit.unit).Determined I answer f :=
  ite (bind (throw p) h) (h _)

/-- What is read of the world is the same wherever `I` holds. -/
theorem get {next : World → Work α} (hsame : ∀ w v, I w → I v → next w = next v)
    (hnext : ∀ w, I w → (next w).Determined I answer f) : (Work.get >>= next).Determined I answer f := by
  refine of_seen fun w hw => ?_
  obtain ⟨e, he⟩ := hnext w hw
  refine ⟨e, fun v hv => ?_⟩
  change (next v v).Settles I answer Whisper _ _ v
  rw [hsame v w hv hw]
  exact he v hv

/-- What is read of the world makes no difference to `f`. -/
theorem reading {g : World → α} (hsame : ∀ w v, I w → I v → f (g w) = f (g v)) :
    (Work.get >>= fun w => Pure.pure (g w)).Determined I answer f :=
  of_seen fun w hw => ⟨some (f (g w)), fun v hv => ⟨.refl v, hv, congrArg some (hsame w v hw hv)⟩⟩

theorem current {n : Node} {next : Node → Work α} (hsame : ∀ w v, I w → I v → w.node n = v.node n)
    (hnext : ∀ w, I w → (next (w.node n)).Determined I answer f) : (Work.current n >>= next).Determined I answer f := by
  refine of_seen fun w hw => ?_
  obtain ⟨e, he⟩ := hnext w hw
  refine ⟨e, fun v hv => ?_⟩
  change (next (v.node n) v).Settles I answer Whisper _ _ v
  rw [hsame v w hv hw]
  exact he v hv

theorem note (hI : ∀ {w v}, I w → Whisper w v → I v) (plan : Plan) (n : Node) {phase : Phase} (message : String)
    (payload : Value) (hphase : phase.isRemark = true) :
    (Work.note plan n phase message payload).Determined I answer id := by
  refine ⟨some (), fun w hw => ?_⟩
  have hwhisper := Whisper.note w plan.sink n.id.value n.kind.name message payload hphase
  exact ⟨hwhisper, hI hw hwhisper, rfl⟩

theorem call (hI : ∀ {w : World} {clock}, I w → I { w with clock }) (c : Call) :
    (Work.call c).Determined I answer id := by
  cases hanswer : answer c with
  | error p =>
      refine ⟨none, fun w hw => ⟨.refl w, fun _ => hI hw, fun u _ => ?_⟩⟩
      rw [hanswer]
      rfl
  | ok reply =>
      refine ⟨some reply, fun w hw => ⟨.refl w, fun _ => hI hw, fun u hu => ?_⟩⟩
      rw [hanswer]
      exact ⟨.refl u, hu, rfl⟩

end Work.Determined
end Workflow.Run
