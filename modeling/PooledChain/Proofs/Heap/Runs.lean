/-
Whole sessions.

A session starts sound (`sound_start`), and every ordinary step keeps it
sound (`Session.Sound.step`); so every session that ordinary steps reach
from a start is sound (`Session.Sound.run`). An invariant of the moves is carried
along a run in the same way (`run_invariant`).
-/
import PooledChain.Proofs.Heap.Steps

namespace PooledChain

/-- Whether something holds of every step of a run, when it is taken. -/
def Session.Along (P : Session → Step → Prop) : Session → List Step → Prop
  | _, [] => True
  | s, step :: rest => P s step ∧ Along P (s.step step).2 rest

/-- Every step suits the terms that allow everything. -/
theorem suits_free (s : Session) (step : Step) (reply : Reply) :
    Suits (.free s.guarded) s step reply where
  guarded := rfl
  closes _ := trivial
  taints _ _ _ _ _ := trivial
  discards _ := trivial
  drops _ := ⟨trivial, trivial⟩
  connects _ _ := ⟨trivial, trivial⟩
  creates _ := trivial
  faithful h := h.elim

namespace Session

variable {s : Session} {p : Terms}

-- ====================================================== guarded for ever

theorem guarded_perform {α : Type} (s : Session) (act : Act α)
    {reply : α → Session → Reply × Session}
    (h : ∀ a (t : Session), (reply a t).2.guarded = t.guarded) :
    (s.perform act reply).2.guarded = s.guarded := by
  rw [perform]
  rcases act.run s.state with ⟨_ | _, t⟩
  · rfl
  · exact h _ _

theorem guarded_answer {α : Type} (s : Session) (act : Act α)
    (reply : α → Reply) : (s.answer act reply).2.guarded = s.guarded :=
  guarded_perform s act fun _ _ => rfl

theorem guarded_dropConnection (s : Session) (name : String) :
    (s.dropConnection name).guarded = s.guarded := by
  rw [dropConnection]
  split <;> rfl

theorem guarded_onStatement (s : Session) (id : LayerId)
    (step : StatementStep) :
    (s.onStatement id step).2.guarded = s.guarded := by
  cases step with
  | call op => exact guarded_answer ..
  | dispatch op => exact guarded_answer ..
  | info => rw [onStatement]; split <;> rfl
  | wrap name orphan => rw [onStatement]; split <;> rfl
  | retire number name =>
      rw [onStatement]
      split
      · rfl
      · refine guarded_perform s _ fun delegate t => ?_
        split <;> rfl
  | forward number op =>
      rw [onStatement]
      split
      · rfl
      · exact guarded_answer ..

theorem guarded_onConnection (s : Session) (pool : PoolId) (x : PhysicalId)
    (c : ConnectionId) (connection : Connection) (step : ConnectionStep) :
    (s.onConnection pool x c connection step).2.guarded = s.guarded := by
  cases step with
  | checkOut | checkIn | disconnect | discard | poolStarted | poolClosed
  | nativeNumber => exact guarded_answer ..
  | attachLink choice withPool withPhysical =>
      cases choice with
      | none => rfl
      | some choice =>
          rw [onConnection, attachLink.eq_def]
          split
          · exact guarded_answer ..
          · exact guarded_answer ..
          · rfl
  | call op =>
      rw [onConnection]
      cases op with
      | unwrap target => exact guarded_perform s _ fun _ _ => rfl
      | _ => exact guarded_answer ..
  | create op name => exact guarded_perform s _ fun _ _ => rfl
  | invoke op name =>
      refine guarded_perform s _ fun r t => ?_
      cases r <;> rfl
  | reshape op shape =>
      refine guarded_perform s _ fun r t => ?_
      split <;> rfl
  | forceClose sql =>
      rw [onConnection]
      split
      · rfl
      · exact guarded_answer ..
  | describe => rfl

/-- Whether the driver's connections ask the rules is settled at the
start. -/
theorem guarded_step (s : Session) (step : Step) :
    (s.step step).2.guarded = s.guarded := by
  show (s.quiet.act step).2.guarded = s.quiet.guarded
  generalize s.quiet = s
  cases step with
  | newConnection name spec =>
      rw [act]
      split
      · rfl
      · exact guarded_dropConnection _ name
  | dropConnection name => exact guarded_dropConnection s name
  | sameStatement a b => rw [act]; split <;> rfl
  | nameStatement statement name => rw [act]; split <;> rfl
  | onStatement name step =>
      rw [act]
      split
      · exact guarded_onStatement ..
      · rfl
  | onPool pool physical step =>
      rw [act]
      split
      · rfl
      · rfl
      · cases step with
        | close names => exact guarded_answer ..
        | discard => exact guarded_answer ..
        | info => rw [onPool]; split <;> rfl
  | onConnection pool physical name step =>
      rw [act]
      split
      · rfl
      · rfl
      · split
        · rfl
        · split
          · rfl
          · exact guarded_onConnection ..
  | _ => rfl

-- =============================================================== runs

/-- Every ordinary step keeps a session sound. -/
theorem Sound.step (h : s.Sound) {step : Step}
    (hord : step.isOrdinary = true) : (s.step step).2.Sound := by
  obtain ⟨hm, htidy⟩ := moves_step hord h.scene (suits_free s step _)
  exact ⟨hm.sound h.scene, htidy⟩

/-- A run takes its first step first. -/
theorem run_cons (s : Session) (step : Step) (steps : List Step) :
    s.run (step :: steps) = (s.step step).2.run steps := rfl

/-- A run in two parts is one run after the other. -/
theorem run_append (s : Session) (a b : List Step) :
    s.run (a ++ b) = (s.run a).run b := by
  rw [run, run, run, List.foldl_append]

/-- Every ordinary run keeps a session sound. -/
theorem Sound.run (h : s.Sound) {steps : List Step}
    (hord : ∀ step ∈ steps, step.isOrdinary = true) :
    (s.run steps).Sound := by
  induction steps generalizing s with
  | nil => exact h
  | cons step steps ih =>
      rw [run_cons]
      exact ih (h.step (hord step List.mem_cons_self))
        fun step hstep => hord step (List.mem_cons_of_mem _ hstep)

/-- Ordinary steps, taken one after the other, are moves. -/
theorem moves_run (h : s.Sound) {steps : List Step}
    (hord : ∀ step ∈ steps, step.isOrdinary = true) :
    Moves (.free s.guarded) s.scene (s.run steps).scene := by
  induction steps generalizing s with
  | nil => exact .refl _
  | cons step steps ih =>
      have hstep := hord step List.mem_cons_self
      obtain ⟨hm, -⟩ := moves_step hstep h.scene (suits_free s step _)
      have hrest := ih (h.step hstep)
        fun step hstep => hord step (List.mem_cons_of_mem _ hstep)
      rw [guarded_step] at hrest
      rw [run_cons]
      exact hm.trans hrest

-- ============================================================= starting

/-- What the links of a connection start with is all that is put in. -/
theorem installLinks_eq (c : ConnectionId) (s : State) (links : List Link) :
    ∃ caches trackers counters, State.installLinks c s links
      = { s with caches, trackers, counters } := by
  induction links generalizing s with
  | nil => exact ⟨s.caches, s.trackers, s.counters, rfl⟩
  | cons link rest ih =>
      obtain ⟨caches, trackers, counters, hrest⟩ :=
        ih (s.installLink ⟨c, rest.length⟩ link)
      refine ⟨caches, trackers, counters, hrest.trans ?_⟩
      unfold State.installLink
      split
      · split <;> rfl
      · rfl
      · rfl
      · rfl

/-- Setting the links of a connection up makes no layer. -/
theorem layers_installLinks (c : ConnectionId) (s : State)
    (links : List Link) :
    (State.installLinks c s links).layers = s.layers := by
  obtain ⟨_, _, _, h⟩ := installLinks_eq c s links
  rw [h]

/-- Nothing at all. -/
theorem sound_nothing : Scene.Sound ⟨{}, [], none, []⟩ where
  formed :=
    { older := fun h => by cases h
      leveled := fun h => by cases h
      hollow := fun h => by cases h
      placed := fun a => fun h => by cases h }
  stocked :=
    { distinct := List.nodup_nil
      shelved := fun h => by cases h
      known := fun h => by cases h }
  backed :=
    { once := List.nodup_nil
      opened := fun n => by
        refine ⟨fun h => (by cases h), fun h => ?_⟩
        exact absurd h.lt (Nat.not_lt_zero n) }
  listed := fun h => by
    obtain ⟨t, ht, -⟩ := h
    cases ht
  owned :=
    { once := List.nodup_nil
      apart := fun h => by cases h
      living := fun h => by rcases h with h | h <;> cases h }

/-- A session before its pool checks the connection out. -/
def unattached (links : List Link) (guarded : Bool) : Session :=
  start links guarded false

/-- Making the pool, the physical connection and the connection is a matter
of moves, and makes no layer. -/
theorem moves_unattached {links : List Link} {guarded : Bool}
    (hg : p.guarded = guarded) (hp : p.connects links) (hs : p.stocks 0) :
    Moves p ⟨{}, [], none, []⟩ (unattached links guarded).scene
      ∧ (unattached links guarded).state.layers = [] := by
  subst hg
  let s₁ : State := ((({} : State).newPool).2.newPhysical p.guarded).2
  have hm₁ : Moves p ⟨{}, [], none, []⟩ ⟨s₁, [], none, []⟩ := by
    refine .aside ⟨rfl, rfl, ?_, rfl, fun {_ y} hy => ⟨y, hy, rfl⟩, .inl⟩
    exact Native.Store.steady_connect p.guarded _
  have hm₂ : Moves p ⟨s₁, [], none, []⟩
      ⟨(s₁.newConnection links).2, [], none, []⟩ :=
    PooledChain.moves_newConnection hp hs (hm₁.sound sound_nothing)
  exact ⟨hm₁.trans hm₂, layers_installLinks ..⟩

/-- A session starts with no layers, by moves. -/
theorem moves_start {links : List Link} {guarded : Bool}
    (hg : p.guarded = guarded) (hp : p.connects links) (hs : p.stocks 0)
    (checkedOut : Bool) :
    Moves p ⟨{}, [], none, []⟩ (start links guarded checkedOut).scene
      ∧ (start links guarded checkedOut).state.layers = [] := by
  obtain ⟨hm, hl⟩ := moves_unattached hg hp hs
  cases checkedOut with
  | false => exact ⟨hm, hl⟩
  | true =>
      have haside := Act.aside_checkOut p.guarded 0 0 0
        (unattached links guarded).state
      have hrun : (start links guarded true).scene
          = ⟨((Act.checkOut 0 0 0).run (unattached links guarded).state).2,
              (unattached links guarded).held, none, []⟩ := by
        show ((unattached links guarded).answer (Act.checkOut 0 0 0)
          fun _ => .unit).2.scene = _
        rw [answer, perform]
        rcases (Act.checkOut 0 0 0).run (unattached links guarded).state
          with ⟨_ | _, t⟩ <;> rfl
      have hstate := congrArg Scene.state hrun
      refine ⟨?_, ?_⟩
      · rw [hrun]
        exact hm.trans (.aside haside)
      · show (start links guarded true).scene.state.layers = []
        rw [hstate]
        exact haside.layers.trans hl

/-- A session is sound at the start. -/
theorem sound_start (links : List Link) (guarded checkedOut : Bool) :
    (start links guarded checkedOut).Sound := by
  have hfirst : Moves (.free guarded) ⟨{}, [], none, []⟩
        (start links guarded checkedOut).scene
      ∧ (start links guarded checkedOut).state.layers = [] :=
    moves_start rfl trivial trivial checkedOut
  obtain ⟨hm, hl⟩ := hfirst
  refine ⟨hm.sound sound_nothing, fun {a} ha => ?_⟩
  have hlt := State.lt_of_core ha
  rw [hl] at hlt
  cases hlt

theorem guarded_start (links : List Link) (guarded checkedOut : Bool) :
    (start links guarded checkedOut).guarded = guarded := by
  cases checkedOut with
  | false => exact guarded_dropConnection _ _
  | true =>
      show ((unattached links guarded).answer (Act.checkOut 0 0 0)
        fun _ => .unit).2.guarded = _
      rw [guarded_answer]
      exact guarded_dropConnection _ _

/-- What moves preserve holds in every session that ordinary steps
reach. -/
theorem run_invariant {links : List Link} {guarded checkedOut : Bool}
    {steps : List Step} (hord : ∀ step ∈ steps, step.isOrdinary = true)
    {I : Scene → Prop} (hnothing : I ⟨{}, [], none, []⟩)
    (hmove : ∀ {c c'}, c.Sound → Move (.free guarded) c c' → I c → I c') :
    I ((start links guarded checkedOut).run steps).scene := by
  have hstart := sound_start links guarded checkedOut
  have hm := moves_run hstart hord
  rw [guarded_start] at hm
  have hfirst : Moves (.free guarded) ⟨{}, [], none, []⟩
      (start links guarded checkedOut).scene :=
    (moves_start rfl trivial trivial checkedOut).1
  exact (hfirst.trans hm).invariant sound_nothing hnothing hmove

end Session

end PooledChain
