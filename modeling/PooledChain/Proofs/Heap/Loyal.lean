/-
Chains that pass everything on.

A faithful link leaves what passes it as it is (`Link.isFaithful`). Where
all links are faithful, a layer is of the kind and the SQL that the
statement under it was made from, and no facade answers in its place
(`State.Loyal`). That is so for a statement that is new, and stays so
however often it is parked and handed out again (`Move.loyal`): a layer
never changes its kind or its SQL, a new one has them from the layer that
it is put around or that it replaces, and the driver's statement keeps
what it was made from.

`Session.loyal_run` follows this through whole sessions in which callers
set up chains of faithful links only.
-/
import PooledChain.Proofs.Answers
import PooledChain.Proofs.Heap.Runs

namespace PooledChain

variable {p : Terms} {c c' : Scene} {g : Bool}

/-- Whether layers and statements agree in what they are of, and no
facade answers in place of its statement. -/
structure State.Loyal (s : State) (g : Bool) : Prop where
  hosted : s.native.Hosted g
  unwatched : ∀ {a f}, s.core a = .facade f → f.behaviour.isWatched = false
  made : ∀ {a l n o}, s.layer? a = some l → s.Stands a n →
    (s.native.statements.map Native.Statement.origin)[n]? = some o →
    o.2 = (l.kind, l.sql)

-- =========================================================== one move

/-- A move makes statements on connections that are there. -/
theorem Move.hosted (hm : Move p c c') (h : c.Sound)
    (hg : p.guarded = g) (hh : c.state.native.Hosted g) :
    c'.state.native.Hosted g := by
  subst hg
  cases hm with
  | aside ha => exact hh.steady ha.native
  | make hmade _ _ _ => exact hh.make hmade
  | letGo hid _ => exact hh.dispose (h.mem_handles hid)
  | @free s _ _ _ id _ _ _ =>
      show (s.releaseLayer id).native.Hosted _
      rw [State.releaseLayer]
      split
      · next n hid => exact hh.dispose (h.mem_handles hid)
      · exact hh
  | _ => exact hh

/-- Faithful links keep layers and statements in agreement. -/
theorem Move.loyal (hm : Move p c c') (h : c.Sound) (hp : p.faithful)
    (hg : p.guarded = g) (hl : c.state.Loyal g) : c'.state.Loyal g := by
  have holder : ∀ {x d}, c.state.Holds x d → d < x := h.formed.older
  have hback : ∀ {a n}, a < c.state.layers.length → c'.state.Stands a n →
      c.state.Stands a n := fun ha hn => hm.later.stands holder ha hn
  obtain ⟨new, horigins, -⟩ := hm.origins h
  -- a layer that was there stands on a statement that was there
  have hmade : ∀ {a l n o}, c.state.layer? a = some l →
      c'.state.Stands a n →
      (c'.state.native.statements.map Native.Statement.origin)[n]? = some o →
      o.2 = (l.kind, l.sql) := by
    intro a l n o hla hn ho
    have hlt := (List.getElem?_eq_some_iff.1 hla).1
    have hn := hback hlt hn
    obtain ⟨x, -, hx⟩ := hn.exists_native
    have hnlt := (h.mem_handles hx).lt
    rw [horigins, List.getElem?_append_left (by
      rw [List.length_map]; exact hnlt)] at ho
    exact hl.made hla hn ho
  refine ⟨hm.hosted h hg hl.hosted, fun {a f} hf => ?_,
    fun {a l n o} hla hn ho => ?_⟩
  · by_cases ha : a < c.state.layers.length
    · have hlater := hm.later.core ha
      rw [hf] at hlater
      generalize hx : c.state.core a = x at hlater
      cases hlater with
      | facade _ _ hb =>
          rcases hb with hb | ⟨k, n, b, -, hb⟩
          · rw [hb]
            exact hl.unwatched hx
          · rw [hb]
            rfl
    · obtain ⟨l, hla, hcore⟩ := State.exists_layer
        (Core.ne_released_of_facade hf)
      rw [hf] at hcore
      cases hm.adds (Nat.le_of_not_lt ha) hla with
      | handle hnative _ _ _ =>
          rw [hcore] at hnative
          cases hnative
      | facade hf' _ _ _ _ _ hfaith =>
          rw [hcore] at hf'
          cases hf'
          exact (hfaith hp).1
      | twin _ _ _ _ hl' =>
          rw [hl'] at hcore
          cases hcore
          rfl
  · by_cases ha : a < c.state.layers.length
    · obtain ⟨l', hla', hlater⟩ :=
        hm.later.layer (List.getElem?_eq_getElem ha)
      rw [hla] at hla'
      cases hla'
      rw [hlater.sql, hlater.kind]
      exact hmade (List.getElem?_eq_getElem ha) hn ho
    · have hcore := State.core_eq_of_layer? hla
      -- the delegate of a new facade was there before
      have hdelegate : ∀ {d}, l.core.delegate? = some d →
          c'.state.Stands d n := fun hd => hn.of_holds (by
        rw [State.Holds, hcore]
        exact hd)
      cases hm.adds (Nat.le_of_not_lt ha) hla with
      | handle hnative hnew _ _ =>
          have he := hn.unique (.native (hcore.trans hnative))
          obtain ⟨i, -, hs⟩ := hnew.origins
          rw [he, hs, ← List.length_map Native.Statement.origin,
            List.getElem?_concat_length] at ho
          cases ho
          rfl
      | @facade f d hf hd hout _ _ _ hfaith =>
          obtain ⟨-, l', hl', hsql, hkind⟩ := hfaith hp
          rw [hsql, hkind]
          exact hmade hl' (hdelegate (by rw [hf]; exact hd)) ho
      | @twin b l' f d k g' hlb hf _ hd hl' =>
          -- the facade that was replaced stood on the same statement
          have hbd : c.state.Holds b d :=
            .of_facade ((State.core_eq_of_layer? hlb).trans hf) hd
          have hdn := hm.stands_before h (.inr ⟨b, hbd⟩)
            (hdelegate (by rw [hl']; rfl))
          have hbn : c.state.Stands b n := .facade hbd hdn
          obtain ⟨x, -, hx⟩ := hbn.exists_native
          have hnlt := (h.mem_handles hx).lt
          rw [horigins, List.getElem?_append_left (by
            rw [List.length_map]; exact hnlt)] at ho
          rw [hl']
          show o.2 = (l'.kind, l'.sql)
          exact hl.made hlb hbn ho

/-- No link that is not faithful is set up. -/
theorem Move.allFaithful (hm : Move p c c')
    (hp : ∀ {links}, p.connects links → ∀ link ∈ links, link.isFaithful = true)
    (hf : c.state.AllFaithful) : c'.state.AllFaithful := by
  intro i x hx
  cases hm with
  | aside ha =>
      obtain ⟨y, hy, hlinks⟩ := ha.links hx
      rw [← hlinks]
      exact hf hy
  | @connect s _ _ _ links hlinks =>
      have hx : ((s.connections ++ [some ⟨links, {}⟩])[i]?).join = some x := hx
      by_cases hi : i < s.connections.length
      · rw [List.getElem?_append_left hi] at hx
        exact hf hx
      · rw [List.getElem?_append_right (Nat.le_of_not_lt hi)] at hx
        cases hoffset : i - s.connections.length with
        | zero =>
            rw [hoffset] at hx
            cases hx
            exact hp hlinks
        | succ m =>
            rw [hoffset] at hx
            cases hx
  | free _ _ _ =>
      rw [State.connection?, State.connections_releaseLayer] at hx
      exact hf hx
  | _ => exact hf hx

-- ============================================================ sessions

/-- Terms under which only chains of faithful links are set up. -/
def Terms.faithfully (guarded : Bool) : Terms :=
  ⟨guarded, fun _ => True, fun _ => True, fun _ => True, fun _ => True,
    fun links => ∀ link ∈ links, link.isFaithful = true, fun _ => True,
    fun _ => True, True⟩

/-- Whether a step, if it sets up a chain, sets up one of faithful
links. -/
def Step.isFaithful : Step → Bool
  | newConnection _ spec =>
    match spec.links with
    | .ok links => links.all Link.isFaithful
    | .error _ => true
  | _ => true

namespace Session

variable {s : Session}

/-- A step that sets up faithful links alone keeps to these terms. -/
theorem suits_faithfully {step : Step} (hf : step.isFaithful = true)
    (hs : s.state.AllFaithful) (reply : Reply) :
    Suits (.faithfully s.guarded) s step reply where
  guarded := rfl
  closes _ := trivial
  taints _ _ _ _ _ := trivial
  discards _ := trivial
  drops _ := ⟨trivial, trivial⟩
  connects {name spec links} he hlinks := by
    subst he
    rw [Step.isFaithful, hlinks] at hf
    exact ⟨List.all_eq_true.1 hf, trivial⟩
  creates _ := trivial
  faithful _ := hs

/-- What holds of a session in which all links are faithful. -/
structure Loyal (s : Session) : Prop where
  links : s.state.AllFaithful
  state : s.state.Loyal s.guarded

/-- Moves under these terms keep layers and statements in agreement. -/
theorem Loyal.moves {t : Session} (h : s.Loyal) (hsound : s.scene.Sound)
    (hm : Moves (.faithfully s.guarded) s.scene t.scene)
    (hg : t.guarded = s.guarded) : t.Loyal := by
  have hboth := hm.invariant (I := fun c => c.state.AllFaithful
    ∧ c.state.Loyal s.guarded) hsound ⟨h.links, h.state⟩
    fun hs hmove ⟨hf, hl⟩ => ⟨hmove.allFaithful (fun h => h) hf,
      hmove.loyal hs trivial rfl hl⟩
  refine ⟨hboth.1, ?_⟩
  rw [hg]
  exact hboth.2

/-- All links stay faithful in a step that sets up only such links. -/
theorem Loyal.step {step : Step} (h : s.Loyal) (hsound : s.Sound)
    (hord : step.isOrdinary = true) (hf : step.isFaithful = true) :
    (s.step step).2.Loyal := by
  obtain ⟨hm, -⟩ :=
    moves_step hord hsound.scene (suits_faithfully hf h.links _)
  exact h.moves hsound.scene hm (guarded_step s step)

/-- All links stay faithful in a run of such steps. -/
theorem Loyal.run (h : s.Loyal) (hsound : s.Sound) {steps : List Step}
    (hord : ∀ step ∈ steps, step.isOrdinary = true)
    (hf : ∀ step ∈ steps, step.isFaithful = true) : (s.run steps).Loyal := by
  induction steps generalizing s with
  | nil => exact h
  | cons step steps ih =>
      rw [run_cons]
      have hord' := hord step List.mem_cons_self
      exact ih (h.step hsound hord' (hf step List.mem_cons_self))
        (hsound.step hord')
        (fun next hin => hord next (List.mem_cons_of_mem _ hin))
        fun next hin => hf next (List.mem_cons_of_mem _ hin)

/-- A session of faithful links starts with layers and statements in
agreement, there being none. -/
theorem loyal_start {links : List Link}
    (hlinks : ∀ link ∈ links, link.isFaithful = true)
    (guarded checkedOut : Bool) : (start links guarded checkedOut).Loyal := by
  have hm : Moves (.faithfully guarded) ⟨{}, [], none, []⟩
      (start links guarded checkedOut).scene :=
    (moves_start rfl hlinks trivial checkedOut).1
  have hnothing : State.Loyal {} guarded :=
    { hosted := ⟨fun x hx => (by cases hx), fun st hst => (by cases hst)⟩
      unwatched := fun hf => (by cases hf)
      made := fun hl => (by cases hl) }
  have hboth := hm.invariant (I := fun c => c.state.AllFaithful
    ∧ c.state.Loyal guarded) sound_nothing ⟨fun hx => (by cases hx), hnothing⟩
    fun hs hmove ⟨hf, hl⟩ => ⟨hmove.allFaithful (fun h => h) hf,
      hmove.loyal hs trivial rfl hl⟩
  refine ⟨hboth.1, ?_⟩
  rw [guarded_start]
  exact hboth.2

/-- In every session of faithful links, layers and statements agree. -/
theorem loyal_run {links : List Link}
    (hlinks : ∀ link ∈ links, link.isFaithful = true)
    {guarded checkedOut : Bool} {steps : List Step}
    (hord : ∀ step ∈ steps, step.isOrdinary = true)
    (hf : ∀ step ∈ steps, step.isFaithful = true) :
    ((start links guarded checkedOut).run steps).Loyal :=
  (loyal_start hlinks guarded checkedOut).run
    (sound_start links guarded checkedOut) hord hf

end Session

end PooledChain
