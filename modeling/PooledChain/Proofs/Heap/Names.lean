/-
The names of a session.

Connections, pools and physical connections get their names when they are
made and lose them when they are dropped; nothing else is done to these
names, whatever becomes of the statements (`Session.SameNames`).

No connection has two names, since a connection gets its name when it is
made (`Session.Named`). So the name by which a caller asks for a
connection is the name that the connection is reported under
(`Named.nameOf_eq`).
-/
import PooledChain.Proofs.Heap.Asking
import PooledChain.Proofs.Heap.Installed

namespace PooledChain

namespace Session

variable {s t u : Session}

-- ===================================================== what keeps names

/-- Whether everything but statements is called what it was called. -/
structure SameNames (s t : Session) : Prop where
  guarded : t.guarded = s.guarded
  connections : t.connections = s.connections
  pools : t.pools = s.pools
  physicals : t.physicals = s.physicals

namespace SameNames

theorem refl (s : Session) : s.SameNames s := ⟨rfl, rfl, rfl, rfl⟩

theorem trans (h₁ : s.SameNames t) (h₂ : t.SameNames u) : s.SameNames u where
  guarded := h₂.guarded.trans h₁.guarded
  connections := h₂.connections.trans h₁.connections
  pools := h₂.pools.trans h₁.pools
  physicals := h₂.physicals.trans h₁.physicals

end SameNames

/-- An act changes no name when what is made of its answer changes none. -/
theorem sameNames_perform {α : Type} (s : Session) (act : Act α)
    {reply : α → Session → Reply × Session}
    (h : ∀ a (t : Session), t.SameNames (reply a t).2) :
    s.SameNames (s.perform act reply).2 := by
  rw [perform]
  rcases act.run s.state with ⟨e | a, t⟩
  · exact ⟨rfl, rfl, rfl, rfl⟩
  · exact (SameNames.mk rfl rfl rfl rfl : s.SameNames { s with state := t }).trans
      (h a _)

theorem sameNames_answer {α : Type} (s : Session) (act : Act α)
    (reply : α → Reply) : s.SameNames (s.answer act reply).2 :=
  sameNames_perform s act fun _ t => .refl t

/-- A step on a statement leaves all other names as they are. -/
theorem sameNames_onStatement (s : Session) (id : LayerId)
    (step : StatementStep) : s.SameNames (s.onStatement id step).2 := by
  cases step with
  | call op => exact sameNames_answer ..
  | dispatch op => exact sameNames_answer ..
  | info => rw [onStatement]; split <;> exact .refl s
  | wrap name orphan =>
      rw [onStatement]
      split
      · exact .refl s
      · exact ⟨rfl, rfl, rfl, rfl⟩
  | retire number name =>
      rw [onStatement]
      split
      · exact .refl s
      · refine sameNames_perform s _ fun delegate t => ?_
        split <;> exact ⟨rfl, rfl, rfl, rfl⟩
  | forward number op =>
      rw [onStatement]
      split
      · exact .refl s
      · exact sameNames_answer ..

/-- A step on a pool leaves all names but those of statements. -/
theorem sameNames_onPool (s : Session) (pool : PoolId) (x : PhysicalId)
    (step : PoolStep) : s.SameNames (s.onPool pool x step).2 := by
  cases step with
  | close names => exact sameNames_answer ..
  | discard => exact sameNames_answer ..
  | info => rw [onPool]; split <;> exact ⟨rfl, rfl, rfl, rfl⟩

/-- A step on a connection names statements only. -/
theorem sameNames_onConnection (s : Session) (pool : PoolId)
    (x : PhysicalId) (c : ConnectionId) (connection : Connection)
    (step : ConnectionStep) :
    s.SameNames (s.onConnection pool x c connection step).2 := by
  cases step with
  | checkOut | checkIn | disconnect | discard | poolStarted | poolClosed
  | nativeNumber => exact sameNames_answer ..
  | attachLink choice withPool withPhysical =>
      cases choice with
      | none => exact .refl s
      | some choice =>
          rw [onConnection, attachLink.eq_def]
          split
          · exact sameNames_answer ..
          · exact sameNames_answer ..
          · exact .refl s
  | call op =>
      rw [onConnection]
      cases op with
      | unwrap target => exact sameNames_perform s _ fun _ t => .refl t
      | _ => exact sameNames_answer ..
  | create op name => exact sameNames_perform s _ fun _ t => ⟨rfl, rfl, rfl, rfl⟩
  | invoke op name =>
      refine sameNames_perform s _ fun r t => ?_
      cases r <;> exact ⟨rfl, rfl, rfl, rfl⟩
  | reshape op shape =>
      refine sameNames_perform s _ fun r t => ?_
      split <;> exact .refl t
  | forceClose sql =>
      rw [onConnection]
      split
      · exact .refl s
      · exact sameNames_answer ..
  | describe => exact .refl s

theorem sameNames_quiet (s : Session) : s.SameNames s.quiet :=
  ⟨rfl, rfl, rfl, rfl⟩

theorem sameNames_settle (s : Session) : s.SameNames s.settle :=
  ⟨rfl, rfl, rfl, rfl⟩

end Session

/-- Whether a step leaves all names but those of statements as they
are. -/
def Step.keepsNames : Step → Bool
  | newPool _ => false
  | newPhysical _ => false
  | newConnection _ _ => false
  | dropConnection _ => false
  | _ => true

namespace Session

variable {s t : Session}

/-- Unless a pool or a connection is made or dropped, an act leaves all
names but those of statements. -/
theorem sameNames_act (s : Session) {step : Step}
    (hkeeps : step.keepsNames = true) : s.SameNames (s.act step).2 := by
  cases step with
  | newPool | newPhysical | newConnection | dropConnection => cases hkeeps
  | sameStatement a b => rw [act]; split <;> exact .refl s
  | nameStatement statement name =>
      rw [act]
      split
      · exact ⟨rfl, rfl, rfl, rfl⟩
      · exact .refl s
  | onStatement name step =>
      rw [act]
      split
      · exact sameNames_onStatement ..
      · exact .refl s
  | onPool pool physical step =>
      rw [act]
      split
      · exact .refl s
      · exact .refl s
      · exact sameNames_onPool ..
  | onConnection pool physical name step =>
      rw [act]
      split
      · exact .refl s
      · exact .refl s
      · split
        · exact .refl s
        · split
          · exact .refl s
          · exact sameNames_onConnection ..
  | _ => exact ⟨rfl, rfl, rfl, rfl⟩

/-- The same with what is released after the step. -/
theorem sameNames_step (s : Session) {step : Step}
    (hkeeps : step.keepsNames = true) : s.SameNames (s.step step).2 :=
  (sameNames_quiet s).trans
    ((sameNames_act s.quiet hkeeps).trans (sameNames_settle _))

-- ====================================================== no second names

/-- Whether every name is that of a connection that was made, and no two
names are of the same one. -/
structure Named (s : Session) : Prop where
  once : (s.connections.map (·.2)).Nodup
  known : ∀ {p}, p ∈ s.connections → p.2 < s.state.connections.length

/-- The name by which a connection is asked for is the one that it is
reported under. -/
theorem Named.nameOf_eq (h : s.Named) {name : String} {c : ConnectionId}
    (hc : s.connections.lookup name = some c) :
    nameOf s.connections c = some name := by
  obtain ⟨before, after, heq, -⟩ := List.lookup_eq_some_iff.1 hc
  have hfound : s.connections.find? (fun p => p.2 == c) = some (name, c) := by
    rw [heq]
    have honce := h.once
    rw [heq, List.map_append, List.nodup_append] at honce
    refine List.find?_eq_some_iff_append.2
      ⟨beq_self_eq_true c, before, after, rfl, fun p hp => ?_⟩
    have hne := honce.2.2 p.2 (List.mem_map_of_mem hp) c List.mem_cons_self
    simpa using hne
  rw [nameOf, hfound]
  rfl

/-- What has a name was made. -/
theorem Named.lt_of_lookup (h : s.Named) {name : String} {c : ConnectionId}
    (hc : s.connections.lookup name = some c) :
    c < s.state.connections.length := by
  obtain ⟨before, after, heq, -⟩ := List.lookup_eq_some_iff.1 hc
  refine h.known (p := (name, c)) ?_
  rw [heq]
  exact List.mem_append_right _ List.mem_cons_self

/-- Names are right after a change that keeps them and takes no connection
away. -/
theorem Named.of_sameNames (h : s.Named) (hn : s.SameNames t)
    (hle : s.state.connections.length ≤ t.state.connections.length) :
    t.Named := by
  refine ⟨hn.connections ▸ h.once, fun hp => ?_⟩
  rw [hn.connections] at hp
  exact Nat.lt_of_lt_of_le (h.known hp) hle

/-- Names are right after one of them is taken back. -/
theorem Named.dropConnection (h : s.Named) (name : String) :
    (s.dropConnection name).Named := by
  rw [Session.dropConnection]
  split
  · exact h
  · next c _ =>
    refine ⟨h.once.sublist (List.filter_sublist.map _), fun hp => ?_⟩
    have hlen : (s.state.dropConnection c).connections.length
        = s.state.connections.length := List.length_set ..
    show _ < (s.state.dropConnection c).connections.length
    rw [hlen]
    exact h.known (List.mem_of_mem_filter hp)

/-- Names are right after a connection was made: the new one has no other
name. -/
theorem Named.newConnection (h : s.Named) (name : String)
    (links : List Link) : (s.newConnection name links).Named := by
  have hconn : (s.state.newConnection links).2.connections
      = s.state.connections ++ [some ⟨links, {}⟩] :=
    State.connections_installLinks ..
  -- the new connection is made first, and then the old one is dropped
  have hmade : ({ s with state := (s.state.newConnection links).2 } :
      Session).Named := by
    refine h.of_sameNames ⟨rfl, rfl, rfl, rfl⟩ ?_
    show _ ≤ (s.state.newConnection links).2.connections.length
    rw [hconn, List.length_append]
    exact Nat.le_add_right ..
  have hdropped := hmade.dropConnection name
  have hsub : ∀ p ∈ (({ s with state := (s.state.newConnection links).2 } :
      Session).dropConnection name).connections,
      p.2 < s.state.connections.length := by
    intro p hp
    rw [Session.dropConnection] at hp
    split at hp
    · exact h.known hp
    · exact h.known (List.mem_of_mem_filter hp)
  have hlen : (({ s with state := (s.state.newConnection links).2 } :
      Session).dropConnection name).state.connections.length
      = s.state.connections.length + 1 := by
    rw [Session.dropConnection]
    split
    · show (s.state.newConnection links).2.connections.length = _
      rw [hconn, List.length_append]
      rfl
    · next c _ =>
      show ((s.state.newConnection links).2.connections.set c none).length = _
      rw [List.length_set, hconn, List.length_append]
      rfl
  refine ⟨?_, fun {p} hp => ?_⟩
  · show (s.state.connections.length :: _).Nodup
    refine List.nodup_cons.2 ⟨fun hin => ?_, hdropped.once⟩
    obtain ⟨p, hp, he⟩ := List.mem_map.1 hin
    exact Nat.lt_irrefl _ (he ▸ hsub p hp)
  · show p.2 < (({ s with state := (s.state.newConnection links).2 } :
      Session).dropConnection name).state.connections.length
    rw [hlen]
    rcases List.mem_cons.1 hp with rfl | hp
    · exact Nat.lt_succ_self _
    · exact Nat.lt_succ_of_lt (hsub p hp)

/-- Names are right after what nobody holds was released. -/
theorem Named.settle (h : s.Named) : s.settle.Named := by
  refine h.of_sameNames (sameNames_settle s) (Nat.le_of_eq ?_)
  show _ = (s.state.release _).connections.length
  rw [State.connections_release]

/-- Every ordinary step keeps names right. -/
theorem named_step (h : s.Named) (hs : s.Sound) {step : Step}
    (hord : step.isOrdinary = true) : (s.step step).2.Named := by
  by_cases hkeeps : step.keepsNames = true
  · obtain ⟨hm, -⟩ := moves_step hord hs.scene (suits_free s step _)
    exact h.of_sameNames (sameNames_step s hkeeps) hm.connections_le
  · refine Named.settle (s := (s.quiet.act step).2) ?_
    have hquiet : s.quiet.Named := ⟨h.once, h.known⟩
    cases step with
    | newPool name => exact ⟨hquiet.once, hquiet.known⟩
    | newPhysical name => exact ⟨hquiet.once, hquiet.known⟩
    | newConnection name spec =>
        rw [act]
        split
        · exact hquiet
        · exact hquiet.newConnection name _
    | dropConnection name => exact hquiet.dropConnection name
    | _ => exact absurd rfl hkeeps

/-- Every ordinary run keeps names right. -/
theorem named_run (h : s.Named) (hs : s.Sound) {steps : List Step}
    (hord : ∀ step ∈ steps, step.isOrdinary = true) : (s.run steps).Named := by
  induction steps generalizing s with
  | nil => exact h
  | cons step steps ih =>
      have hstep := hord step List.mem_cons_self
      rw [run_cons]
      exact ih (named_step h hs hstep) (hs.step hstep)
        fun next hin => hord next (List.mem_cons_of_mem _ hin)

/-- Names are right at the start. -/
theorem named_start (links : List Link) (guarded checkedOut : Bool) :
    (start links guarded checkedOut).Named := by
  have hempty : ((Session.newPool ⟨{}, guarded, [], [], [], []⟩
      "p0").newPhysical "x0").Named := ⟨List.nodup_nil, fun hp => by cases hp⟩
  have hfirst : (unattached links guarded).Named :=
    hempty.newConnection "c0" links
  cases checkedOut with
  | false => exact hfirst
  | true =>
      refine hfirst.of_sameNames (sameNames_answer ..) (Nat.le_of_eq ?_)
      show _ = ((unattached links guarded).answer (Act.checkOut 0 0 0)
        fun _ => .unit).2.state.connections.length
      rw [state_answer]
      exact (Act.aside_checkOut guarded 0 0 0 _).connections.symm

end Session

end PooledChain
