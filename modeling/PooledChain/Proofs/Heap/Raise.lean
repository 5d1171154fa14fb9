/-
Handles that are raised through links that only wrap.

A statement comes up such a chain from its end (`State.request` says
what the driver is asked for), and each link puts a facade around it or
leaves it as it is. Whatever the links are, the caller gets the same
refusal, or a handle over the same statement with the same SQL, kind and
connection (`Act.raises_askLinks`), and the state stays thin.

What a caller can tell of a handle is in `State.Meets`: two handles in
two states meet if they have the same SQL, kind and connection, and
stand on the same statement or both on none.
-/
import PooledChain.Proofs.Heap.Shed

namespace PooledChain

variable {s t u : State} {a b d x : LayerId} {held : List LayerId}
  {n m : Native.StatementId} {c : ConnectionId} {op : ConnectionOp}
  {kind : StatementKind}

/-- What a layer has for ever. -/
def Layer.face (l : Layer) :
    Option String × StatementKind × Option ConnectionId :=
  (l.sql, l.kind, l.connection)

namespace State

-- ================================================== comparing handles

/-- Whether callers can tell no difference between the handle `a` in one
state and the handle `b` in another. -/
structure Meets (s t : State) (a b : LayerId) : Prop where
  left : s.core a ≠ .released
  right : t.core b ≠ .released
  face : (t.layer? b).map Layer.face = (s.layer? a).map Layer.face
  stands : ∀ n, t.Stands b n ↔ s.Stands a n

namespace Meets

theorem symm (h : s.Meets t a b) : t.Meets s b a :=
  ⟨h.right, h.left, h.face.symm, fun n => (h.stands n).symm⟩

theorem trans (h₁ : s.Meets t a b) (h₂ : t.Meets u b d) : s.Meets u a d :=
  ⟨h₁.left, h₂.right, h₂.face.trans h₁.face,
    fun n => (h₂.stands n).trans (h₁.stands n)⟩

/-- Handles that meet have the same SQL, kind and connection. -/
theorem faces (h : s.Meets t a b) {l l' : Layer}
    (hl : s.layer? a = some l) (hl' : t.layer? b = some l') :
    l'.sql = l.sql ∧ l'.kind = l.kind ∧ l'.connection = l.connection := by
  have hface := h.face
  rw [hl, hl', Option.map_some, Option.map_some, Option.some_inj] at hface
  obtain ⟨hsql, hrest⟩ := Prod.mk.inj hface
  exact ⟨hsql, Prod.mk.inj hrest⟩

/-- A handle with nothing changed under it. -/
theorem of_under (hlive : s.core a ≠ .released)
    (hl : ∀ x, s.Over a x → t.layer? x = s.layer? x) : s.Meets t a a where
  left := hlive
  right := by
    rw [core, hl a .refl]
    exact hlive
  face := by rw [hl a .refl]
  stands n := by
    have hc : ∀ x, s.Over a x → t.core x = s.core x := fun x hx => by
      rw [core, hl x hx, core]
    exact ⟨fun hn => hn.congr fun x hx => (hc x (hx.of_congr hc)).symm,
      fun hn => hn.congr hc⟩

/-- A handle meets itself where no layer has changed. -/
theorem of_layers (hlive : s.core a ≠ .released)
    (h : t.layers = s.layers) : s.Meets t a a :=
  .of_under hlive fun x _ => layer?_congr h x

/-- A handle meets itself where layers were only added. -/
theorem of_grown (hlive : s.core a ≠ .released) (hf : s.Formed)
    (h : s.Grown t) : s.Meets t a a :=
  .of_under hlive fun _ hx =>
    h.layer (Nat.lt_of_le_of_lt (hx.le hf.older) (lt_of_core hlive))

/-- Handles that meet stand on the same statement or both on none. -/
theorem under (h : s.Meets t a b) (hs : s.Formed) (ht : t.Formed) :
    t.statementUnder? b = s.statementUnder? a :=
  statementUnder?_congr hs.leveled ht.leveled h.stands

/-- Handles that meet are both closed or both open. -/
theorem isClosed (h : s.Meets t a b) (hs : s.Formed) (ht : t.Formed) :
    t.isClosed b = s.isClosed a := by
  rw [isClosed_eq ht.hollow, isClosed_eq hs.hollow, h.under hs ht]

end Meets

/-- Handles that met still meet if two others that met were closed. -/
theorem Closing.meets {r r' : Except Error StatementReply × State}
    {a' b' : LayerId} (hs : s.Thin) (ht : t.Thin) (hc : s.Closing a r)
    (hc' : t.Closing b r') (h : s.Meets t a b) (h' : s.Meets t a' b') :
    r.2.Meets r'.2 a' b' := by
  have hface : ∀ {u : State} {e x r}, u.Closing e r →
      (r.2.layer? x).map Layer.face = (u.layer? x).map Layer.face := by
    intro u e x r hc
    by_cases hx : u.Over e x
    · rw [hc.gone hx, Option.map_map]
      rfl
    · rw [hc.kept hx]
  have hlive : ∀ {u : State} {e x r}, u.Closing e r →
      u.core x ≠ .released → r.2.core x ≠ .released := by
    intro u e x r hc hlive
    by_cases hx : u.Over e x
    · rw [hc.toSheds.core_gone hx]
      cases hcore : u.core x with
      | released => exact absurd hcore hlive
      | native _ => exact fun he => by cases he
      | facade _ => exact fun he => by cases he
    · rw [hc.toSheds.core_kept hx]
      exact hlive
  refine ⟨hlive hc h'.left, hlive hc' h'.right, ?_, fun n => ?_⟩
  · rw [hface hc, hface hc', h'.face]
  · rw [hc'.stands_iff ht, hc.stands_iff hs, h'.stands,
      h.under hs.whole.formed ht.whole.formed]

-- ==================================================== putting facades up

namespace Thin

/-- A caller, or a link that only wraps, puts a facade around a
handle. -/
theorem addFacade (h : s.Thin) {l : Layer} {f : Facade}
    (hl : l.core = .facade f) (hb : f.behaviour.isLight = true)
    (hc : f.closed = false) (hd : f.delegate = some d)
    (hlive : s.core d ≠ .released) (hlow : (s.core d).level < f.level) :
    (s.addLayer l).2.Thin where
  whole := by
    refine ⟨h.whole.formed.addLayer (fun {e} he => ?_) (fun {f'} hf => ?_)
      fun {f' k g b} hf hb' => ?_, fun {x e} he => ?_⟩
    · rw [hl, Core.delegate?_facade, hd] at he
      cases he
      exact ⟨hlive, by rw [hl]; exact hlow⟩
    · rw [hl] at hf
      cases hf
      rw [hc, hd]
      rfl
    · rw [hl] at hf
      cases hf
      rw [hb'] at hb
      cases hb
    · have hold : s.core e ≠ .released := by
        rw [Holds, core_addLayer] at he
        split at he
        · rw [hl, Core.delegate?_facade, hd] at he
          cases he
          exact hlive
        · exact h.whole.living he
      rw [core_addLayer_of_lt (lt_of_core hold)]
      exact hold
  light := by
    refine ⟨fun {x f'} hf => ?_⟩
    rw [core_addLayer] at hf
    split at hf
    · rw [hl] at hf
      cases hf
      exact hb
    · exact h.light.facade hf
  caches := h.caches
  watched := h.watched
  once {x y n} hx hy := by
    rw [core_addLayer, hl] at hx hy
    split at hx
    · cases hx
    · split at hy
      · cases hy
      · exact h.once hx hy
  opened n := by
    refine (h.opened n).trans (exists_congr fun x => ?_)
    rw [core_addLayer]
    split
    · next he =>
      rw [he, core_of_le (Nat.le_refl _), hl]
      constructor <;> intro hcore <;> cases hcore
    · rfl

/-- The driver makes a statement, which gets a native handle. -/
theorem addHandle (h : s.Thin) {st : Native.Store} {own : Option String}
    (hmade : s.native.Made st kind own) {l : Layer}
    (hl : l.core = .native (some s.native.statements.length)) :
    { (s.addLayer l).2 with native := st }.Thin where
  whole := by
    have hadded : (s.addLayer l).2.Whole := by
      refine ⟨h.whole.formed.addLayer (fun he => ?_) (fun hf => ?_)
        fun hf _ => ?_, fun {x e} he => ?_⟩
      · rw [hl] at he
        cases he
      · rw [hl] at hf
        cases hf
      · rw [hl] at hf
        cases hf
      · rw [Holds, core_addLayer] at he
        split at he
        · rw [hl] at he
          cases he
        · have hold := h.whole.living he
          rw [core_addLayer_of_lt (lt_of_core hold)]
          exact hold
    exact hadded.congr rfl
  light := by
    refine ⟨fun {x f} hf => ?_⟩
    have hf : (s.addLayer l).2.core x = .facade f := hf
    rw [core_addLayer] at hf
    split at hf
    · rw [hl] at hf
      cases hf
    · exact h.light.facade hf
  caches := h.caches
  watched := h.watched
  once {x y n} hx hy := by
    have hnew : ∀ {z n}, (s.addLayer l).2.core z = .native (some n) →
        z = s.layers.length ∧ n = s.native.statements.length
          ∨ s.core z = .native (some n) ∧ n < s.native.statements.length := by
      intro z n hz
      rw [core_addLayer] at hz
      split at hz
      · next he =>
        rw [hl] at hz
        cases hz
        exact .inl ⟨he, rfl⟩
      · exact .inr ⟨hz, ((h.opened n).2 ⟨z, hz⟩).lt⟩
    rcases hnew hx with ⟨rfl, hn⟩ | ⟨hx, hn⟩ <;>
      rcases hnew hy with ⟨rfl, hm⟩ | ⟨hy, hm⟩
    · rfl
    · exact absurd hm (by rw [hn]; exact Nat.lt_irrefl _)
    · exact absurd hn (by rw [hm]; exact Nat.lt_irrefl _)
    · exact h.once hx hy
  opened n := by
    refine (hmade.hasOpen_iff n).trans ?_
    show _ ↔ ∃ x, (s.addLayer l).2.core x = .native (some n)
    rw [h.opened]
    constructor
    · rintro (⟨x, hx⟩ | rfl)
      · refine ⟨x, ?_⟩
        have hlt := lt_of_core (Core.ne_released_of_native hx)
        rw [core_addLayer_of_lt hlt]
        exact hx
      · exact ⟨s.layers.length, by rw [core_addLayer_new]; exact hl⟩
    · rintro ⟨x, hx⟩
      rw [core_addLayer] at hx
      split at hx
      · rw [hl] at hx
        cases hx
        exact .inr rfl
      · exact .inl ⟨x, hx⟩

end Thin

/-- A facade stands on what its delegate stands on. -/
theorem stands_addFacade (hf : s.Formed) {l : Layer} {f : Facade}
    (hl : l.core = .facade f) (hd : f.delegate = some d)
    (hlive : s.core d ≠ .released) :
    (s.addLayer l).2.Stands s.layers.length n ↔ s.Stands d n := by
  have hmeets := Meets.of_grown hlive hf (.addLayer s l)
  have hholds : (s.addLayer l).2.Holds s.layers.length d := by
    rw [Holds, core_addLayer_new, hl]
    exact hd
  exact ⟨fun hn => (hmeets.stands n).1 (hn.of_holds hholds),
    fun hn => .facade hholds ((hmeets.stands n).2 hn)⟩

-- ============================================================ the chain

/-- What the driver is asked for by an operation that creates a
statement, or why it is not asked. -/
def request (s : State) (c : ConnectionId) (op : ConnectionOp) :
    Except Error (Native.Act Native.StatementId) :=
  if s.isClosedConnection c then .error (.closed .connection)
  else match (s.terminalOf c).attachment with
    | some a => .ok (op.making (((s.physical? a.physical).map
        (·.native)).getD 0))
    | none => .error .detached

/-- The driver is asked for the same where all that differs is veiled. -/
theorem Veiled.request (h : s.Veiled t) (c : ConnectionId)
    (op : ConnectionOp) : t.request c op = s.request c op := by
  simp only [State.request, h.isClosedConnection, h.terminalOf, h.physical?]

/-- What the driver is asked for is a statement of the kind and the SQL in
the operation. -/
theorem makes_of_request {make : Native.Act Native.StatementId}
    (hk : op.creates? = some kind) (h : s.request c op = .ok make) :
    make.Makes kind op.sql? := by
  rw [request] at h
  split at h
  · cases h
  · split at h
    · cases h
      exact op.makes_making hk _
    · cases h

/-- What has come up from the lowest `place` links of a chain: a new
handle over the statement `n`. -/
structure Raised (s : State) (c : ConnectionId) (sql : Option String)
    (kind : StatementKind) (place : Nat) (n : Native.StatementId)
    (a : LayerId) (t : State) : Prop where
  beside : s.Beside t
  grown : s.Grown t
  thin : t.Thin
  new : s.layers.length ≤ a
  face : (t.layer? a).map Layer.face = some (sql, kind, some c)
  low : (t.core a).level ≤ place
  stands : t.Stands a n
  opened : ∀ m, t.native.HasOpen m ↔ s.native.HasOpen m ∨ m = n

end State

/-- How asking a chain for a statement ends, given what the driver is
asked for. -/
inductive Raises (s : State) (c : ConnectionId) (op : ConnectionOp)
    (kind : StatementKind) (place : Nat) :
    Except Error (Native.Act Native.StatementId) →
    Except Error ConnectionReply × State → Prop
  | refused {e} : Raises s c op kind place (.error e) (.error e, s)
  | failed {make e} : (make.run s.native).1 = .error e →
      Raises s c op kind place (.ok make)
        (.error (.driver e.unwrapped),
          { s with native := (make.run s.native).2 })
  | made {make n a t} : (make.run s.native).1 = .ok n →
      t.native = (make.run s.native).2 →
      s.Raised c op.sql? kind place n a t →
      Raises s c op kind place (.ok make) (.ok (.statement a), t)

namespace Act

variable {links : List Link}

/-- Asked to create a statement, the terminal hands over what the driver
makes or answers why the driver is not asked. -/
theorem run_askTerminal_creating (hk : op.creates? = some kind)
    (c : ConnectionId) (s : State) :
    (askTerminal c op).run s
      = match s.request c op with
        | .error e => (.error e, s)
        | .ok make => (handleOver c kind op.sql? make).run s := by
  have hc : op ≠ .close := fun he => by subst he; cases hk
  have hi : op ≠ .isClosed := fun he => by subst he; cases hk
  rw [run_askTerminal hc hi, State.request]
  split
  · rfl
  · cases (s.terminalOf c).attachment with
    | none => rfl
    | some a =>
        simp only
        unfold askPhysical
        rw [run_bind, run_get]
        cases op with
        | createStatement | prepareStatement | prepareCall => cases hk; rfl
        | _ => cases hk

/-- The end of a chain puts a native handle around what the driver
makes. -/
theorem raises_askTerminal (h : s.Thin) (hk : op.creates? = some kind) :
    Raises s c op kind 0 (s.request c op) ((askTerminal c op).run s) := by
  rw [run_askTerminal_creating hk]
  cases hr : s.request c op with
  | error e => exact .refused
  | ok make =>
      simp only
      have hmakes := State.makes_of_request hk hr s.native
      unfold handleOver
      rw [run_bind, run_native]
      rcases hm : make.run s.native with ⟨e | n, st⟩ <;> rw [hm] at hmakes
      · have he : (make.run s.native).1 = .error e := congrArg Prod.fst hm
        have hfailed : Raises s c op kind 0 (.ok make) _ := .failed he
        rw [hm] at hfailed
        exact hfailed
      · obtain ⟨rfl, hmade⟩ := hmakes
        let l : Layer := ⟨op.sql?, kind, some c,
          .native (some s.native.statements.length)⟩
        have hgrown := State.Grown.addLayer s l
        have hlayer : (s.addLayer l).2.layer? s.layers.length = some l := by
          rw [State.layer?_addLayer_new]
        have hcore : (s.addLayer l).2.core s.layers.length
            = .native (some s.native.statements.length) :=
          State.core_eq_of_layer? hlayer
        refine .made (by rw [hm]) (by rw [hm])
          ⟨⟨rfl, rfl, rfl, rfl, rfl, rfl⟩, ⟨hgrown.length, hgrown.layer⟩,
            h.addHandle hmade (l := l) rfl, Nat.le_refl _, ?_, ?_,
            .native hcore, hmade.hasOpen_iff⟩
        · show ((s.addLayer l).2.layer? s.layers.length).map _ = _
          rw [hlayer]
          rfl
        · show ((s.addLayer l).2.core s.layers.length).level ≤ 0
          rw [hcore]
          exact Nat.le_refl _

/-- A link that only wraps puts up a light facade, or leaves a statement
as it is. -/
theorem exists_decorate {link : Link} (hlink : link.isWrapper = true)
    (self : LinkId) (kind : StatementKind) (sql : Option String)
    (d : LayerId) (s : State) : ∃ t, s.Unseen t
      ∧ ((decorate link self kind sql d).run s = (.ok d, t)
        ∨ ∃ b : Behaviour, b.isLight = true
          ∧ (decorate link self kind sql d).run s = (.ok t.layers.length,
              (t.addLayer (facadeOf self kind sql d b)).2)) := by
  unfold decorate behaviour?
  cases link with
  | decorator => exact ⟨s, .refl s, .inr ⟨.plain, rfl, rfl⟩⟩
  | recorder config =>
      cases hk : s.recorders.get? self with
      | none =>
          refine ⟨s, .refl s, .inl ?_⟩
          simp only [run_bind, run_get, hk]
          rfl
      | some table =>
          refine ⟨s, .refl s, .inr ⟨.recording table config, rfl, ?_⟩⟩
          simp only [run_bind, run_get, hk]
          rfl
  | counter =>
      refine ⟨{ s with counters := s.counters.modify self fun t =>
        { t with created := t.created + 1 } }, ?_, .inr ⟨.counting self, rfl,
          rfl⟩⟩
      exact ⟨⟨⟨rfl, rfl, rfl, rfl, rfl, rfl⟩, rfl⟩, rfl⟩
  | _ => cases hlink

end Act

namespace State.Raised

variable {sql : Option String} {place : Nat}

/-- What has come up is not released. -/
theorem live (h : s.Raised c sql kind place n a t) :
    t.core a ≠ .released := h.stands.not_released

/-- What a link records does not show. -/
theorem unseen (h : s.Raised c sql kind place n a t) (hu : t.Unseen u) :
    s.Raised c sql kind place n a u where
  beside := h.beside.trans hu.toBeside
  grown := h.grown.trans (.of_layers hu.layers)
  thin := h.thin.spares hu.spares
  new := h.new
  face := by rw [layer?_congr hu.layers]; exact h.face
  low := by rw [core_congr hu.layers]; exact h.low
  stands := ((Meets.of_layers h.live hu.layers).stands n).2 h.stands
  opened m := by rw [hu.native]; exact h.opened m

/-- A facade is put around what has come up. -/
theorem facade (h : s.Raised c sql kind place n a t) {b : Behaviour}
    (hb : b.isLight = true) :
    s.Raised c sql kind (place + 1) n t.layers.length
      (t.addLayer (Act.facadeOf ⟨c, place⟩ kind sql a b)).2 where
  beside := h.beside.trans ⟨rfl, rfl, rfl, rfl, rfl, rfl⟩
  grown := h.grown.trans (.addLayer t _)
  thin := h.thin.addFacade rfl hb rfl rfl h.live (Nat.lt_succ_of_le h.low)
  new := h.grown.length
  face := by
    rw [layer?_addLayer_new]
    rfl
  low := by
    rw [core_addLayer_new]
    exact Nat.le_refl _
  stands := (stands_addFacade h.thin.whole.formed rfl rfl h.live).2 h.stands
  opened := h.opened

theorem mono {place' : Nat} (h : s.Raised c sql kind place n a t)
    (hle : place ≤ place') : s.Raised c sql kind place' n a t :=
  { h with low := Nat.le_trans h.low hle }

end State.Raised

namespace Act

variable {links : List Link}

/-- Links that only wrap raise a handle over what the driver makes. -/
theorem raises_askLinks (h : s.Thin) (hk : op.creates? = some kind)
    (hlinks : ∀ link ∈ links, link.isWrapper = true) :
    Raises s c op kind links.length (s.request c op)
      ((askLinks c links op).run s) := by
  induction links with
  | nil => exact raises_askTerminal h hk
  | cons link rest ih =>
      have hlink := hlinks link List.mem_cons_self
      have hdec : link.decorates.contains kind = true := by
        cases link with
        | decorator | recorder | counter => cases kind <;> rfl
        | _ => cases hlink
      have hask : askLink link ⟨c, rest.length⟩ (askLinks c rest) op
          = intercept link ⟨c, rest.length⟩ (askLinks c rest) op := by
        cases link with
        | decorator | recorder | counter => rfl
        | _ => cases hlink
      have hrest := ih fun l hl => hlinks l (List.mem_cons_of_mem _ hl)
      rw [askLinks, hask, intercept_of_decorates hk hdec, run_bind]
      generalize s.request c op = made at hrest
      revert hrest
      generalize (askLinks c rest op).run s = r
      intro hrest
      cases hrest with
      | refused => exact .refused
      | failed he => exact .failed he
      | @made make n a t hm hnative hraised =>
          simp only [ConnectionReply.toStatement]
          rw [run_bind, run_lift]
          simp only
          rw [run_bind]
          obtain ⟨u, hu, hrun | ⟨b, hb, hrun⟩⟩ := exists_decorate hlink
            ⟨c, rest.length⟩ kind op.sql? a t
          · rw [hrun]
            exact .made hm (hu.native.trans hnative)
              ((hraised.unseen hu).mono (Nat.le_succ _))
          · rw [hrun]
            exact .made hm (hu.native.trans hnative)
              ((hraised.unseen hu).facade hb)

end Act

end PooledChain
